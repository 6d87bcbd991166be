/-
  Supertypes/Table/Verify.lean
  ============================
  **Checking a table against itself.**

  Verification recomputes the natural slot of every stored element from the seeds.  A
  resident must sit in it; an element that overflowed must have lost it to another, and
  the tag there must announce where it went.  Each cell gives a report of its own, and
  the report of the table is their sum.
-/
import Supertypes.Report
import Supertypes.Table.Basic

namespace Supertypes

/-- Adds up the reports on the items of a list, in order; the first fault ends it. -/
def Report.sumOver {α : Type} (check : α → Except Fault Report) : List α → Except Fault Report
  | [] => .ok .clean
  | x :: xs =>
    match check x with
    | .error fault => .error fault
    | .ok report =>
      match sumOver check xs with
      | .error fault => .error fault
      | .ok reports => .ok (report + reports)

theorem Report.sumOver_isOk_iff {α : Type} {check : α → Except Fault Report} {xs : List α} :
    (∃ report, Report.sumOver check xs = .ok report ∧ report.isOk = true) ↔
      ∀ x ∈ xs, ∃ report, check x = .ok report ∧ report.isOk = true := by
  induction xs with
  | nil => simp [Report.sumOver]
  | cons x xs ih =>
    rw [List.forall_mem_cons, ← ih]
    cases hx : check x with
    | error fault => simp [Report.sumOver, hx]
    | ok report =>
      cases hxs : Report.sumOver check xs with
      | error fault => simp [Report.sumOver, hx, hxs]
      | ok reports => simp [Report.sumOver, hx, hxs]

/-- How many items of a list occur again later in it. -/
def repeats {α : Type} [DecidableEq α] : List α → Nat
  | [] => 0
  | x :: xs => (if x ∈ xs then 1 else 0) + repeats xs

theorem repeats_eq_zero_iff {α : Type} [DecidableEq α] {xs : List α} :
    repeats xs = 0 ↔ xs.Nodup := by
  induction xs with
  | nil => simp [repeats]
  | cons x xs ih =>
    rw [repeats, List.nodup_cons, ← ih]
    by_cases h : x ∈ xs
    · simp [h]
    · simp [h]

namespace Table

variable {cfg : Config} {α : Type}

/-! ### Single cells -/

/-- The natural cell of an element that overflowed: somebody resides there, and the tag
    announces the element. -/
def checkNatural (announced : Conflict → Bool) (cell : Entry α) : Report :=
  if cell.resident = none then { placeable := 1 }
  else if announced cell.tag then .clean
  else { untagged := 1 }

variable [Coded α]

/-- A resident must sit in its natural slot. -/
def checkPlaced (seed : Seed cfg.capacity) (position : Nat) (x : α) : Except Fault Report :=
  match naturalSlot cfg.sizing x seed with
  | .error fault => .error fault
  | .ok i => .ok (if i.val = position then .clean else { misplaced := 1 })

/-- Checks the natural primary cell of an element that overflowed. -/
def checkPrimaryLoss (t : Table cfg α) (announced : Conflict → Bool) (x : α) :
    Except Fault Report :=
  match naturalSlot cfg.sizing x t.primary with
  | .error fault => .error fault
  | .ok i => .ok (checkNatural announced (t.primaryCell i))

/-- Checks the natural secondary cell of an element that overflowed twice. -/
def checkSecondaryLoss (t : Table cfg α) (announced : Conflict → Bool) (x : α) :
    Except Fault Report :=
  match naturalSlot cfg.sizing x t.secondary with
  | .error fault => .error fault
  | .ok i => .ok (checkNatural announced (t.secondaryCell i))

/-- Adds two reports, the first of them computed first. -/
def both (first second : Except Fault Report) : Except Fault Report :=
  match first with
  | .error fault => .error fault
  | .ok report =>
    match second with
    | .error fault => .error fault
    | .ok other => .ok (report + other)

/-! ### Zones -/

def checkPrimaryCell (t : Table cfg α) (cell : Entry α × Nat) : Except Fault Report :=
  match cell.1.resident with
  | none => .ok .clean
  | some x => checkPlaced t.primary cell.2 x

def checkSecondaryCell (t : Table cfg α) (cell : Entry α × Nat) : Except Fault Report :=
  match cell.1.resident with
  | none => .ok .clean
  | some x => both (checkPlaced t.secondary cell.2 x) (t.checkPrimaryLoss Conflict.secondary x)

def checkTailCell (t : Table cfg α) (cell : Entry α) : Except Fault Report :=
  match cell.resident with
  | none => .ok .clean
  | some x =>
    both
      (if t.primary.size = 0 then .ok .clean else t.checkPrimaryLoss Conflict.tail x)
      (if t.secondary.size = 0 then .ok .clean else t.checkSecondaryLoss Conflict.tail x)

variable [DecidableEq α]

/-- A stored element must be found. -/
def checkFound (t : Table cfg α) (x : α) : Except Fault Report :=
  match t.contains x with
  | .error fault => .error fault
  | .ok true => .ok .clean
  | .ok false => .ok { unreachable := 1 }

/-- The report on the whole table: every zone, every stored element, and elements that
    are stored more than once. -/
def verify (t : Table cfg α) : Except Fault Report :=
  both (Report.sumOver t.checkPrimaryCell t.primaryZone.zipIdx) <|
  both (Report.sumOver t.checkSecondaryCell t.secondaryZone.zipIdx) <|
  both (Report.sumOver t.checkTailCell t.tailZone) <|
  both (.ok { duplicates := repeats t.members }) <|
    Report.sumOver t.checkFound t.members

end Table

end Supertypes
