/-
  Supertypes/Table/Basic.lean
  ===========================
  **The lookup table of one class.**

  A table is one array of cells in three zones:

      [ primary slots | secondary slots | tail ]

  The slot zones are as long as their seeds say, the tail is the rest.  An element sits
  in its natural slot of the primary zone if it can, else in its natural slot of the
  secondary zone, else in the tail.  The tag of a slot announces where elements went
  that lost it, so a lookup (`contains`) goes on to a later zone only when an element
  of its slot can be there.  A search of every cell (`scan`) is what it is measured
  against.
-/
import Supertypes.SlotIndex

namespace Supertypes

/-! ### Cells -/

/-- Where the elements went that lost a slot. -/
structure Conflict where
  secondary : Bool := false
  tail : Bool := false
deriving DecidableEq, Repr

namespace Conflict

/-- The slot was lost by nobody. -/
def none : Conflict := {}

def union (t u : Conflict) : Conflict where
  secondary := t.secondary || u.secondary
  tail := t.tail || u.tail

def isEmpty (t : Conflict) : Bool := t == none

/-- The tag as a number: one for the secondary zone, two for the tail. -/
def bits (t : Conflict) : Nat := t.secondary.toNat + 2 * t.tail.toNat

/-- Reads the two low bits of a number. -/
def ofBits (n : Nat) : Conflict where
  secondary := n.testBit 0
  tail := n.testBit 1

def text : Conflict → String
  | ⟨false, false⟩ => "Conflict(0x0)"
  | ⟨true, false⟩ => "Conflict(SECONDARY)"
  | ⟨false, true⟩ => "Conflict(TAIL)"
  | ⟨true, true⟩ => "Conflict(SECONDARY | TAIL)"

/-- The short form for one line of a table. -/
def marker : Conflict → String
  | ⟨false, false⟩ => ""
  | ⟨true, false⟩ => "[S]"
  | ⟨false, true⟩ => "[T]"
  | ⟨true, true⟩ => "[ST]"

@[simp] theorem ofBits_bits (t : Conflict) : ofBits t.bits = t := by
  cases t with
  | mk secondary tail => cases secondary <;> cases tail <;> decide

end Conflict

structure Entry (α : Type) where
  resident : Option α := none
  tag : Conflict := {}
deriving DecidableEq, Repr

namespace Entry

variable {α : Type}

def mark (entry : Entry α) (tag : Conflict) : Entry α :=
  { entry with tag := entry.tag.union tag }

def holds [DecidableEq α] (entry : Entry α) (x : α) : Bool := entry.resident == some x

/-- The element, or a dash of its own, with the tag. -/
def text (render : α → String) (entry : Entry α) : String :=
  (match entry.resident with
    | some x => render x
    | none => "<empty>") ++ "(" ++ entry.tag.text ++ ")"

end Entry

/-! ### Tables -/

/-- A finished table: the zones fit into the storage, and there is a secondary zone
    only next to a primary zone. -/
structure Table (cfg : Config) (α : Type) where
  primary : Seed cfg.capacity
  secondary : Seed cfg.capacity
  storage : Array (Entry α)
  zones_fit : primary.size + secondary.size ≤ storage.size
  secondary_needs_primary : primary.size ≠ 0 ∨ secondary.size = 0
deriving DecidableEq

namespace Table

variable {cfg : Config} {α : Type}

/-- Puts a table together, unless the parts do not belong together. -/
def ofParts (primary secondary : Seed cfg.capacity) (storage : Array (Entry α)) :
    Except Fault (Table cfg α) :=
  if zones_fit : primary.size + secondary.size ≤ storage.size then
    if secondary_needs_primary : primary.size ≠ 0 ∨ secondary.size = 0 then
      .ok { primary, secondary, storage, zones_fit, secondary_needs_primary }
    else .error .orphanSecondary
  else .error .zonesTooLong

/-! ### Zones -/

def tailOffset (t : Table cfg α) : Nat := t.primary.size + t.secondary.size

def primaryZone (t : Table cfg α) : List (Entry α) := t.storage.toList.take t.primary.size

def secondaryZone (t : Table cfg α) : List (Entry α) :=
  (t.storage.toList.drop t.primary.size).take t.secondary.size

def tailZone (t : Table cfg α) : List (Entry α) := t.storage.toList.drop t.tailOffset

def primaryCell (t : Table cfg α) (i : Fin t.primary.size) : Entry α :=
  have inside : i.val < t.storage.size := by
    have := t.zones_fit
    have := i.isLt
    omega
  t.storage[i.val]

def secondaryCell (t : Table cfg α) (i : Fin t.secondary.size) : Entry α :=
  have inside : t.primary.size + i.val < t.storage.size := by
    have := t.zones_fit
    have := i.isLt
    omega
  t.storage[t.primary.size + i.val]

def members (t : Table cfg α) : List α := t.storage.toList.filterMap Entry.resident

def length (t : Table cfg α) : Nat := t.members.length

def isEmpty (t : Table cfg α) : Bool := t.members.isEmpty

theorem zones_append (t : Table cfg α) :
    t.primaryZone ++ t.secondaryZone ++ t.tailZone = t.storage.toList := by
  rw [primaryZone, secondaryZone, tailZone, tailOffset, ← List.drop_drop, List.append_assoc,
    List.take_append_drop, List.take_append_drop]

/-! ### Lookup -/

variable [DecidableEq α]

def scan (t : Table cfg α) (x : α) : Bool := t.storage.any (Entry.holds · x)

/-- Tests whether some cell of the tail holds an element. -/
def inTail (t : Table cfg α) (x : α) : Bool :=
  t.storage.any (Entry.holds · x) t.tailOffset

theorem scan_iff {t : Table cfg α} {x : α} : t.scan x = true ↔ x ∈ t.members := by
  rw [scan, ← Array.any_toList, List.any_eq_true, members, List.mem_filterMap]
  simp only [Entry.holds, beq_iff_eq]

variable [Coded α]

/-- Looks up an element: first its natural primary slot, then, as far as the tags allow,
    its natural secondary slot and the tail. -/
def contains (t : Table cfg α) (x : α) : Except Fault Bool :=
  if t.primary.size = 0 then .ok (t.inTail x)
  else
    match naturalSlot cfg.sizing x t.primary with
    | .error fault => .error fault
    | .ok i =>
      let cell := t.primaryCell i
      if cell.resident = none then .ok false
      else if cell.holds x then .ok true
      else if cell.tag.isEmpty then .ok false
      else if t.secondary.size = 0 then .ok (cell.tag.tail && t.inTail x)
      else
        match naturalSlot cfg.sizing x t.secondary with
        | .error fault => .error fault
        | .ok j =>
          let other := t.secondaryCell j
          if other.resident = none then .ok false
          else if other.holds x then .ok true
          else .ok (cell.tag.tail && other.tag.tail && t.inTail x)

/-! ### Text -/

omit [DecidableEq α] [Coded α] in
def text (render : α → String) (t : Table cfg α) : String :=
  Text.Record.compact
    { name := "SecondarySupers"
      fields :=
        [("primary", t.primary.record.compact), ("secondary", t.secondary.record.compact),
          ("storage", Text.list (t.storage.toList.map (Entry.text render)))] }

end Table

end Supertypes
