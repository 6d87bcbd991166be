/-
  Supertypes/Packing.lean
  =======================
  **Packing elements into slots.**

  Elements are placed one after another.  The first to arrive at its natural slot
  resides there and is never evicted; a later one is displaced to the tail.  Each slot
  counts how many it displaced.  Packing is therefore determined by the seed and the
  order of the elements, and elements that come first have priority.

  Groups are packed one after another, which comes to the same as packing their elements
  in a row (`placeGroups_eq`, `placeGroupsWithin_eq`).
-/
import Supertypes.Score
import Supertypes.SlotIndex

namespace Supertypes

/-- One slot of a table under construction. -/
structure Slot (α : Type) where
  resident : Option α := none
  /-- How many elements of the tail belong here. -/
  displaced : Nat := 0
deriving DecidableEq, Repr

/-- The outcome of packing elements with one seed. -/
structure Packing (cap : Capacity) (α : Type) where
  seed : Seed cap
  slots : Vector (Slot α) seed.size
  /-- The displaced elements, in the order of their arrival. -/
  tail : Array α
  /-- The number of occupied slots. -/
  residents : Nat
  /-- The number of slots that displaced an element. -/
  conflicts : Nat

namespace Packing

variable {cap : Capacity} {α : Type}

def vacant (seed : Seed cap) : Packing cap α where
  seed := seed
  slots := Vector.replicate seed.size {}
  tail := #[]
  residents := 0
  conflicts := 0

/-- A packing without slots: all elements in the tail, in order. -/
def plain (xs : List α) : Packing cap α where
  seed := .empty
  slots := Vector.replicate _ {}
  tail := xs.toArray
  residents := 0
  conflicts := 0

/-! ### Measures -/

def size (p : Packing cap α) : Nat := p.seed.size

def vacancies (p : Packing cap α) : Nat := p.size - p.residents

def length (p : Packing cap α) : Nat := p.residents + p.tail.size

def isPerfect (p : Packing cap α) : Bool := p.tail.isEmpty

def isFull (p : Packing cap α) : Bool := p.residents == p.size

def isEmpty (p : Packing cap α) : Bool := p.length == 0

def score (p : Packing cap α) : Score where
  tail := p.tail.size
  conflicts := p.conflicts
  vacant := p.vacancies

def residentList (p : Packing cap α) : List α :=
  p.slots.toList.filterMap Slot.resident

/-! ### Placing elements -/

variable [Coded α] [DecidableEq α]

/-- Puts an element into a slot that is vacant. -/
def settle (p : Packing cap α) (i : Fin p.seed.size) (x : α) : Packing cap α :=
  { p with
    slots := p.slots.set i { p.slots[i] with resident := some x }
    residents := p.residents + 1 }

/-- Sends an element to the tail and counts it in the slot that it lost. -/
def displace (p : Packing cap α) (i : Fin p.seed.size) (x : α) : Packing cap α :=
  { p with
    slots := p.slots.set i { p.slots[i] with displaced := p.slots[i].displaced + 1 }
    tail := p.tail.push x
    conflicts := if p.slots[i].displaced = 0 then p.conflicts + 1 else p.conflicts }

/-- Places one element at its natural slot, or else in the tail.  An element must differ
    from the resident that it meets, and a slot counts what it displaced within 32 bits. -/
def place (sizing : Sizing) (p : Packing cap α) (x : α) : Except Fault (Packing cap α) :=
  if p.seed.size = 0 then .ok { p with tail := p.tail.push x }
  else
    match naturalSlot sizing x p.seed with
    | .error fault => .error fault
    | .ok i =>
      match p.slots[i].resident with
      | none => .ok (p.settle i x)
      | some y =>
        if y = x then .error .duplicateElement
        else if p.slots[i].displaced + 1 < UInt32.size then .ok (p.displace i x)
        else .error .addOverflow

def placeAll (sizing : Sizing) : List α → Packing cap α → Except Fault (Packing cap α)
  | [], p => .ok p
  | x :: xs, p =>
    match p.place sizing x with
    | .error fault => .error fault
    | .ok p => placeAll sizing xs p

/-- Places elements in order, but gives up once the tail is longer than `limit`. -/
def placeWithin (sizing : Sizing) (limit : Nat) :
    List α → Packing cap α → Except Fault (Option (Packing cap α))
  | [], p => .ok (some p)
  | x :: xs, p =>
    match p.place sizing x with
    | .error fault => .error fault
    | .ok p => if limit < p.tail.size then .ok none else placeWithin sizing limit xs p

/-! ### Placing groups -/

def placeGroups (sizing : Sizing) :
    List (List α) → Packing cap α → Except Fault (Packing cap α)
  | [], p => .ok p
  | group :: groups, p =>
    match placeAll sizing group p with
    | .error fault => .error fault
    | .ok p => placeGroups sizing groups p

/-- Places groups in order; once the tail is too long, the groups that follow are left out. -/
def placeGroupsWithin (sizing : Sizing) (limit : Nat) :
    List (List α) → Packing cap α → Except Fault (Option (Packing cap α))
  | [], p => .ok (some p)
  | group :: groups, p =>
    match placeWithin sizing limit group p with
    | .error fault => .error fault
    | .ok none => .ok none
    | .ok (some p) => placeGroupsWithin sizing limit groups p

theorem placeAll_append (sizing : Sizing) (xs ys : List α) (p : Packing cap α) :
    placeAll sizing (xs ++ ys) p =
      match placeAll sizing xs p with
      | .error fault => .error fault
      | .ok p => placeAll sizing ys p := by
  induction xs generalizing p with
  | nil => rfl
  | cons x xs ih =>
    simp only [List.cons_append, placeAll]
    cases p.place sizing x with
    | error fault => rfl
    | ok next => exact ih next

theorem placeWithin_append (sizing : Sizing) (limit : Nat) (xs ys : List α) (p : Packing cap α) :
    placeWithin sizing limit (xs ++ ys) p =
      match placeWithin sizing limit xs p with
      | .error fault => .error fault
      | .ok none => .ok none
      | .ok (some p) => placeWithin sizing limit ys p := by
  induction xs generalizing p with
  | nil => rfl
  | cons x xs ih =>
    simp only [List.cons_append, placeWithin]
    cases p.place sizing x with
    | error fault => rfl
    | ok next =>
      by_cases hlong : limit < next.tail.size
      · simp only [if_pos hlong]
      · simp only [if_neg hlong]
        exact ih next

/-- How elements are grouped makes no difference, only their order does. -/
theorem placeGroups_eq (sizing : Sizing) (groups : List (List α)) (p : Packing cap α) :
    placeGroups sizing groups p = placeAll sizing groups.flatten p := by
  induction groups generalizing p with
  | nil => rfl
  | cons group groups ih => simp only [placeGroups, List.flatten_cons, placeAll_append, ih]

theorem placeGroupsWithin_eq (sizing : Sizing) (limit : Nat) (groups : List (List α))
    (p : Packing cap α) :
    placeGroupsWithin sizing limit groups p = placeWithin sizing limit groups.flatten p := by
  induction groups generalizing p with
  | nil => rfl
  | cons group groups ih =>
    simp only [placeGroupsWithin, List.flatten_cons, placeWithin_append, ih]

end Packing

/-! ### Packing groups -/

section

variable {cap : Capacity} {α : Type} [Coded α] [DecidableEq α]

/-- Packs groups of elements, the earlier groups first. -/
def pack (sizing : Sizing) (seed : Seed cap) (groups : List (List α)) :
    Except Fault (Packing cap α) :=
  Packing.placeGroups sizing groups (.vacant seed)

/-- Packs groups of elements unless the tail outgrows `limit`.  The limit leaves room
    for one more element within 64 bits. -/
def packWithin (sizing : Sizing) (seed : Seed cap) (groups : List (List α)) (limit : Nat) :
    Except Fault (Option (Packing cap α)) :=
  if limit + 1 < UInt64.size then Packing.placeGroupsWithin sizing limit groups (.vacant seed)
  else .error .addOverflow

theorem pack_eq_placeAll (sizing : Sizing) (seed : Seed cap) (groups : List (List α)) :
    pack sizing seed groups = Packing.placeAll sizing groups.flatten (.vacant seed) :=
  Packing.placeGroups_eq sizing groups _

/-- Without slots every element is in the tail. -/
theorem pack_empty (sizing : Sizing) (groups : List (List α)) :
    pack sizing (.empty : Seed cap) groups = .ok (.plain groups.flatten) := by
  have general : ∀ (xs : List α) (p : Packing cap α), p.seed.size = 0 →
      Packing.placeAll sizing xs p = .ok { p with tail := p.tail ++ xs.toArray } := by
    intro xs
    induction xs with
    | nil => intro p _; simp [Packing.placeAll]
    | cons x xs ih =>
      intro p hp
      simp only [Packing.placeAll, Packing.place, hp, if_pos]
      rw [ih { p with tail := p.tail.push x } hp]
      simp
  have hrun := general groups.flatten (.vacant .empty) Seed.size_empty
  simpa [pack_eq_placeAll, Packing.plain, Packing.vacant] using hrun

end

/-! ### Text -/

def Slot.text {α : Type} (render : α → String) (slot : Slot α) : String :=
  Text.Record.compact
    { name := "Slot"
      fields :=
        [("resident", Text.option (slot.resident.map render)),
          ("displaced", toString slot.displaced)] }

def Packing.text {cap : Capacity} {α : Type} (render : α → String) (p : Packing cap α) :
    String :=
  Text.Record.compact
    { name := "Packing"
      fields :=
        [("seed", p.seed.record.compact),
          ("slots", Text.list (p.slots.toList.map (Slot.text render))),
          ("tail", Text.list (p.tail.toList.map render)),
          ("residents", toString p.residents),
          ("conflicts", toString p.conflicts)] }

end Supertypes
