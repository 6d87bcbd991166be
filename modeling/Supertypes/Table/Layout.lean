/-
  Supertypes/Table/Layout.lean
  ============================
  **From packings to a table.**

  A layout distributes candidates over the zones of a table.  A first search packs all
  of them into the primary zone.  If enough overflow, a second search packs the overflow
  into the secondary zone; what overflows again is the tail.  The table has the
  residents in their slots, then the tail, and every element outside the primary zone
  leaves its tag on the slots that it lost.
-/
import Supertypes.Search
import Supertypes.Table.Basic

namespace Supertypes

/-- The packings of the two slot zones.  The second packs the tail of the first, and its
    own tail is the tail of the table. -/
structure Layout (cfg : Config) (α : Type) where
  primary : Packing cfg.capacity α
  secondary : Packing cfg.capacity α

namespace Layout

variable {cfg : Config} {α : Type}

/-! ### Distributing candidates -/

section

variable {σ : Type} [Coded α] [DecidableEq α] [SeedSource σ]

/-- Whether the overflow of a primary zone is packed again. -/
def needsSecond (cfg : Config) (primary : Packing cfg.capacity α) : Bool :=
  cfg.secondLevel && primary.size != 0 && decide (cfg.secondLevelMin ≤ primary.tail.size)

/-- Searches for the two packings, the earlier groups having priority. -/
def arrange (cfg : Config) (groups : List (List α)) (source : σ) :
    Logged Fault σ (Layout cfg α) :=
  (search cfg groups source).logged.bind fun primary source =>
    let overflow := primary.tail.toList
    if needsSecond cfg primary then
      (search cfg [overflow] source).logged.map fun secondary => { primary, secondary }
    else { outcome := .ok { primary, secondary := .plain overflow }, source }

end

/-- The elements outside both slot zones. -/
def tail (l : Layout cfg α) : Array α := l.secondary.tail

/-! ### Writing the cells -/

/-- The cells of all zones, as yet without tags.  What was packed is what is stored, so
    that nothing has to be looked up here. -/
def cells (l : Layout cfg α) : Array (Entry α) :=
  (l.primary.slots.map fun slot => { resident := slot.resident }).toArray ++
    (l.secondary.slots.map fun slot => { resident := slot.resident }).toArray ++
    l.tail.map fun x => { resident := some x }

/-- Leaves a tag on the natural slot of each element, in a zone that begins at `offset`.
    The slot must be a cell of the storage. -/
def markAll [Coded α] (sizing : Sizing) (tag : Conflict) {cap : Capacity} (seed : Seed cap)
    (offset : Nat) : List α → Array (Entry α) → Except Fault (Array (Entry α))
  | [], cells => .ok cells
  | x :: xs, cells =>
    match naturalSlot sizing x seed with
    | .error fault => .error fault
    | .ok i =>
      let index := offset + i.val
      if index < cells.size then
        markAll sizing tag seed offset xs (cells.modify index (·.mark tag))
      else .error (.cellOutOfRange cells.size index)

def length (l : Layout cfg α) : Nat := l.primary.size + l.secondary.size + l.tail.size

/-- The cells of all zones with their tags, if they are as many as needed. -/
def taggedCells [Coded α] (l : Layout cfg α) : Except Fault (Array (Entry α)) :=
  if l.cells.size ≠ l.length then .error (.storageMismatch l.cells.size l.length)
  else if l.primary.size = 0 then .ok l.cells
  else
    let below := l.secondary.residentList
    let tail := l.tail.toList
    match markAll cfg.sizing { secondary := true } l.primary.seed 0 below l.cells with
    | .error fault => .error fault
    | .ok cells =>
      match markAll cfg.sizing { tail := true } l.primary.seed 0 tail cells with
      | .error fault => .error fault
      | .ok cells =>
        if l.secondary.size = 0 then .ok cells
        else markAll cfg.sizing { tail := true } l.secondary.seed l.primary.size tail cells

def table [Coded α] (l : Layout cfg α) : Except Fault (Table cfg α) :=
  match l.taggedCells with
  | .error fault => .error fault
  | .ok cells => Table.ofParts l.primary.seed l.secondary.seed cells

end Layout

end Supertypes
