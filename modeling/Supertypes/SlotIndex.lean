/-
  Supertypes/SlotIndex.lean
  =========================
  **Where an element belongs in a table.**

  The natural slot of a hash code is a function of the code and the seed alone, so a
  lookup finds again the place that was chosen when the table was built.  The result
  carries the proof that it lies within the table; a seed whose fields contradict
  each other gives a fault instead.
-/
import Supertypes.Config
import Supertypes.Mix
import Supertypes.Seed

namespace Supertypes

/-- Elements with the hash code from which their slot is computed. -/
class Coded (α : Type) where
  code : α → UInt32

instance : Coded UInt32 := ⟨id⟩

/-- Folds a value back into the table once, if it lies beyond it. -/
def reflectInto (size value : Nat) : Nat :=
  if size ≤ value then value - size else value

/-- The slot that a strategy picks for a mixed word. -/
def Sizing.pick (sizing : Sizing) (mixed : UInt64) (size mask : Nat) : Nat :=
  match sizing with
  | .powerOfTwo => (mixed &&& UInt64.ofNat (size - 1)).toNat
  | .modulo => (mixed % UInt64.ofNat size).toNat
  | .reflect => reflectInto size (mixed &&& UInt64.ofNat mask).toNat

/-- The natural slot of a hash code in the table that a seed describes. -/
def slotIndex {cap : Capacity} (sizing : Sizing) (code : UInt32) (seed : Seed cap) :
    Except Fault (Fin seed.size) :=
  let size := seed.size
  if size = 0 then .error .emptyTable
  else if sizing.powerOfTwoOnly = true ∧ ¬ size.isPowerOfTwo then .error (.notPowerOfTwo size)
  else
    let index := sizing.pick (mix seed.bits code.toUInt64) size seed.mask
    if h : index < seed.size then .ok ⟨index, h⟩ else .error .slotOutOfRange

def naturalSlot {cap : Capacity} {α : Type} [Coded α] (sizing : Sizing) (x : α)
    (seed : Seed cap) : Except Fault (Fin seed.size) :=
  slotIndex sizing (Coded.code x) seed

theorem reflectInto_lt {size value : Nat} (h : value < 2 * size) :
    reflectInto size value < size := by
  unfold reflectInto
  split <;> omega

/-- Folding a value below twice the size is taking the remainder. -/
theorem reflectInto_eq_mod {size value : Nat} (h : value < 2 * size) :
    reflectInto size value = value % size := by
  unfold reflectInto
  split
  · rename_i hle
    rw [Nat.mod_eq_sub_mod hle, Nat.mod_eq_of_lt (by omega)]
  · rw [Nat.mod_eq_of_lt (by omega)]

end Supertypes
