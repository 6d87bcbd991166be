/-
  Supertypes/Seed.lean
  ====================
  **Seeds: a table size and a salt in one word.**

  A seed holds all that is needed to find the slot of a hash code again: the size of
  the table, the bits that number up to the next power of two, and a random salt.
  The capacity fixes where these fields lie.
-/
import Supertypes.Capacity
import Supertypes.Fault
import Supertypes.Text.Columns
import Supertypes.Text.Record

namespace Supertypes

/-- A word read as size, mask and salt under a capacity. -/
structure Seed (cap : Capacity) where
  bits : UInt64
deriving DecidableEq, Repr

namespace Seed

variable {cap : Capacity}

/-- The seed of a zone that is not there. -/
def empty : Seed cap := ⟨0⟩

def size (seed : Seed cap) : Nat := (seed.bits &&& cap.sizeMask).toNat

/-- The mask field: in a composed seed, the next power of two less one. -/
def mask (seed : Seed cap) : Nat := ((seed.bits >>> cap.fieldShift) &&& cap.sizeMask).toNat

/-- The salt, in its place. -/
def salt (seed : Seed cap) : UInt64 := seed.bits &&& cap.saltMask

def isEmpty (seed : Seed cap) : Bool := seed.size == 0

/-- The mask that belongs to a size; no bits for size `0`. -/
def maskOf (size : Nat) : Nat := ceilPow2 size - 1

/-- Joins a size and its mask with the salt bits of a word. -/
def join (word : UInt64) (size : Nat) : Seed cap where
  bits := (word &&& cap.saltMask) ||| (UInt64.ofNat (maskOf size) <<< cap.fieldShift) |||
    UInt64.ofNat size

/-- The seed of a size and a word, provided that the capacity admits the size.  Both fields
    must read back as they were written. -/
def compose (word : UInt64) (size : Nat) : Except Fault (Seed cap) :=
  if cap.slots < size then .error .seedTooLarge
  else
    let seed : Seed cap := join word size
    if seed.size ≠ size then .error .seedSizeLost
    else if seed.mask ≠ maskOf size then .error .seedMaskLost
    else .ok seed

def text (seed : Seed cap) : String := Text.hexWord seed.bits

def record (seed : Seed cap) : Text.Record where
  name := "Seed"
  fields :=
    [("size", toString seed.size), ("mask", toString seed.mask),
      ("salt", Text.hexWord seed.salt)]

@[simp] theorem size_empty : (empty : Seed cap).size = 0 := by
  simp [size, empty]

@[simp] theorem isEmpty_iff {seed : Seed cap} : seed.isEmpty = true ↔ seed.size = 0 := by
  simp [isEmpty]

end Seed

end Supertypes
