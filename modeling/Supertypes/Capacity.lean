/-
  Supertypes/Capacity.lean
  ========================
  **The largest table, and the layout of seeds that follows from it.**

  A capacity is a power of two from `1 <<< 1` to `1 <<< 15`.  It fixes how the 64 bits of
  a seed are divided: two fields just wide enough for a size up to the capacity, and
  the salt in the bits above them.

      63            2 * fieldWidth        fieldWidth               0
      +--------------------+-------------------+-------------------+
      |        salt        |   rounded size - 1 |       size        |
      +--------------------+-------------------+-------------------+
-/
import Supertypes.PowerOfTwo

namespace Supertypes

/-- A largest table size, kept as its exponent. -/
structure Capacity where
  log2 : Nat
  one_le_log2 : 1 ≤ log2
  log2_le : log2 ≤ 15
deriving DecidableEq, Repr

namespace Capacity

def slots (cap : Capacity) : Nat := 1 <<< cap.log2

/-- Two slots. -/
def least : Capacity := ⟨1, by decide, by decide⟩

/-- Two seed fields for a table of this size leave 32 bits of salt. -/
def greatest : Capacity := ⟨15, by decide, by decide⟩

/-- The capacity of a table that is given none: 128 slots. -/
instance : Inhabited Capacity := ⟨⟨7, by decide, by decide⟩⟩

theorem one_le_of_not_lt_least {power : Nat} (h : ¬ power < least.slots) : 1 ≤ power.log2 := by
  have hle : 2 ^ 1 ≤ power := Nat.le_of_not_lt h
  have hne : power ≠ 0 := by omega
  exact (Nat.le_log2 hne).2 hle

theorem le_of_not_greatest_lt {power : Nat} (hlow : ¬ power < least.slots)
    (hhigh : ¬ greatest.slots < power) : power.log2 ≤ 15 := by
  have hle : 2 ^ 1 ≤ power := Nat.le_of_not_lt hlow
  have hne : power ≠ 0 := by omega
  have hpower : power ≤ 2 ^ 15 := Nat.le_of_not_lt hhigh
  have hlt : power < 2 ^ 16 := Nat.lt_of_le_of_lt hpower (by decide)
  exact Nat.le_of_lt_succ ((Nat.log2_lt hne).2 hlt)

/-- Rounds up to a power of two and keeps between the least and the greatest capacity. -/
def ofNat (n : Nat) : Capacity :=
  match ceilPow2? n with
  | none => greatest
  | some power =>
    if hlow : power < least.slots then least
    else if hhigh : greatest.slots < power then greatest
    else ⟨power.log2, one_le_of_not_lt_least hlow, le_of_not_greatest_lt hlow hhigh⟩

/-- A power that leaves the 64 bits is beyond the greatest capacity as well. -/
theorem log2_ofNat (n : Nat) : (ofNat n).log2 = max 1 (min 15 (ceilLog2 n)) := by
  have hpower : ceilPow2 n = 2 ^ ceilLog2 n := Nat.one_shiftLeft _
  have hlt : ∀ j k, 2 ^ j < 2 ^ k ↔ j < k := fun j k => Nat.pow_lt_pow_iff_right (by decide)
  have hword : ceilPow2 n < UInt64.size ↔ ceilLog2 n < 64 := hpower ▸ hlt _ 64
  have hlow : ceilPow2 n < least.slots ↔ ceilLog2 n < 1 := hpower ▸ hlt _ 1
  have hhigh : greatest.slots < ceilPow2 n ↔ 15 < ceilLog2 n := hpower ▸ hlt 15 _
  have hleast : least.log2 = 1 := rfl
  have hgreatest : greatest.log2 = 15 := rfl
  unfold ofNat ceilPow2?
  by_cases h64 : ceilPow2 n < UInt64.size
  · rw [if_pos h64]
    by_cases h1 : ceilPow2 n < least.slots
    · simp only [h1, ↓reduceDIte, hleast]
      omega
    by_cases h15 : greatest.slots < ceilPow2 n
    · simp only [h1, h15, ↓reduceDIte, hgreatest]
      omega
    simp only [h1, h15, ↓reduceDIte]
    rw [hpower, Nat.log2_two_pow]
    omega
  · rw [if_neg h64]
    simp only [hgreatest]
    omega

def compare (c d : Capacity) : Ordering := Ord.compare c.log2 d.log2

def text (cap : Capacity) : String := s!"{cap.slots} (1 << {cap.log2})"

theorem slots_pos (cap : Capacity) : 0 < cap.slots := by
  rw [slots, Nat.one_shiftLeft]
  exact Nat.two_pow_pos _

theorem slots_le (cap : Capacity) : cap.slots ≤ 1 <<< 15 := by
  rw [slots, Nat.one_shiftLeft, Nat.one_shiftLeft]
  exact Nat.pow_le_pow_right (by decide) cap.log2_le

/-! ### Seed fields -/

/-- The width of each of the two low fields of a seed. -/
def fieldWidth (cap : Capacity) : Nat := cap.log2 + 1

def fieldShift (cap : Capacity) : UInt64 := UInt64.ofNat cap.fieldWidth

def sizeMask (cap : Capacity) : UInt64 := (1 <<< cap.fieldShift) - 1

/-- Selects the bits above both low fields. -/
def saltMask (cap : Capacity) : UInt64 := ~~~((1 <<< (2 * cap.fieldShift)) - 1)

/-- One more bit than the exponent leaves room for the capacity itself. -/
theorem slots_lt_fieldWidth (cap : Capacity) : cap.slots < 1 <<< cap.fieldWidth := by
  rw [slots, fieldWidth, Nat.one_shiftLeft, Nat.one_shiftLeft]
  exact Nat.pow_lt_pow_right (by decide) (Nat.lt_succ_self _)

end Capacity

end Supertypes
