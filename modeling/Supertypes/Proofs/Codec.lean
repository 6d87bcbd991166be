/-
  Supertypes/Proofs/Codec.lean
  ============================
  **Reading a seed gives back what was composed.**

  `Seed.join` joins three fields of one word with bitwise operations.  The proof goes
  bit by bit: `testBit_join` says where every bit of a joined seed comes from, and each
  reading of a field (`size_join`, `mask_join`) is that statement restricted to the bits
  that the field's mask selects.  So `Seed.compose`, which reads both fields back, fails
  only for a size above the capacity (`compose_eq_ite`).

  The two low fields are `fieldWidth` bits wide, at most 16, so they end at or below
  bit 32 and no shift loses a bit.
-/
import Mathlib.Algebra.Ring.Nat
import Supertypes.Seed

namespace Supertypes

namespace Capacity

variable (cap : Capacity)

theorem two_fieldWidth_le : 2 * cap.fieldWidth ≤ 32 := by
  have := cap.log2_le
  unfold fieldWidth
  omega

theorem toNat_fieldShift : cap.fieldShift.toNat = cap.fieldWidth := by
  have := cap.two_fieldWidth_le
  rw [fieldShift, UInt64.toNat_ofNat_of_lt']
  exact Nat.lt_of_le_of_lt (by omega) (by decide : 32 < UInt64.size)

theorem slots_lt_two_pow : cap.slots < 2 ^ cap.fieldWidth := by
  have := cap.slots_lt_fieldWidth
  rwa [Nat.one_shiftLeft] at this

/-- The word with the `width` low bits set. -/
theorem toNat_lowBits (shift : UInt64) (h : shift.toNat < 64) :
    ((1 <<< shift) - 1 : UInt64).toNat = 2 ^ shift.toNat - 1 := by
  have hpow : 2 ^ shift.toNat < 2 ^ 64 := Nat.pow_lt_pow_right (by decide) h
  have hone : (1 <<< shift : UInt64).toNat = 2 ^ shift.toNat := by
    rw [UInt64.toNat_shiftLeft, Nat.mod_eq_of_lt h, UInt64.toNat_one, Nat.one_shiftLeft,
      Nat.mod_eq_of_lt hpow]
  have hle : (1 : UInt64) ≤ 1 <<< shift := by
    rw [UInt64.le_iff_toNat_le, hone]
    exact Nat.one_le_two_pow
  rw [UInt64.toNat_sub_of_le _ _ hle, hone, UInt64.toNat_one]

theorem toNat_sizeMask : cap.sizeMask.toNat = 2 ^ cap.fieldWidth - 1 := by
  have hwidth := cap.two_fieldWidth_le
  rw [sizeMask, toNat_lowBits, toNat_fieldShift]
  rw [toNat_fieldShift]
  omega

theorem toNat_saltMask : cap.saltMask.toNat = 2 ^ 64 - 1 - (2 ^ (2 * cap.fieldWidth) - 1) := by
  have hwidth := cap.two_fieldWidth_le
  have hshift : (2 * cap.fieldShift).toNat = 2 * cap.fieldWidth := by
    rw [UInt64.toNat_mul, toNat_fieldShift]
    exact Nat.mod_eq_of_lt (Nat.lt_of_le_of_lt hwidth (by decide))
  have hsize : UInt64.size = 2 ^ 64 := rfl
  rw [saltMask, UInt64.toNat_not, toNat_lowBits _ (by omega), hshift, hsize]

/-- The salt mask selects the bits above both fields. -/
theorem testBit_saltMask (i : Nat) :
    cap.saltMask.toNat.testBit i = decide (2 * cap.fieldWidth ≤ i ∧ i < 64) := by
  have hwidth := cap.two_fieldWidth_le
  have hlt : 2 ^ (2 * cap.fieldWidth) - 1 < 2 ^ 64 :=
    Nat.lt_of_lt_of_le (Nat.sub_lt (Nat.two_pow_pos _) Nat.one_pos)
      (Nat.pow_le_pow_right (by decide) (by omega))
  rw [toNat_saltMask, Nat.sub_sub, Nat.add_comm 1, Nat.testBit_two_pow_sub_succ hlt,
    Nat.testBit_two_pow_sub_one]
  by_cases hi : i < 64
  · by_cases hj : 2 * cap.fieldWidth ≤ i
    · simp [hi, hj]
    · simp [hi, hj, Nat.lt_of_not_le hj]
  · simp [hi]

end Capacity

namespace Seed

variable {cap : Capacity} {word : UInt64} {size : Nat} {seed : Seed cap}

/-! ### The bits of a joined seed -/

theorem maskOf_lt (h : size ≤ cap.slots) : maskOf size < 2 ^ cap.fieldWidth := by
  have hround : ceilPow2 size ≤ cap.slots := ceilPow2_le_iff.2 h
  have hpos := ceilPow2_pos size
  have hslots := cap.slots_lt_two_pow
  unfold maskOf
  omega

/-- Where each bit of a joined seed comes from: the size, the mask or the word. -/
theorem testBit_join (word : UInt64) (hsize : size ≤ cap.slots) (i : Nat) :
    (join word size : Seed cap).bits.toNat.testBit i =
      if i < cap.fieldWidth then size.testBit i
      else if i < 2 * cap.fieldWidth then (maskOf size).testBit (i - cap.fieldWidth)
      else word.toNat.testBit i := by
  have hwidth := cap.two_fieldWidth_le
  have hword := word.toNat_lt
  have hlow : size < 2 ^ cap.fieldWidth := Nat.lt_of_le_of_lt hsize cap.slots_lt_two_pow
  have hmask : maskOf size < 2 ^ cap.fieldWidth := maskOf_lt hsize
  have hpow : 2 ^ cap.fieldWidth ≤ 2 ^ 32 := Nat.pow_le_pow_right (by decide) (by omega)
  have hlow' : size < 2 ^ 64 := by omega
  have hmask' : maskOf size < 2 ^ 64 := by omega
  have hshift : cap.fieldShift.toNat % 64 = cap.fieldWidth := by
    rw [cap.toNat_fieldShift]
    omega
  simp only [join, UInt64.toNat_or, UInt64.toNat_and, UInt64.toNat_shiftLeft, hshift,
    UInt64.toNat_ofNat_of_lt' hlow', UInt64.toNat_ofNat_of_lt' hmask', Nat.testBit_or,
    Nat.testBit_and, cap.testBit_saltMask, Nat.testBit_mod_two_pow, Nat.testBit_shiftLeft]
  -- outside its own range each of the three parts is zero
  have hsizeHigh : cap.fieldWidth ≤ i → size.testBit i = false := fun hi =>
    Nat.testBit_lt_two_pow (Nat.lt_of_lt_of_le hlow (Nat.pow_le_pow_right (by decide) hi))
  have hmaskHigh : 2 * cap.fieldWidth ≤ i → (maskOf size).testBit (i - cap.fieldWidth) = false :=
    fun hi => Nat.testBit_lt_two_pow
      (Nat.lt_of_lt_of_le hmask (Nat.pow_le_pow_right (by decide) (by omega)))
  have hwordHigh : 64 ≤ i → word.toNat.testBit i = false := fun hi =>
    Nat.testBit_lt_two_pow (Nat.lt_of_lt_of_le hword (Nat.pow_le_pow_right (by decide) hi))
  by_cases h1 : i < cap.fieldWidth
  · have h2 : ¬ 2 * cap.fieldWidth ≤ i := by omega
    have h3 : ¬ cap.fieldWidth ≤ i := by omega
    simp [h1, h2, h3]
  · by_cases h2 : i < 2 * cap.fieldWidth
    · have h3 : ¬ 2 * cap.fieldWidth ≤ i := by omega
      have h4 : i < 64 := by omega
      simp [h1, h2, h3, h4, hsizeHigh (by omega), Nat.le_of_not_lt h1]
    · by_cases h4 : i < 64
      · simp [h1, h2, h4, hsizeHigh (by omega), hmaskHigh (by omega), Nat.le_of_not_lt h2]
      · simp [h1, h2, h4, hsizeHigh (by omega), hwordHigh (by omega)]

/-! ### Reading the fields -/

theorem size_join (word : UInt64) (hsize : size ≤ cap.slots) :
    (join word size : Seed cap).size = size := by
  apply Nat.eq_of_testBit_eq
  intro i
  rw [Seed.size, UInt64.toNat_and, cap.toNat_sizeMask, Nat.testBit_and,
    Nat.testBit_two_pow_sub_one, testBit_join word hsize]
  by_cases hi : i < cap.fieldWidth
  · simp [hi]
  · have hlt : size < 2 ^ i := Nat.lt_of_lt_of_le
      (Nat.lt_of_le_of_lt hsize cap.slots_lt_two_pow)
      (Nat.pow_le_pow_right (by decide) (Nat.le_of_not_lt hi))
    simp [hi, Nat.testBit_lt_two_pow hlt]

theorem mask_join (word : UInt64) (hsize : size ≤ cap.slots) :
    (join word size : Seed cap).mask = maskOf size := by
  have hwidth := cap.two_fieldWidth_le
  apply Nat.eq_of_testBit_eq
  intro i
  rw [Seed.mask, UInt64.toNat_and, UInt64.toNat_shiftRight, cap.toNat_fieldShift,
    Nat.mod_eq_of_lt (by omega), cap.toNat_sizeMask, Nat.testBit_and, Nat.testBit_shiftRight,
    Nat.testBit_two_pow_sub_one, testBit_join word hsize]
  by_cases hi : i < cap.fieldWidth
  · have h1 : ¬ cap.fieldWidth + i < cap.fieldWidth := by omega
    have h2 : cap.fieldWidth + i < 2 * cap.fieldWidth := by omega
    rw [if_neg h1, if_pos h2, Nat.add_sub_cancel_left]
    simp [hi]
  · have hlt : maskOf size < 2 ^ i := Nat.lt_of_lt_of_le
      (maskOf_lt hsize) (Nat.pow_le_pow_right (by decide) (Nat.le_of_not_lt hi))
    simp [hi, Nat.testBit_lt_two_pow hlt]

/-! ### Composed seeds -/

/-- Only the size decides whether there is a seed, since both fields always read back. -/
theorem compose_eq_ite (word : UInt64) (size : Nat) :
    (compose word size : Except Fault (Seed cap)) =
      if size ≤ cap.slots then .ok (join word size) else .error .seedTooLarge := by
  unfold compose
  by_cases hsize : size ≤ cap.slots
  · have hfits : ¬ cap.slots < size := Nat.not_lt.2 hsize
    simp only [if_neg hfits, size_join word hsize, mask_join word hsize, if_pos hsize, ne_eq,
      not_true_eq_false, if_false]
  · rw [if_neg hsize, if_pos (Nat.lt_of_not_le hsize)]

theorem compose_eq_ok_iff : compose word size = .ok seed ↔
    size ≤ cap.slots ∧ seed = join word size := by
  rw [compose_eq_ite]
  by_cases hsize : size ≤ cap.slots
  · simp [hsize, eq_comm]
  · simp [hsize]

theorem isOk_compose_iff :
    (∃ seed : Seed cap, compose word size = .ok seed) ↔ size ≤ cap.slots := by
  simp only [compose_eq_ok_iff, exists_and_left, exists_eq, and_true]

theorem compose_eq_error_iff {fault : Fault} :
    (compose word size : Except Fault (Seed cap)) = .error fault ↔
      cap.slots < size ∧ fault = .seedTooLarge := by
  rw [compose_eq_ite]
  by_cases hsize : size ≤ cap.slots
  · simp [hsize, Nat.not_lt.2 hsize]
  · simp [hsize, Nat.lt_of_not_le hsize, eq_comm]

theorem size_le_of_compose (h : compose word size = .ok seed) : size ≤ cap.slots :=
  (compose_eq_ok_iff.1 h).1

theorem testBit_compose (h : compose word size = .ok seed) (i : Nat) :
    seed.bits.toNat.testBit i =
      if i < cap.fieldWidth then size.testBit i
      else if i < 2 * cap.fieldWidth then (maskOf size).testBit (i - cap.fieldWidth)
      else word.toNat.testBit i := by
  obtain ⟨hsize, rfl⟩ := compose_eq_ok_iff.1 h
  exact testBit_join word hsize i

theorem size_of_compose (h : compose word size = .ok seed) : seed.size = size := by
  obtain ⟨hsize, rfl⟩ := compose_eq_ok_iff.1 h
  exact size_join word hsize

theorem mask_of_compose (h : compose word size = .ok seed) : seed.mask = maskOf size := by
  obtain ⟨hsize, rfl⟩ := compose_eq_ok_iff.1 h
  exact mask_join word hsize

/-- The seed of a missing zone is the one composed of nothing. -/
theorem compose_zero : (compose 0 0 : Except Fault (Seed cap)) = .ok .empty := by
  have hmask : maskOf 0 = 0 := by decide
  refine compose_eq_ok_iff.2 ⟨Nat.zero_le _, ?_⟩
  simp [empty, join, hmask]

end Seed

end Supertypes
