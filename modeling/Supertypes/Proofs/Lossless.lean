/-
  Supertypes/Proofs/Lossless.lean
  ===============================
  **Seeds lose nothing, whatever the capacity.**

  A capacity may be asked for as any number.  It is rounded up to the next power of two
  and kept between two slots and `1 <<< 15` of them (`Capacity.slots_ofNat`), and then it
  shares out the 64 bits of a seed completely and without overlap (`Capacity.SharesOut`).

  Composing depends on a word through its salt bits only (`Seed.compose_congr`), and each
  field is read back as it was.  So a seed can be taken apart and composed again, from its
  salt or from all of its bits, and two seeds are the same exactly if they were composed
  for the same size with the same salt (`codec_lossless`).
-/
import Mathlib.Order.Bounds.Basic
import Supertypes.Proofs.Codec
import Supertypes.Proofs.Sizes

namespace Supertypes

/-! ### Words -/

theorem and_eq_zero_of_testBit {v w : UInt64}
    (h : ∀ i, v.toNat.testBit i = true → w.toNat.testBit i = false) : v &&& w = 0 := by
  apply UInt64.toNat_inj.1
  apply Nat.eq_of_testBit_eq
  intro i
  rw [UInt64.toNat_and, Nat.testBit_and, UInt64.toNat_zero, Nat.zero_testBit]
  cases hv : v.toNat.testBit i with
  | false => rfl
  | true => rw [h i hv, Bool.and_false]

/-! ### Rounding up -/

theorem isLeast_ceilPow2 (n : Nat) : IsLeast {p | p.isPowerOfTwo ∧ n ≤ p} (ceilPow2 n) := by
  refine ⟨⟨ceilPow2_isPowerOfTwo n, le_ceilPow2 n⟩, ?_⟩
  rintro p ⟨⟨k, rfl⟩, hle⟩
  rw [← Nat.one_shiftLeft] at hle ⊢
  exact ceilPow2_le_iff.2 hle

theorem ceilLog2_max_two (n : Nat) : ceilLog2 (max n 2) = max (ceilLog2 n) 1 := by
  apply eq_of_forall_ge_iff
  intro k
  rw [ceilLog2_le_iff, Nat.max_le, Nat.max_le, ceilLog2_le_iff]
  refine and_congr_right' ?_
  have htwo : 2 ^ 1 ≤ 2 ^ k ↔ 1 ≤ k := Nat.pow_le_pow_iff_right (by decide)
  rwa [Nat.one_shiftLeft]

namespace Capacity

/-- The least power of two that has room, within the limits of capacities. -/
theorem slots_ofNat (n : Nat) : (ofNat n).slots = min (ceilPow2 (max n 2)) (1 <<< 15) := by
  have hlog : (ofNat n).log2 = min (ceilLog2 (max n 2)) 15 := by
    rw [log2_ofNat, ceilLog2_max_two]
    omega
  rw [slots, hlog, ceilPow2, Nat.one_shiftLeft, Nat.one_shiftLeft, Nat.one_shiftLeft]
  rcases Nat.le_total (ceilLog2 (max n 2)) 15 with h | h
  · rw [Nat.min_eq_left h, Nat.min_eq_left (Nat.pow_le_pow_right (by decide) h)]
  · rw [Nat.min_eq_right h, Nat.min_eq_right (Nat.pow_le_pow_right (by decide) h)]

/-! ### Masks -/

variable (cap : Capacity)

theorem testBit_sizeMask (i : Nat) :
    cap.sizeMask.toNat.testBit i = decide (i < cap.fieldWidth) := by
  rw [toNat_sizeMask, Nat.testBit_two_pow_sub_one]

/-- The size mask in the place of the mask field. -/
theorem testBit_shifted_sizeMask (i : Nat) :
    (cap.sizeMask <<< cap.fieldShift).toNat.testBit i =
      decide (cap.fieldWidth ≤ i ∧ i < 2 * cap.fieldWidth) := by
  have hwidth := cap.two_fieldWidth_le
  have hshift : cap.fieldWidth % 64 = cap.fieldWidth := Nat.mod_eq_of_lt (by omega)
  rw [UInt64.toNat_shiftLeft, toNat_fieldShift, hshift, Nat.testBit_mod_two_pow,
    Nat.testBit_shiftLeft, testBit_sizeMask, Bool.eq_iff_iff]
  simp only [Bool.and_eq_true, decide_eq_true_iff]
  omega

/-- The two fields and the salt have no bit in common and leave none over. -/
structure SharesOut : Prop where
  size_mask : cap.sizeMask &&& (cap.sizeMask <<< cap.fieldShift) = 0
  size_salt : cap.sizeMask &&& cap.saltMask = 0
  mask_salt : (cap.sizeMask <<< cap.fieldShift) &&& cap.saltMask = 0
  union : cap.sizeMask ||| (cap.sizeMask <<< cap.fieldShift) ||| cap.saltMask = ~~~0
  salt_bits : 32 ≤ (List.range 64).countP fun i => cap.saltMask.toNat.testBit i

theorem countP_testBit_saltMask :
    ((List.range 64).countP fun i => cap.saltMask.toNat.testBit i) = 64 - 2 * cap.fieldWidth := by
  have hwidth := cap.two_fieldWidth_le
  have hsplit : List.range 64 =
      List.range (2 * cap.fieldWidth) ++
        (List.range (64 - 2 * cap.fieldWidth)).map (2 * cap.fieldWidth + ·) := by
    rw [← List.range_add]
    congr 1
    omega
  have hlow : ((List.range (2 * cap.fieldWidth)).countP fun i =>
      cap.saltMask.toNat.testBit i) = 0 := by
    rw [List.countP_eq_zero]
    intro i hi
    rw [List.mem_range] at hi
    rw [testBit_saltMask, decide_eq_true_iff]
    omega
  rw [hsplit, List.countP_append, hlow, List.countP_map, Nat.zero_add, List.countP_eq_length.2]
  · rw [List.length_range]
  · intro i hi
    rw [List.mem_range] at hi
    rw [Function.comp_apply, testBit_saltMask, decide_eq_true_iff]
    omega

theorem sharesOut : cap.SharesOut := by
  have hwidth := cap.two_fieldWidth_le
  refine ⟨?_, ?_, ?_, ?_, ?_⟩
  · apply and_eq_zero_of_testBit
    intro i hi
    rw [testBit_sizeMask, decide_eq_true_iff] at hi
    rw [testBit_shifted_sizeMask, decide_eq_false_iff_not]
    omega
  · apply and_eq_zero_of_testBit
    intro i hi
    rw [testBit_sizeMask, decide_eq_true_iff] at hi
    rw [testBit_saltMask, decide_eq_false_iff_not]
    omega
  · apply and_eq_zero_of_testBit
    intro i hi
    rw [testBit_shifted_sizeMask, decide_eq_true_iff] at hi
    rw [testBit_saltMask, decide_eq_false_iff_not]
    omega
  · apply UInt64.toNat_inj.1
    apply Nat.eq_of_testBit_eq
    intro i
    have hall : (~~~0 : UInt64).toNat = 2 ^ 64 - 1 := by decide
    rw [UInt64.toNat_or, UInt64.toNat_or, Nat.testBit_or, Nat.testBit_or, testBit_sizeMask,
      testBit_shifted_sizeMask, testBit_saltMask, hall, Nat.testBit_two_pow_sub_one,
      Bool.eq_iff_iff]
    simp only [Bool.or_eq_true, decide_eq_true_iff]
    omega
  · rw [countP_testBit_saltMask]
    omega

end Capacity

namespace Seed

variable {cap : Capacity} {word word' : UInt64} {size size' : Nat} {seed seed' : Seed cap}

/-! ### Salts -/

/-- Of the word only the salt bits count. -/
theorem compose_congr (hsalt : word &&& cap.saltMask = word' &&& cap.saltMask) (size : Nat) :
    (compose word size : Except Fault (Seed cap)) = compose word' size := by
  rw [compose_eq_ite, compose_eq_ite, join, join, hsalt]

theorem salt_of_compose (h : compose word size = .ok seed) :
    seed.salt = word &&& cap.saltMask := by
  apply UInt64.toNat_inj.1
  apply Nat.eq_of_testBit_eq
  intro i
  rw [salt, UInt64.toNat_and, UInt64.toNat_and, Nat.testBit_and, Nat.testBit_and,
    cap.testBit_saltMask, testBit_compose h]
  by_cases hi : 2 * cap.fieldWidth ≤ i
  · rw [if_neg (by omega), if_neg (by omega)]
  · simp [hi]

theorem salt_and_saltMask (seed : Seed cap) : seed.salt &&& cap.saltMask = seed.salt := by
  rw [salt, UInt64.and_assoc, UInt64.and_self]

/-! ### Composing again -/

theorem compose_salt (h : compose word size = .ok seed) :
    compose seed.salt seed.size = .ok seed := by
  have hsalt : seed.salt &&& cap.saltMask = word &&& cap.saltMask := by
    rw [salt_and_saltMask, salt_of_compose h]
  rw [compose_congr hsalt, size_of_compose h, h]

theorem compose_bits (h : compose word size = .ok seed) :
    compose seed.bits seed.size = .ok seed := by
  have hsalt : seed.bits &&& cap.saltMask = word &&& cap.saltMask := salt_of_compose h
  rw [compose_congr hsalt, size_of_compose h, h]

/-- A seed is its size and its salt. -/
theorem eq_iff_of_compose (h : compose word size = .ok seed)
    (h' : compose word' size' = .ok seed') :
    seed = seed' ↔ size = size' ∧ word &&& cap.saltMask = word' &&& cap.saltMask := by
  constructor
  · rintro rfl
    refine ⟨?_, ?_⟩
    · rw [← size_of_compose h, size_of_compose h']
    · rw [← salt_of_compose h, salt_of_compose h']
  · rintro ⟨rfl, hsalt⟩
    rw [compose_congr hsalt, h'] at h
    exact (Except.ok.inj h).symm

end Seed

/-! ### Every capacity -/

/-- Whatever number the capacity is made from, it is the next power of two within its
    limits, it shares out the bits of a seed, and seeds can be composed for just the sizes
    up to it.  The fields of a composed seed are read back as they were, and they determine
    it. -/
theorem codec_lossless (n : Nat) :
    (∃ p, IsLeast {q : Nat | q.isPowerOfTwo ∧ max n 2 ≤ q} p ∧
      (Capacity.ofNat n).slots = min p (1 <<< 15)) ∧
    (Capacity.ofNat n).SharesOut ∧
    (∀ (word : UInt64) (size : Nat), size ≤ (Capacity.ofNat n).slots →
      ∃ seed : Seed (.ofNat n), Seed.compose word size = .ok seed ∧ seed.size = size ∧
        (size = 0 → seed.mask = 0) ∧
        (size ≠ 0 → ∃ p, IsLeast {q : Nat | q.isPowerOfTwo ∧ size ≤ q} p ∧ seed.mask = p - 1) ∧
        seed.salt = word &&& (Capacity.ofNat n).saltMask) ∧
    (∀ (word : UInt64) (size : Nat), (Capacity.ofNat n).slots < size →
      (Seed.compose word size : Except Fault (Seed (.ofNat n))) = .error .seedTooLarge) ∧
    (∀ (word word' : UInt64) (size size' : Nat) (seed seed' : Seed (.ofNat n)),
      Seed.compose word size = .ok seed → Seed.compose word' size' = .ok seed' →
        (seed = seed' ↔ size = size' ∧
          word &&& (Capacity.ofNat n).saltMask = word' &&& (Capacity.ofNat n).saltMask)) ∧
    ∀ (word : UInt64) (size : Nat) (seed : Seed (.ofNat n)), Seed.compose word size = .ok seed →
      Seed.compose seed.salt seed.size = .ok seed ∧
        Seed.compose seed.bits seed.size = .ok seed := by
  refine ⟨⟨_, isLeast_ceilPow2 _, Capacity.slots_ofNat n⟩, Capacity.sharesOut _, ?_, ?_, ?_, ?_⟩
  · intro word size hsize
    obtain ⟨seed, hseed⟩ : ∃ seed : Seed (.ofNat n), Seed.compose word size = .ok seed :=
      Seed.isOk_compose_iff.2 hsize
    refine ⟨seed, hseed, Seed.size_of_compose hseed, ?_, ?_, Seed.salt_of_compose hseed⟩
    · rintro rfl
      rw [Seed.mask_of_compose hseed]
      decide
    · intro _
      exact ⟨_, isLeast_ceilPow2 size, Seed.mask_of_compose hseed⟩
  · intro word size hsize
    exact Seed.compose_eq_error_iff.2 ⟨hsize, rfl⟩
  · intro word word' size size' seed seed' h h'
    exact Seed.eq_iff_of_compose h h'
  · intro word size seed h
    exact ⟨Seed.compose_salt h, Seed.compose_bits h⟩

theorem codec_lossless_hundred :
    ∃ seed : Seed (.ofNat 100), Seed.compose 0xDEADBEEF12345678 24 = .ok seed ∧ seed.size = 24 ∧
      seed.mask = 31 ∧ Seed.compose seed.salt seed.size = .ok seed := by
  obtain ⟨-, -, hdecode, -, -, hagain⟩ := codec_lossless 100
  obtain ⟨seed, hseed, hsize, -, hmask, -⟩ := hdecode 0xDEADBEEF12345678 24 (by decide)
  obtain ⟨p, hleast, hp⟩ := hmask (by decide)
  have hround : p = 32 := hleast.unique (isLeast_ceilPow2 24)
  exact ⟨seed, hseed, hsize, by rw [hp, hround], (hagain _ _ seed hseed).1⟩

end Supertypes
