/-
  Supertypes/Proofs/Strategies.lean
  =================================
  **Three ways from a mixed word to a slot.**

  Under a composed seed every strategy takes remainders (`Sizing.pick_of_power`,
  `Sizing.pick_reflect`).  Masking is a remainder by the rounded size, and one fold of it is
  a remainder by the size itself, because rounding up less than doubles.

  A seed does not say which strategy it is read with.  For a size that is a power of two
  nothing is rounded, and it makes no difference: every element has the same natural slot
  under all strategies, and packings come out alike (`pack_congr`).  For any other size a
  word is reduced twice, and still every slot is reached.
-/
import Supertypes.Proofs.Lossless
import Supertypes.Proofs.Placement

namespace Supertypes

variable {cap : Capacity}

/-! ### Remainders -/

theorem maskOf_lt_word {size : Nat} (hsize : size ≤ cap.slots) :
    Seed.maskOf size < UInt64.size := by
  have hwidth := cap.two_fieldWidth_le
  have hmask := Seed.maskOf_lt hsize
  have hpow : 2 ^ cap.fieldWidth ≤ 2 ^ 32 := Nat.pow_le_pow_right (by decide) (by omega)
  have hword : 2 ^ 32 < UInt64.size := by decide
  omega

/-- Masking with the rounded size less one is taking the remainder by it. -/
theorem toNat_and_maskOf (mixed : UInt64) {size : Nat} (hsize : size ≤ cap.slots) :
    (mixed &&& UInt64.ofNat (Seed.maskOf size)).toNat = mixed.toNat % ceilPow2 size := by
  rw [UInt64.toNat_and, UInt64.toNat_ofNat_of_lt' (maskOf_lt_word hsize), Seed.maskOf, ceilPow2,
    Nat.one_shiftLeft, Nat.and_two_pow_sub_one_eq_mod]

namespace Sizing

variable {size : Nat} (hsize : size ≤ cap.slots)
include hsize

theorem pick_reflect (hpos : 0 < size) (mixed : UInt64) :
    reflect.pick mixed size (Seed.maskOf size) = mixed.toNat % ceilPow2 size % size := by
  have hrounded : mixed.toNat % ceilPow2 size < 2 * size :=
    Nat.lt_trans (Nat.mod_lt _ (ceilPow2_pos size)) (ceilPow2_lt_two_mul hpos)
  simp only [pick]
  rw [toNat_and_maskOf mixed hsize, reflectInto_eq_mod hrounded]

/-- On a power of two every strategy takes the remainder by the size. -/
theorem pick_of_power (hpower : size.isPowerOfTwo) (sizing : Sizing) (mixed : UInt64) :
    sizing.pick mixed size (Seed.maskOf size) = mixed.toNat % size := by
  have hround : ceilPow2 size = size := ceilPow2_eq_self_iff.2 hpower
  cases sizing with
  | powerOfTwo =>
    have hmask : size - 1 = Seed.maskOf size := by rw [Seed.maskOf, hround]
    simp only [pick]
    rw [hmask, toNat_and_maskOf mixed hsize, hround]
  | modulo =>
    have hlimit := cap.slots_lt_word
    have hword : size < UInt64.size := by omega
    simp only [pick]
    rw [UInt64.toNat_mod, UInt64.toNat_ofNat_of_lt' hword]
  | reflect =>
    rw [pick_reflect hsize (Nat.pos_of_isPowerOfTwo hpower), hround, Nat.mod_mod]

/-- Below the size the fold changes nothing, so no slot is left out. -/
theorem exists_pick_reflect {slot : Nat} (hslot : slot < size) :
    ∃ mixed : UInt64, reflect.pick mixed size (Seed.maskOf size) = slot := by
  have hlimit := cap.slots_lt_word
  have hword : slot < UInt64.size := by omega
  have hround : slot < ceilPow2 size := Nat.lt_of_lt_of_le hslot (le_ceilPow2 size)
  refine ⟨UInt64.ofNat slot, ?_⟩
  rw [pick_reflect hsize (Nat.zero_lt_of_lt hslot), UInt64.toNat_ofNat_of_lt' hword,
    Nat.mod_eq_of_lt hround, Nat.mod_eq_of_lt hslot]

end Sizing

/-! ### Slots of composed seeds -/

section

variable {word : UInt64} {size : Nat} {seed : Seed cap}

theorem val_of_slotIndex {sizing : Sizing} {code : UInt32} {i : Fin seed.size}
    (hslot : slotIndex sizing code seed = .ok i) :
    i.val = sizing.pick (mix seed.bits code.toUInt64) seed.size seed.mask := by
  unfold slotIndex at hslot
  dsimp only at hslot
  split at hslot
  · cases hslot
  · split at hslot
    · cases hslot
    · split at hslot
      · cases hslot
        rfl
      · cases hslot

variable (hseed : Seed.compose word size = .ok seed)
include hseed

theorem slotIndex_of_compose (hpos : 0 < size) {sizing : Sizing}
    (hlegal : sizing.powerOfTwoOnly = true → size.isPowerOfTwo) (code : UInt32) :
    ∃ i, slotIndex sizing code seed = .ok i ∧
      i.val = sizing.pick (mix seed.bits code.toUInt64) size (Seed.maskOf size) := by
  have hsize := Seed.size_of_compose hseed
  have hcomposed : seed.Composed sizing := ⟨word, size, hseed, Or.inr hlegal⟩
  obtain ⟨i, hi⟩ := slotIndex_of_composed hcomposed (by omega) code
  refine ⟨i, hi, ?_⟩
  rw [val_of_slotIndex hi, hsize, Seed.mask_of_compose hseed]

/-- Whichever strategy a seed is read with, a size that is a power of two gives one slot. -/
theorem slotIndex_congr (hpower : size.isPowerOfTwo) (sizing sizing' : Sizing) (code : UInt32) :
    slotIndex sizing code seed = slotIndex sizing' code seed := by
  have hsize := Seed.size_le_of_compose hseed
  have hpos := Nat.pos_of_isPowerOfTwo hpower
  have hslot : ∀ s : Sizing, ∃ i, slotIndex s code seed = .ok i ∧
      i.val = (mix seed.bits code.toUInt64).toNat % size := by
    intro s
    obtain ⟨i, hi, hval⟩ := slotIndex_of_compose hseed hpos (fun _ => hpower) code
    exact ⟨i, hi, hval.trans (Sizing.pick_of_power hsize hpower s _)⟩
  obtain ⟨i, hi, hval⟩ := hslot sizing
  obtain ⟨j, hj, hval'⟩ := hslot sizing'
  rw [hi, hj, Fin.ext (hval.trans hval'.symm)]

end

/-! ### Packings under two strategies -/

section

variable {α : Type} [Coded α] [DecidableEq α] {sizing sizing' : Sizing} {seed : Seed cap}

/-- If the strategies agree on all slots then they place alike, element by element. -/
theorem Packing.placeAll_congr
    (hslots : ∀ x : α, naturalSlot sizing x seed = naturalSlot sizing' x seed) (es : List α)
    {p : Packing cap α} (hp : p.seed = seed) :
    placeAll sizing es p = placeAll sizing' es p := by
  induction es generalizing p with
  | nil => rfl
  | cons x es ih =>
    have hplace : p.place sizing x = p.place sizing' x := by
      subst hp
      unfold Packing.place
      rw [hslots x]
    simp only [placeAll, hplace]
    cases hq : p.place sizing' x with
    | error fault => rfl
    | ok q => exact ih ((seed_of_place hq).trans hp)

theorem pack_congr {word : UInt64} {size : Nat} (hseed : Seed.compose word size = .ok seed)
    (hpower : size.isPowerOfTwo) (sizing sizing' : Sizing) (groups : List (List α)) :
    pack sizing seed groups = pack sizing' seed groups := by
  rw [pack_eq_placeAll, pack_eq_placeAll]
  exact Packing.placeAll_congr
    (fun x => slotIndex_congr hseed hpower sizing sizing' (Coded.code x)) groups.flatten rfl

end

/-! ### All strategies -/

/-- Seeds can be composed for every size up to the capacity, and read with any strategy that
    may have the size they give every code a slot.  The slot of the folding strategy is the
    word reduced by the rounded size and then by the size, and folding leaves out no slot.
    On a power of two the strategies agree, so that no element changes its place. -/
theorem strategies_coincide (cap : Capacity) (word : UInt64) (size : Nat) (hpos : 1 ≤ size)
    (hsize : size ≤ cap.slots) :
    ∃ seed : Seed cap, Seed.compose word size = .ok seed ∧ seed.size = size ∧
      (∀ (sizing : Sizing) (code : UInt32), (sizing = .powerOfTwo → size.isPowerOfTwo) →
        ∃ i, slotIndex sizing code seed = .ok i ∧ i.val < size) ∧
      (∃ p, IsLeast {q : Nat | q.isPowerOfTwo ∧ size ≤ q} p ∧
        (∀ code : UInt32, ∃ i, slotIndex .reflect code seed = .ok i ∧
          i.val = (mix seed.bits code.toUInt64).toNat % p % size)) ∧
      (∀ slot < size, ∃ mixed : UInt64, Sizing.reflect.pick mixed size seed.mask = slot) ∧
      (size.isPowerOfTwo → ∀ sizing sizing' : Sizing,
        (∀ code : UInt32, slotIndex sizing code seed = slotIndex sizing' code seed) ∧
        ∀ (α : Type) [Coded α] [DecidableEq α] (groups : List (List α)),
          pack sizing seed groups = pack sizing' seed groups) := by
  obtain ⟨seed, hseed⟩ : ∃ seed : Seed cap, Seed.compose word size = .ok seed :=
    Seed.isOk_compose_iff.2 hsize
  have hfield := Seed.size_of_compose hseed
  refine ⟨seed, hseed, hfield, ?_, ⟨_, isLeast_ceilPow2 size, ?_⟩, ?_, ?_⟩
  · intro sizing code hlegal
    have honly : sizing.powerOfTwoOnly = true → size.isPowerOfTwo := by
      intro honly
      cases sizing with
      | powerOfTwo => exact hlegal rfl
      | modulo => cases honly
      | reflect => cases honly
    obtain ⟨i, hi, -⟩ := slotIndex_of_compose hseed hpos honly code
    exact ⟨i, hi, hfield ▸ i.isLt⟩
  · intro code
    have honly : Sizing.reflect.powerOfTwoOnly = true → size.isPowerOfTwo := by
      rintro ⟨⟩
    obtain ⟨i, hi, hval⟩ := slotIndex_of_compose hseed hpos honly code
    rw [Sizing.pick_reflect hsize hpos] at hval
    exact ⟨i, hi, hval⟩
  · intro slot hslot
    rw [Seed.mask_of_compose hseed]
    exact Sizing.exists_pick_reflect hsize hslot
  · intro hpower sizing sizing'
    refine ⟨slotIndex_congr hseed hpower sizing sizing', ?_⟩
    intro α _ _ groups
    exact pack_congr hseed hpower sizing sizing' groups

/-- Sixteen slots need no folding, and twenty-four are folded from thirty-two. -/
theorem strategies_coincide_sixteen :
    (∃ seed : Seed default, Seed.compose 0xDEADBEEF00000000 16 = .ok seed ∧
      (∃ i, slotIndex .powerOfTwo 0xCAFE seed = .ok i ∧ i.val < 16) ∧
      slotIndex .modulo 0xCAFE seed = slotIndex .reflect 0xCAFE seed) ∧
    ∃ seed : Seed default, Seed.compose 0xDEADBEEF00000000 24 = .ok seed ∧
      (∃ i, slotIndex .reflect 0xCAFE seed = .ok i ∧
        i.val = (mix seed.bits 0xCAFE).toNat % 32 % 24) ∧
      ∃ mixed : UInt64, Sizing.reflect.pick mixed 24 seed.mask = 23 := by
  constructor
  · obtain ⟨seed, hseed, -, hrange, -, -, hpower⟩ :=
      strategies_coincide default 0xDEADBEEF00000000 16 (by decide) (by decide)
    have hsixteen : (16 : Nat).isPowerOfTwo := ⟨4, rfl⟩
    exact ⟨seed, hseed, hrange .powerOfTwo 0xCAFE fun _ => hsixteen,
      (hpower hsixteen .modulo .reflect).1 0xCAFE⟩
  · obtain ⟨seed, hseed, -, -, ⟨p, hleast, hslots⟩, honto, -⟩ :=
      strategies_coincide default 0xDEADBEEF00000000 24 (by decide) (by decide)
    have hround : p = 32 := hleast.unique (isLeast_ceilPow2 24)
    rw [hround] at hslots
    exact ⟨seed, hseed, hslots 0xCAFE, honto 23 (by decide)⟩

end Supertypes
