/-
  Supertypes/Proofs/Slots.lean
  ============================
  **Every element has a natural slot.**

  `slotIndex` can fail in three ways: the zone has no slots, a size is no power of two
  where it has to be one, or the slot that the strategy picks lies beyond the table.
  None of them happens for a seed that was composed for a size that the strategy may
  have (`Seed.Composed`), as long as there is a zone at all.  The slot is then a number
  below the size that depends on the element alone (`home`), and the packer and the
  lookup can be described without faults.
-/
import Supertypes.Proofs.Codec
import Supertypes.SlotIndex

namespace Supertypes

variable {cap : Capacity}

/-- The seed was composed for a size that tables of the strategy may have. -/
def Seed.Composed (sizing : Sizing) (seed : Seed cap) : Prop :=
  ∃ word size, Seed.compose word size = .ok seed ∧ sizing.Legal size

theorem Seed.Composed.empty (sizing : Sizing) : (Seed.empty : Seed cap).Composed sizing :=
  ⟨0, 0, Seed.compose_zero, Or.inl rfl⟩

/-! ### The strategies stay within the table -/

theorem toNat_and_ofNat_le (word : UInt64) (n : Nat) : (word &&& UInt64.ofNat n).toNat ≤ n := by
  rw [UInt64.toNat_and, UInt64.toNat_ofNat']
  exact Nat.le_trans Nat.and_le_right (Nat.mod_le _ _)

theorem Sizing.pick_lt (sizing : Sizing) (mixed : UInt64) {size : Nat} (hpos : 0 < size)
    (hword : size < UInt64.size) :
    sizing.pick mixed size (Seed.maskOf size) < size := by
  cases sizing with
  | powerOfTwo =>
    have := toNat_and_ofNat_le mixed (size - 1)
    simp only [pick]
    omega
  | modulo =>
    simp only [pick]
    rw [UInt64.toNat_mod, UInt64.toNat_ofNat_of_lt' hword]
    exact Nat.mod_lt _ hpos
  | reflect =>
    -- the mask field is below twice the size, so that one fold is enough
    have hmask := toNat_and_ofNat_le mixed (Seed.maskOf size)
    have hround := ceilPow2_lt_two_mul hpos
    simp only [pick]
    apply reflectInto_lt
    unfold Seed.maskOf at hmask ⊢
    omega

theorem slotIndex_of_composed {sizing : Sizing} {seed : Seed cap} (hseed : seed.Composed sizing)
    (hne : seed.size ≠ 0) (code : UInt32) : ∃ i, slotIndex sizing code seed = .ok i := by
  obtain ⟨word, size, hcompose, hlegal⟩ := hseed
  have hsize := Seed.size_of_compose hcompose
  have hmask := Seed.mask_of_compose hcompose
  have hword : size < UInt64.size := by
    have h1 := Seed.size_le_of_compose hcompose
    have h2 := cap.slots_le
    have h3 : 1 <<< 15 < UInt64.size := by decide
    omega
  have hpick := sizing.pick_lt (mix seed.bits code.toUInt64) (Nat.pos_of_ne_zero (hsize ▸ hne)) hword
  have hpower : ¬ (sizing.powerOfTwoOnly = true ∧ ¬ seed.size.isPowerOfTwo) := by
    rintro ⟨honly, hnot⟩
    rcases hlegal with hzero | hlegal
    · exact hne (hsize.trans hzero)
    · exact hnot (hsize ▸ hlegal honly)
  rw [← hmask, ← hsize] at hpick
  refine ⟨⟨_, hpick⟩, ?_⟩
  simp only [slotIndex, if_neg hne, if_neg hpower, dif_pos hpick]

/-! ### Natural slots as numbers -/

variable {α : Type} [Coded α]

/-- The number of the natural slot, which is `0` if there is none. -/
def home (sizing : Sizing) (seed : Seed cap) (x : α) : Nat :=
  match naturalSlot sizing x seed with
  | .error _ => 0
  | .ok i => i.val

theorem home_of_naturalSlot {sizing : Sizing} {seed : Seed cap} {x : α} {i : Fin seed.size}
    (h : naturalSlot sizing x seed = .ok i) : home sizing seed x = i.val := by
  simp only [home, h]

section

variable {sizing : Sizing} {seed : Seed cap} (hseed : seed.Composed sizing) (hne : seed.size ≠ 0)
include hseed hne

theorem home_lt (x : α) : home sizing seed x < seed.size := by
  obtain ⟨i, hi⟩ := slotIndex_of_composed hseed hne (Coded.code x)
  rw [home_of_naturalSlot (show naturalSlot sizing x seed = .ok i from hi)]
  exact i.isLt

theorem naturalSlot_eq_ok (x : α) :
    naturalSlot sizing x seed = .ok ⟨home sizing seed x, home_lt hseed hne x⟩ := by
  obtain ⟨i, hi⟩ := slotIndex_of_composed hseed hne (Coded.code x)
  have hslot : naturalSlot sizing x seed = .ok i := hi
  rw [hslot]
  exact congrArg Except.ok (Fin.ext (home_of_naturalSlot hslot).symm)

theorem naturalSlot_eq_ok_iff {x : α} {i : Fin seed.size} :
    naturalSlot sizing x seed = .ok i ↔ home sizing seed x = i.val := by
  constructor
  · exact home_of_naturalSlot
  · intro hi
    rw [naturalSlot_eq_ok hseed hne]
    exact congrArg Except.ok (Fin.ext hi)

end

end Supertypes
