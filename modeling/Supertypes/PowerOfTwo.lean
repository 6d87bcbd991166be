/-
  Supertypes/PowerOfTwo.lean
  ==========================
  **Rounding up to a power of two.**

  Table sizes, capacities and seed masks are all described by the least power of
  two above some number.  `ceilLog2 n` is its exponent and `ceilPow2 n` the power
  itself, written as a shifted one.  The fact from which the others follow is the
  adjunction `ceilLog2_le_iff`: the exponent is at most `k` exactly when
  `n ≤ 1 <<< k`.
-/

namespace Supertypes

/-! ### The exponent -/

/-- The least `k` with `n ≤ 1 <<< k`. -/
def ceilLog2 (n : Nat) : Nat :=
  if n ≤ 1 then 0 else (n - 1).log2 + 1

theorem ceilLog2_le_iff {n k : Nat} : ceilLog2 n ≤ k ↔ n ≤ 1 <<< k := by
  rw [Nat.one_shiftLeft]
  unfold ceilLog2
  split
  · rename_i h
    have := Nat.two_pow_pos k
    omega
  · rename_i h
    have hne : n - 1 ≠ 0 := by omega
    have := @Nat.log2_lt (n - 1) k hne
    omega

theorem lt_ceilLog2_iff {n k : Nat} : k < ceilLog2 n ↔ 1 <<< k < n := by
  have := @ceilLog2_le_iff n k
  omega

@[simp] theorem ceilLog2_one_shiftLeft (k : Nat) : ceilLog2 (1 <<< k) = k := by
  apply Nat.le_antisymm
  · exact ceilLog2_le_iff.2 (Nat.le_refl _)
  · have h := ceilLog2_le_iff.1 (Nat.le_refl (ceilLog2 (1 <<< k)))
    generalize ceilLog2 (1 <<< k) = m at h ⊢
    rw [Nat.one_shiftLeft, Nat.one_shiftLeft] at h
    exact (Nat.pow_le_pow_iff_right (by decide)).1 h

/-! ### The power -/

/-- The least power of two that is at least `n`; `1` for `0`. -/
def ceilPow2 (n : Nat) : Nat := 1 <<< ceilLog2 n

theorem ceilPow2_pos (n : Nat) : 0 < ceilPow2 n := by
  rw [ceilPow2, Nat.one_shiftLeft]
  exact Nat.two_pow_pos _

theorem le_ceilPow2 (n : Nat) : n ≤ ceilPow2 n := ceilLog2_le_iff.1 (Nat.le_refl _)

theorem ceilPow2_le_iff {n k : Nat} : ceilPow2 n ≤ 1 <<< k ↔ n ≤ 1 <<< k := by
  constructor
  · exact Nat.le_trans (le_ceilPow2 n)
  · intro h
    rw [ceilPow2, Nat.one_shiftLeft, Nat.one_shiftLeft]
    exact Nat.pow_le_pow_right (by omega) (ceilLog2_le_iff.2 h)

/-- Rounding up less than doubles. -/
theorem ceilPow2_lt_two_mul {n : Nat} (h : 0 < n) : ceilPow2 n < 2 * n := by
  unfold ceilPow2
  cases hk : ceilLog2 n with
  | zero =>
    simp only [Nat.shiftLeft_zero]
    omega
  | succ k =>
    have : 1 <<< k < n := lt_ceilLog2_iff.1 (by omega)
    rw [Nat.shiftLeft_succ]
    omega

/-- The least power of two that is at least `n`, as long as it fits into 64 bits. -/
def ceilPow2? (n : Nat) : Option Nat :=
  if ceilPow2 n < UInt64.size then some (ceilPow2 n) else none

/-- The powers of two are the fixed points of rounding up. -/
theorem ceilPow2_eq_self_iff {n : Nat} : ceilPow2 n = n ↔ n.isPowerOfTwo := by
  constructor
  · intro h
    exact ⟨ceilLog2 n, by rw [← Nat.one_shiftLeft]; exact h.symm⟩
  · rintro ⟨k, rfl⟩
    rw [ceilPow2, ← Nat.one_shiftLeft, ceilLog2_one_shiftLeft]

end Supertypes
