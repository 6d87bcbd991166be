/-
  Supertypes/Proofs/Sizes.lean
  ============================
  **The sizes of the ladder are sizes of tables.**

  A size is fit for a table (`Config.Rung`) when it is positive, within the capacity and
  a power of two where the strategy asks for one.  The first size is fit or `0`
  (`rung_of_initialSize`), each step of growth leads from a fit size to a larger one
  (`nextSize_spec`), and so the sizes of the ladder are fit and ascend (`rungs_of_ladder`).

  Once there is a first size, there is a ladder: no sum or product leaves the words on the
  way (`exists_ladder`).  For the growth by chunks this needs one more fact about a fit
  size: below the capacity it is at least one chunk, so that the chunk is small whenever it
  is added to a size.
-/
import Mathlib.Algebra.Ring.Nat
import Supertypes.Ladder

namespace Supertypes

/-! ### Powers of two -/

theorem Capacity.slots_isPowerOfTwo (cap : Capacity) : cap.slots.isPowerOfTwo :=
  ⟨cap.log2, by rw [slots, Nat.one_shiftLeft]⟩

theorem Capacity.slots_lt_word (cap : Capacity) : 2 * cap.slots < UInt64.size := by
  have h1 := cap.slots_le
  have h2 : 2 * (1 <<< 15) < UInt64.size := by decide
  omega

theorem ceilPow2_isPowerOfTwo (n : Nat) : (ceilPow2 n).isPowerOfTwo :=
  ⟨ceilLog2 n, by rw [ceilPow2, Nat.one_shiftLeft]⟩

theorem isPowerOfTwo_min {m n : Nat} (hm : m.isPowerOfTwo) (hn : n.isPowerOfTwo) :
    (min m n).isPowerOfTwo := by
  rcases Nat.le_total m n with h | h
  · rwa [Nat.min_eq_left h]
  · rwa [Nat.min_eq_right h]

namespace Config

variable {cfg : Config} {count size : Nat}

/-! ### Fit sizes -/

/-- A size that a table can have and from which the ladder can go on. -/
structure Rung (cfg : Config) (size : Nat) : Prop where
  pos : 0 < size
  le_slots : size ≤ cfg.capacity.slots
  isPowerOfTwo : cfg.sizing.powerOfTwoOnly = true → size.isPowerOfTwo
  chunk_le : cfg.sizing.powerOfTwoOnly = false → size < cfg.capacity.slots → cfg.chunk ≤ size

theorem Rung.legal (h : cfg.Rung size) : cfg.sizing.Legal size := Or.inr h.isPowerOfTwo

theorem le_chunksFor_mul (hcount : 0 < count) (hchunk : 0 < cfg.chunk) :
    cfg.chunk ≤ cfg.chunksFor count * cfg.chunk := by
  apply Nat.le_mul_of_pos_left
  exact (Nat.one_le_div_iff hchunk).2 (by omega)

/-- Rounding up to whole chunks adds less than a chunk. -/
theorem chunksFor_mul_lt (hcount : 0 < count) (hchunk : 0 < cfg.chunk) :
    cfg.chunksFor count * cfg.chunk = cfg.chunk ∨
      cfg.chunksFor count * cfg.chunk < 2 * count := by
  have hround : cfg.chunksFor count * cfg.chunk ≤ count + cfg.chunk - 1 := Nat.div_mul_le_self _ _
  have hone : 1 ≤ cfg.chunksFor count := (Nat.one_le_div_iff hchunk).2 (by omega)
  rcases Nat.lt_or_ge cfg.chunk count with hlt | hge
  · exact Or.inr (by omega)
  · -- a chunk that holds everything is needed once
    have htwo : cfg.chunksFor count < 2 := by
      rw [chunksFor, Nat.div_lt_iff_lt_mul hchunk]
      omega
    have : cfg.chunksFor count = 1 := by omega
    exact Or.inl (by rw [this, Nat.one_mul])

theorem chunk_pos_of_check (hcheck : cfg.check = .ok ())
    (hgrows : cfg.sizing.powerOfTwoOnly = false) : 0 < cfg.chunk := by
  obtain ⟨-, honly | hchunk, -⟩ := check_eq_ok_iff.1 hcheck
  · rw [hgrows] at honly
    cases honly
  · exact hchunk

/-! ### The first size -/

/-- A first size by chunks was divided by their size. -/
theorem chunk_pos_of_initialSize (h : cfg.initialSize count = .ok size) (hne : size ≠ 0)
    (hgrows : cfg.sizing.powerOfTwoOnly = false) : 0 < cfg.chunk := by
  apply Nat.pos_of_ne_zero
  intro hchunk
  simp only [initialSize, hgrows, Bool.false_eq_true, if_false, if_pos hchunk] at h
  split at h
  · cases h
    exact hne rfl
  · cases h

theorem rung_of_initialSize_of_not (h : cfg.initialSize count = .ok size)
    (hsome : ¬ (cfg.maxAttempts = 0 ∨ count < cfg.minTableSize ∨ count = 0)) : cfg.Rung size := by
  have hslots := cfg.capacity.slots_pos
  simp only [initialSize, if_neg hsome] at h
  cases honly : cfg.sizing.powerOfTwoOnly with
  | true =>
    rw [honly, if_pos rfl] at h
    split at h
    · cases h
      have hceil := ceilPow2_pos count
      refine ⟨by omega, Nat.min_le_right _ _, fun _ => ?_, fun hfalse => ?_⟩
      · exact isPowerOfTwo_min (ceilPow2_isPowerOfTwo count) cfg.capacity.slots_isPowerOfTwo
      · exact absurd (honly.symm.trans hfalse) (by decide)
    · cases h
  | false =>
    rw [honly, if_neg (by decide)] at h
    split at h
    · cases h
    · rename_i hchunk
      split at h
      · cases h
        have hcount : 0 < count := by omega
        have hle := cfg.le_chunksFor_mul hcount (Nat.pos_of_ne_zero hchunk)
        refine ⟨by omega, Nat.min_le_right _ _, fun htrue => ?_, fun _ hlt => by omega⟩
        exact absurd (honly.symm.trans htrue) (by decide)
      · cases h

/-- No slots are tried exactly if there are no attempts or too few elements. -/
theorem initialSize_eq_zero_iff : cfg.initialSize count = .ok 0 ↔
    cfg.maxAttempts = 0 ∨ count < cfg.minTableSize ∨ count = 0 := by
  constructor
  · intro h
    by_contra hsome
    exact absurd (rung_of_initialSize_of_not h hsome).pos (Nat.lt_irrefl 0)
  · intro hnone
    rw [initialSize, if_pos hnone]

theorem rung_of_initialSize (h : cfg.initialSize count = .ok size) : size = 0 ∨ cfg.Rung size := by
  by_cases hnone : cfg.maxAttempts = 0 ∨ count < cfg.minTableSize ∨ count = 0
  · rw [initialSize_eq_zero_iff.2 hnone] at h
    exact Or.inl (Except.ok.inj h).symm
  · exact Or.inr (rung_of_initialSize_of_not h hnone)

theorem exists_initialSize (hgrows : cfg.sizing.powerOfTwoOnly = false → 0 < cfg.chunk)
    (hcount : count ≤ 2 ^ 63) : ∃ size, cfg.initialSize count = .ok size := by
  by_cases hnone : cfg.maxAttempts = 0 ∨ count < cfg.minTableSize ∨ count = 0
  · exact ⟨0, by rw [initialSize, if_pos hnone]⟩
  rw [initialSize, if_neg hnone]
  cases honly : cfg.sizing.powerOfTwoOnly with
  | true =>
    have hround : ceilPow2 count ≤ 1 <<< 63 := ceilPow2_le_iff.2 hcount
    have hword : ceilPow2 count < UInt64.size := Nat.lt_of_le_of_lt hround (by decide)
    exact ⟨min (ceilPow2 count) cfg.capacity.slots, by simp only [if_pos, if_pos hword]⟩
  | false =>
    have hchunk : 0 < cfg.chunk := hgrows honly
    have hpos : 0 < count := by omega
    have hround := cfg.chunksFor_mul_lt hpos hchunk
    have hbound := cfg.chunk_lt
    have hword : cfg.chunksFor count * cfg.chunk < UInt64.size := by
      have : 2 * 2 ^ 63 = UInt64.size := by decide
      omega
    refine ⟨min (cfg.chunksFor count * cfg.chunk) cfg.capacity.slots, ?_⟩
    simp only [Bool.false_eq_true, if_false, if_neg (Nat.ne_of_gt hchunk), if_pos hword]

/-! ### Growth -/

theorem Rung.grownSize_lt (h : cfg.Rung size) (hlt : size < cfg.capacity.slots) :
    cfg.grownSize size < UInt64.size := by
  have hword := cfg.capacity.slots_lt_word
  unfold grownSize
  split
  · omega
  · rename_i honly
    have := h.chunk_le (by simpa using honly) hlt
    omega

theorem nextSize_spec (hgrows : cfg.sizing.powerOfTwoOnly = false → 0 < cfg.chunk)
    (h : cfg.Rung size) (count : Nat) :
    ∃ next, cfg.nextSize size count = .ok next ∧ ∀ n ∈ next, size < n ∧ cfg.Rung n := by
  by_cases hstop : cfg.allowResizing = false ∨ size = 0 ∨ cfg.capacity.slots ≤ size ∨
      2 * count ≤ size
  · exact ⟨none, by rw [nextSize, if_pos hstop], by simp⟩
  have hlt : size < cfg.capacity.slots := by omega
  refine ⟨some (min (cfg.grownSize size) cfg.capacity.slots), ?_, ?_⟩
  · rw [nextSize, if_neg hstop, if_pos (h.grownSize_lt hlt)]
  intro n hn
  cases hn
  have hpos := h.pos
  cases honly : cfg.sizing.powerOfTwoOnly with
  | true =>
    have hgrown : cfg.grownSize size = 2 * size := by rw [grownSize, honly, if_pos rfl]
    have hpower : (2 * size).isPowerOfTwo := by
      obtain ⟨k, hk⟩ := h.isPowerOfTwo honly
      exact ⟨k + 1, by rw [hk, Nat.pow_succ, Nat.mul_comm]⟩
    rw [hgrown]
    refine ⟨by omega, by omega, Nat.min_le_right _ _, fun _ => ?_, fun hfalse => ?_⟩
    · exact isPowerOfTwo_min hpower cfg.capacity.slots_isPowerOfTwo
    · exact absurd (honly.symm.trans hfalse) (by decide)
  | false =>
    have hgrown : cfg.grownSize size = size + cfg.chunk := by
      rw [grownSize, honly]
      rfl
    have hchunk : 0 < cfg.chunk := hgrows honly
    have hle := h.chunk_le honly hlt
    rw [hgrown]
    refine ⟨by omega, by omega, Nat.min_le_right _ _, fun htrue => ?_, fun _ hlt => by omega⟩
    exact absurd (honly.symm.trans htrue) (by decide)

/-! ### The ladder -/

/-- Fit sizes, each larger than those before it. -/
structure Rungs (cfg : Config) (sizes : List Nat) : Prop where
  fit : ∀ n ∈ sizes, cfg.Rung n
  ascending : sizes.Pairwise (· < ·)

theorem sizesFrom_spec (hgrows : cfg.sizing.powerOfTwoOnly = false → 0 < cfg.chunk)
    (h : cfg.Rung size) (count steps : Nat) :
    ∃ sizes, cfg.sizesFrom count steps size = .ok sizes ∧ (∀ n ∈ sizes, size ≤ n) ∧
      cfg.Rungs sizes := by
  have hlast : cfg.Rungs [size] := ⟨by simpa using h, List.pairwise_singleton _ _⟩
  induction steps generalizing size with
  | zero => exact ⟨[size], rfl, by simp, hlast⟩
  | succ steps ih =>
    obtain ⟨next, hnext, hrung⟩ := cfg.nextSize_spec hgrows h count
    cases next with
    | none =>
      refine ⟨[size], ?_, by simp, hlast⟩
      simp only [sizesFrom, hnext]
    | some n =>
      obtain ⟨hlt, hn⟩ := hrung n rfl
      obtain ⟨sizes, hsizes, habove, hrungs⟩ :=
        ih hn ⟨by simpa using hn, List.pairwise_singleton _ _⟩
      have hbeyond : ∀ m ∈ sizes, size < m := fun m hm => Nat.lt_of_lt_of_le hlt (habove m hm)
      refine ⟨size :: sizes, ?_, ?_, ⟨?_, List.pairwise_cons.2 ⟨hbeyond, hrungs.ascending⟩⟩⟩
      · simp only [sizesFrom, hnext, if_pos hlt, hsizes, Except.map]
      · rw [List.forall_mem_cons]
        exact ⟨Nat.le_refl _, fun m hm => Nat.le_of_lt (hbeyond m hm)⟩
      · rw [List.forall_mem_cons]
        exact ⟨h, hrungs.fit⟩

theorem sizesFrom_zero (count steps : Nat) : cfg.sizesFrom count steps 0 = .ok [0] := by
  cases steps with
  | zero => rfl
  | succ steps =>
    have hstop : cfg.nextSize 0 count = .ok none := by
      rw [nextSize, if_pos (Or.inr (Or.inl rfl))]
    simp only [sizesFrom, hstop]

theorem ladder_zero : cfg.ladder 0 = .ok [0] := by
  have hsize : cfg.initialSize 0 = .ok 0 := by
    rw [initialSize, if_pos (Or.inr (Or.inr rfl))]
  simp only [ladder, hsize, sizesFrom_zero]

/-- From a first size on nothing can fail: the ladder is `[0]`, or fit sizes that ascend. -/
theorem exists_ladder (hsize : cfg.initialSize count = .ok size) :
    ∃ sizes, cfg.ladder count = .ok sizes ∧ (sizes = [0] ∨ cfg.Rungs sizes) := by
  simp only [ladder, hsize]
  rcases cfg.rung_of_initialSize hsize with rfl | hrung
  · exact ⟨[0], sizesFrom_zero _ _, Or.inl rfl⟩
  · have hgrows := cfg.chunk_pos_of_initialSize hsize (Nat.ne_of_gt hrung.pos)
    obtain ⟨sizes, hsizes, -, hrungs⟩ := cfg.sizesFrom_spec hgrows hrung count cfg.capacity.slots
    exact ⟨sizes, hsizes, Or.inr hrungs⟩

/-- The ladder begins with the first size. -/
theorem ladder_eq_cons {sizes : List Nat} (h : cfg.ladder count = .ok sizes) :
    ∃ first rest, cfg.initialSize count = .ok first ∧ sizes = first :: rest := by
  unfold ladder at h
  split at h
  · cases h
  · rename_i first hfirst
    refine ⟨first, ?_⟩
    cases hsteps : cfg.capacity.slots with
    | zero => exact absurd cfg.capacity.slots_pos (by omega)
    | succ steps =>
      rw [hsteps, sizesFrom] at h
      split at h
      · cases h
      · cases h
        exact ⟨[], hfirst, rfl⟩
      · split at h
        · rename_i next _ _
          cases hrest : cfg.sizesFrom count steps next with
          | error fault =>
            rw [hrest] at h
            cases h
          | ok rest =>
            rw [hrest] at h
            cases h
            exact ⟨rest, hfirst, rfl⟩
        · cases h
          exact ⟨[], hfirst, rfl⟩

theorem rungs_of_ladder {sizes : List Nat} (h : cfg.ladder count = .ok sizes) :
    sizes = [0] ∨ cfg.Rungs sizes := by
  obtain ⟨size, -, hsize, -⟩ := ladder_eq_cons h
  obtain ⟨found, hfound, hrungs⟩ := cfg.exists_ladder hsize
  rw [hfound] at h
  cases h
  exact hrungs

end Config

end Supertypes
