/-
  Supertypes/Proofs/Growth.lean
  =============================
  **How far the sizes of a search grow.**

  The ladder of sizes is computed with a bound on its length.  What it is meant to be is
  said without one (`Config.Ascent`): from the first size on, the next one is asked for
  until there is none.  The bound is never met (`ascent_of_ladder`), because the sizes
  ascend and do not pass the capacity.

  A size is left for a larger one only below the capacity and below twice the number of
  elements.  All bounds on the ladder come from that.  One step beyond twice the count is
  less than four times the count where sizes double, and less than a chunk too much where
  they grow by chunks.  The first size already holds the elements, so that one doubling is
  enough, and of the chunks no more can be added than there were at first
  (`ladder_ascends`).
-/
import Mathlib.Algebra.Order.Floor.Div
import Supertypes.Proofs.Sizes

namespace Supertypes

namespace Config

variable {cfg : Config} {count size next : Nat} {sizes : List Nat}

/-! ### One step of growth -/

theorem nextSize_eq_none_iff : cfg.nextSize size count = .ok none ↔
    cfg.allowResizing = false ∨ size = 0 ∨ cfg.capacity.slots ≤ size ∨ 2 * count ≤ size := by
  rw [nextSize]
  constructor
  · intro h
    split at h
    · assumption
    · split at h
      · cases h
      · cases h
  · intro hstop
    rw [if_pos hstop]

/-- A size is left for a larger one only where the table is small in both respects. -/
theorem of_nextSize_eq_some (h : cfg.nextSize size count = .ok (some next)) :
    cfg.allowResizing = true ∧ size < cfg.capacity.slots ∧ size < 2 * count ∧
      next = min (cfg.grownSize size) cfg.capacity.slots := by
  rw [nextSize] at h
  split at h
  · cases h
  · rename_i hgoes
    rw [not_or, Bool.not_eq_false] at hgoes
    split at h
    · cases h
      exact ⟨hgoes.1, by omega, by omega, rfl⟩
    · cases h

theorem grownSize_of_doubling (honly : cfg.sizing.powerOfTwoOnly = true) (size : Nat) :
    cfg.grownSize size = 2 * size := by
  rw [grownSize, if_pos honly]

theorem grownSize_of_chunks (hchunks : cfg.sizing.powerOfTwoOnly = false) (size : Nat) :
    cfg.grownSize size = size + cfg.chunk := by
  rw [grownSize, hchunks, if_neg (by decide)]

/-! ### The first size -/

/-- The least size of the strategy that holds the elements, whatever the capacity. -/
def roundedSize (cfg : Config) (count : Nat) : Nat :=
  if cfg.sizing.powerOfTwoOnly then ceilPow2 count else cfg.chunksFor count * cfg.chunk

theorem initialSize_eq_min (h : cfg.initialSize count = .ok size) (hne : size ≠ 0) :
    size = min (cfg.roundedSize count) cfg.capacity.slots := by
  rw [initialSize] at h
  rw [roundedSize]
  cases honly : cfg.sizing.powerOfTwoOnly with
  | true =>
    simp only [honly, if_true] at h ⊢
    split at h
    · cases h
      exact absurd rfl hne
    · split at h
      · exact (Except.ok.inj h).symm
      · cases h
  | false =>
    simp only [honly, Bool.false_eq_true, if_false] at h ⊢
    split at h
    · cases h
      exact absurd rfl hne
    · split at h
      · cases h
      · split at h
        · exact (Except.ok.inj h).symm
        · cases h

theorem le_chunksFor_mul_chunk (hchunk : 0 < cfg.chunk) (count : Nat) :
    count ≤ cfg.chunksFor count * cfg.chunk := by
  have hround : count + cfg.chunk - 1 < (cfg.chunksFor count + 1) * cfg.chunk :=
    Nat.lt_mul_of_div_lt (Nat.lt_succ_self _) hchunk
  rw [Nat.succ_mul] at hround
  omega

theorem le_roundedSize (hgrows : cfg.sizing.powerOfTwoOnly = false → 0 < cfg.chunk) (count : Nat) :
    count ≤ cfg.roundedSize count := by
  rw [roundedSize]
  split
  · exact le_ceilPow2 count
  · rename_i hchunks
    exact le_chunksFor_mul_chunk (hgrows (Bool.not_eq_true _ ▸ hchunks)) count

/-- The first size holds the elements, as far as the capacity allows. -/
theorem min_le_of_initialSize (h : cfg.initialSize count = .ok size) (hne : size ≠ 0) :
    min count cfg.capacity.slots ≤ size := by
  rw [initialSize_eq_min h hne]
  exact min_le_min_right _ (le_roundedSize (cfg.chunk_pos_of_initialSize h hne) count)

/-! ### Growth without a bound -/

/-- The sizes that are met from a size on, asking for the next one until there is none. -/
inductive Ascent (cfg : Config) (count : Nat) : Nat → List Nat → Prop where
  | top {size : Nat} : cfg.nextSize size count = .ok none → Ascent cfg count size [size]
  | grow {size next : Nat} {sizes : List Nat} : cfg.nextSize size count = .ok (some next) →
      Ascent cfg count next sizes → Ascent cfg count size (size :: sizes)

/-- Each step of growth brings the capacity nearer, so that it is reached in time. -/
theorem ascent_of_sizesFrom (hgrows : cfg.sizing.powerOfTwoOnly = false → 0 < cfg.chunk)
    {steps : Nat} (h : cfg.Rung size) (hsteps : cfg.capacity.slots ≤ size + steps)
    (hsizes : cfg.sizesFrom count steps size = .ok sizes) : cfg.Ascent count size sizes := by
  induction steps generalizing size sizes with
  | zero =>
    cases hsizes
    exact .top (nextSize_eq_none_iff.2 (Or.inr (Or.inr (Or.inl hsteps))))
  | succ steps ih =>
    obtain ⟨found, hfound, hrung⟩ := cfg.nextSize_spec hgrows h count
    cases found with
    | none =>
      simp only [sizesFrom, hfound] at hsizes
      cases hsizes
      exact .top hfound
    | some next =>
      obtain ⟨hlt, hnext⟩ := hrung next rfl
      simp only [sizesFrom, hfound, if_pos hlt] at hsizes
      cases hrest : cfg.sizesFrom count steps next with
      | error fault =>
        rw [hrest] at hsizes
        cases hsizes
      | ok rest =>
        rw [hrest] at hsizes
        cases hsizes
        exact .grow hfound (ih hnext (by omega) hrest)

/-- The ladder is all of the growth: its bound is not met. -/
theorem ascent_of_ladder (hsize : cfg.initialSize count = .ok size)
    (hladder : cfg.ladder count = .ok sizes) : cfg.Ascent count size sizes := by
  simp only [ladder, hsize] at hladder
  rcases cfg.rung_of_initialSize hsize with rfl | hrung
  · rw [sizesFrom_zero] at hladder
    cases hladder
    exact .top (nextSize_eq_none_iff.2 (Or.inr (Or.inl rfl)))
  · have hgrows := cfg.chunk_pos_of_initialSize hsize (Nat.ne_of_gt hrung.pos)
    exact ascent_of_sizesFrom hgrows hrung (Nat.le_add_left _ _) hladder

namespace Ascent

variable (h : cfg.Ascent count size sizes)
include h

theorem eq_cons : ∃ rest, sizes = size :: rest := by
  cases h with
  | top => exact ⟨[], rfl⟩
  | grow => exact ⟨_, rfl⟩

theorem eq_singleton (hfixed : cfg.allowResizing = false) : sizes = [size] := by
  cases h with
  | top => rfl
  | grow hnext =>
    rw [(of_nextSize_eq_some hnext).1] at hfixed
    cases hfixed

/-- Growth goes on from small sizes only. -/
theorem small_of_mem_dropLast : ∀ n ∈ sizes.dropLast, n < 2 * count ∧ n < cfg.capacity.slots := by
  induction h with
  | top => simp
  | grow hnext hrest ih =>
    obtain ⟨rest, rfl⟩ := hrest.eq_cons
    obtain ⟨-, hslots, hcount, -⟩ := of_nextSize_eq_some hnext
    rw [List.dropLast_cons_of_ne_nil (List.cons_ne_nil _ _), List.forall_mem_cons]
    exact ⟨⟨hcount, hslots⟩, ih⟩

theorem last_stops : ∀ n ∈ sizes.getLast?, cfg.nextSize n count = .ok none := by
  induction h with
  | top hstop => simpa using hstop
  | grow hnext hrest ih =>
    obtain ⟨rest, rfl⟩ := hrest.eq_cons
    rwa [List.getLast?_cons_cons]

/-- A bound on the first size and on one step from a small size is a bound on all sizes. -/
theorem lt_of_mem {bound : Nat} (hsize : size < bound)
    (hstep : ∀ n, n < 2 * count → cfg.grownSize n < bound) : ∀ n ∈ sizes, n < bound := by
  induction h with
  | top => simpa using hsize
  | grow hnext hrest ih =>
    obtain ⟨-, -, hcount, hmin⟩ := of_nextSize_eq_some hnext
    rw [List.forall_mem_cons]
    refine ⟨hsize, ih ?_⟩
    rw [hmin]
    exact Nat.lt_of_le_of_lt (Nat.min_le_left _ _) (hstep _ hcount)

/-- A size that holds the elements is doubled once at most. -/
theorem length_le_two (honly : cfg.sizing.powerOfTwoOnly = true)
    (hholds : min count cfg.capacity.slots ≤ size) : sizes.length ≤ 2 := by
  cases h with
  | top => simp
  | grow hnext hrest =>
    obtain ⟨-, hslots, -, hmin⟩ := of_nextSize_eq_some hnext
    rw [grownSize_of_doubling honly] at hmin
    cases hrest with
    | top => simp
    | grow hnext' =>
      obtain ⟨-, hslots', hcount', -⟩ := of_nextSize_eq_some hnext'
      omega

/-- Sizes that grow by chunks reach twice the count after as many chunks as it takes. -/
theorem add_length_mul_chunk (hchunks : cfg.sizing.powerOfTwoOnly = false) : sizes = [size] ∨
    size < cfg.capacity.slots ∧ size + sizes.length * cfg.chunk < 2 * count + 2 * cfg.chunk := by
  induction h with
  | top => exact Or.inl rfl
  | @grow size next sizes hnext hrest ih =>
    right
    obtain ⟨-, hslots, hcount, hmin⟩ := of_nextSize_eq_some hnext
    rw [grownSize_of_chunks hchunks] at hmin
    refine ⟨hslots, ?_⟩
    cases hrest with
    | top =>
      change size + 2 * cfg.chunk < 2 * count + 2 * cfg.chunk
      exact Nat.add_lt_add_right hcount _
    | grow hnext' hrest' =>
      -- the capacity does not cut this step short, because growth goes on after it
      obtain ⟨-, hslots', -, -⟩ := of_nextSize_eq_some hnext'
      obtain ⟨rest, rfl⟩ := hrest'.eq_cons
      obtain ⟨-, hlength⟩ := ih.resolve_left (by simp)
      rw [List.length_cons, Nat.succ_mul]
      omega

/-- No more chunks are added than it took to hold the elements, and one size comes before. -/
theorem length_le_ceilDiv (hchunks : cfg.sizing.powerOfTwoOnly = false) (hchunk : 0 < cfg.chunk)
    (hsize : size = min (cfg.chunksFor count * cfg.chunk) cfg.capacity.slots) :
    sizes.length ≤ count ⌈/⌉ cfg.chunk + 1 := by
  rw [Nat.ceilDiv_eq_add_pred_div]
  rcases h.add_length_mul_chunk hchunks with rfl | ⟨hslots, hlength⟩
  · exact Nat.le_add_left _ _
  · -- the capacity has not cut the first size short, and it holds the elements
    have henough := le_chunksFor_mul_chunk hchunk count
    have hfew : sizes.length * cfg.chunk < (cfg.chunksFor count + 2) * cfg.chunk := by
      rw [Nat.add_mul]
      omega
    exact Nat.le_of_lt_succ (Nat.lt_of_mul_lt_mul_right hfew)

/-- Where sizes may grow, growth ends at the capacity or at a large size. -/
theorem last_large (hresize : cfg.allowResizing = true) (hrungs : cfg.Rungs sizes) :
    ∃ last ∈ sizes.getLast?, last = cfg.capacity.slots ∨ 2 * count ≤ last := by
  obtain ⟨rest, rfl⟩ := h.eq_cons
  have hlast := List.getLast?_eq_some_getLast (List.cons_ne_nil size rest)
  refine ⟨_, hlast, ?_⟩
  have hfit := hrungs.fit _ (List.getLast_mem (List.cons_ne_nil size rest))
  rcases nextSize_eq_none_iff.1 (h.last_stops _ hlast) with hfixed | hzero | htop | hlarge
  · rw [hresize] at hfixed
    cases hfixed
  · exact absurd hzero (Nat.ne_of_gt hfit.pos)
  · exact Or.inl (Nat.le_antisymm hfit.le_slots htop)
  · exact Or.inr hlarge

end Ascent

/-! ### The ladder -/

/-- From the first size on nothing overflows, and growth comes to an end.  The sizes on the
    way are fit and ascend.  All but the last are small, the last is not, and there are few
    of them: the first size already holds the elements, as far as the capacity allows. -/
theorem ladder_ascends (hgrows : cfg.sizing.powerOfTwoOnly = false → 0 < cfg.chunk)
    (hattempts : 0 < cfg.maxAttempts) (hsome : 0 < count) (hmin : cfg.minTableSize ≤ count)
    (hcount : count ≤ 2 ^ 63) :
    ∃ first sizes, cfg.initialSize count = .ok first ∧ cfg.Ascent count first sizes ∧
      cfg.ladder count = .ok sizes ∧ cfg.Rungs sizes ∧ min count cfg.capacity.slots ≤ first ∧
      (∀ n ∈ sizes.dropLast, n < 2 * count ∧ n < cfg.capacity.slots) ∧
      (cfg.allowResizing = true → ∃ last ∈ sizes.getLast?,
        last = cfg.capacity.slots ∨ 2 * count ≤ last) ∧
      (cfg.allowResizing = false → sizes = [first]) ∧
      (cfg.sizing.powerOfTwoOnly = true →
        sizes.length ≤ 2 ∧ ∀ n ∈ sizes, n < 4 * count) ∧
      (cfg.sizing.powerOfTwoOnly = false →
        sizes.length ≤ count ⌈/⌉ cfg.chunk + 1 ∧ ∀ n ∈ sizes, n < 2 * count + cfg.chunk) := by
  obtain ⟨first, hfirst⟩ := exists_initialSize hgrows hcount
  obtain ⟨sizes, hladder, -⟩ := exists_ladder hfirst
  have hascent := ascent_of_ladder hfirst hladder
  have hrung : cfg.Rung first := rung_of_initialSize_of_not hfirst (by omega)
  have hrounded := initialSize_eq_min hfirst (Nat.ne_of_gt hrung.pos)
  have hholds := min_le_of_initialSize hfirst (Nat.ne_of_gt hrung.pos)
  have hrungs : cfg.Rungs sizes := by
    rcases rungs_of_ladder hladder with rfl | hrungs
    · obtain ⟨rest, hcons⟩ := hascent.eq_cons
      cases hcons
      exact absurd hrung.pos (Nat.lt_irrefl 0)
    · exact hrungs
  refine ⟨first, sizes, hfirst, hascent, hladder, hrungs, hholds, hascent.small_of_mem_dropLast,
    fun hresize => hascent.last_large hresize hrungs, hascent.eq_singleton, ?_, ?_⟩
  · intro honly
    rw [roundedSize, if_pos honly] at hrounded
    refine ⟨hascent.length_le_two honly hholds, hascent.lt_of_mem ?_ ?_⟩
    · have hround := ceilPow2_lt_two_mul hsome
      omega
    · intro n hn
      rw [grownSize_of_doubling honly]
      omega
  · intro hchunks
    have hchunk := hgrows hchunks
    rw [roundedSize, hchunks, if_neg (by decide)] at hrounded
    refine ⟨hascent.length_le_ceilDiv hchunks hchunk hrounded, hascent.lt_of_mem ?_ ?_⟩
    · rcases chunksFor_mul_lt hsome hchunk with hone | hround
      · omega
      · omega
    · intro n hn
      rw [grownSize_of_chunks hchunks]
      exact Nat.add_lt_add_right hn _

/-- Sizes that grow by the largest chunk there is. -/
def vastChunks : Config := { sizing := .reflect, chunkSize := 0xFFFFFFFFFFFFFFFF }

/-- The largest count is rounded up to one such chunk, of which the capacity is left. -/
theorem ladder_ascends_vastChunks : 0 < vastChunks.chunk ∧ vastChunks.minTableSize ≤ 2 ^ 63 ∧
    ∃ sizes, vastChunks.initialSize (2 ^ 63) = .ok 128 ∧ vastChunks.Ascent (2 ^ 63) 128 sizes ∧
      vastChunks.Rungs sizes ∧ sizes.length ≤ 2 ∧ sizes.getLast? = some 128 := by
  have hchunk : 0 < vastChunks.chunk := by decide
  have hmin : vastChunks.minTableSize ≤ 2 ^ 63 := by decide
  obtain ⟨first, sizes, hfirst, hascent, -, hrungs, -, -, hlast, -, -, hlength⟩ :=
    ladder_ascends (fun _ => hchunk) (by decide) (by decide) hmin (Nat.le_refl _)
  have hwhole : vastChunks.initialSize (2 ^ 63) = .ok 128 := by decide +kernel
  rw [hwhole] at hfirst
  cases hfirst
  refine ⟨hchunk, hmin, sizes, hwhole, hascent, hrungs, ?_, ?_⟩
  · exact Nat.le_trans (hlength rfl).1 (by decide +kernel)
  · obtain ⟨last, hmem, hcapacity | hlarge⟩ := hlast rfl
    · rwa [hcapacity] at hmem
    · have hle : last ≤ 128 := (hrungs.fit last (List.mem_of_getLast? hmem)).le_slots
      exact absurd (Nat.le_trans hlarge hle) (by decide)

-- three sizes by chunks of three, of which the last is more than twice seven
example : ({ sizing := .modulo, chunkSize := 3 } : Config).ladder 7 = .ok [9, 12, 15] := rfl

end Config

end Supertypes
