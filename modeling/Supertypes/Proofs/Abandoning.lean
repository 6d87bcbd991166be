/-
  Supertypes/Proofs/Abandoning.lean
  =================================
  **Giving up on a seed changes nothing.**

  A search gives up on a seed as soon as its tail is longer than the best one.  The
  packing of that seed would not be adopted.  But a packing also counts in another way: a
  full table ends the attempts at its size, and an attempt that is given up does not.

  No full table is ever given up.  It has the shortest tail that tables up to its size can
  have (`tail_size_le_of_isFull`), and the best packing so far is such a table, because
  the sizes ascend.  So as long as the search goes on (`Search.Behind`), both ways to try
  a seed do the same, and the two searches move in lock step (`climb_congr`).
-/
import Supertypes.Allocator
import Supertypes.Proofs.Searching

namespace Supertypes

namespace Search

variable {cap : Capacity} {α σ : Type} [SeedSource σ] {trial trial' : Trial cap α}

/-! ### Searches in lock step -/

/-- Two ways to try a seed that agree wherever the attempts at one size get to. -/
theorem trySize_congr {I : Search cap α σ → Prop} {budget size : Nat}
    (hattempt : ∀ s : Search cap α σ, I s → s.attempt trial' size = s.attempt trial size ∧
      ((s.attempt trial size).1 ≠ .done → I (s.attempt trial size).2))
    (attempts : Nat) {s : Search cap α σ} (hs : I s) :
    s.trySize trial' budget size attempts = s.trySize trial budget size attempts ∧
      ((s.trySize trial budget size attempts).1 = .larger →
        I (s.trySize trial budget size attempts).2) := by
  induction attempts generalizing s with
  | zero => exact ⟨rfl, fun _ => hs⟩
  | succ attempts ih =>
    unfold trySize
    by_cases hspent : s.draws.size = budget
    · rw [if_pos hspent, if_pos hspent]
      exact ⟨rfl, by simp⟩
    · rw [if_neg hspent, if_neg hspent]
      obtain ⟨hsame, hnext⟩ := hattempt s hs
      rw [hsame]
      generalize s.attempt trial size = run at hnext
      obtain ⟨verdict, next⟩ := run
      cases verdict with
      | again => exact ih (hnext (by simp))
      | larger => exact ⟨rfl, fun _ => hnext (by simp)⟩
      | done => exact ⟨rfl, by simp⟩
      | broken fault => exact ⟨rfl, by simp⟩

/-- The invariant may speak of the size that is being tried, as long as it passes on to
    larger ones. -/
theorem climb_congr {I : Nat → Search cap α σ → Prop} {budget attempts : Nat} {sizes : List Nat}
    (hgrow : ∀ m n (s : Search cap α σ), m < n → I m s → I n s)
    (hattempt : ∀ size ∈ sizes, ∀ s : Search cap α σ, I size s →
      s.attempt trial' size = s.attempt trial size ∧
        ((s.attempt trial size).1 ≠ .done → I size (s.attempt trial size).2))
    (hascending : sizes.Pairwise (· < ·)) {s : Search cap α σ} (hs : ∀ size ∈ sizes, I size s) :
    s.climb trial' budget attempts sizes = s.climb trial budget attempts sizes := by
  induction sizes generalizing s with
  | nil => rfl
  | cons size sizes ih =>
    obtain ⟨hbeyond, hrest⟩ := List.pairwise_cons.1 hascending
    obtain ⟨hsame, hnext⟩ : s.trySize trial' budget size attempts =
          s.trySize trial budget size attempts ∧
        ((s.trySize trial budget size attempts).1 = .larger →
          I size (s.trySize trial budget size attempts).2) :=
      trySize_congr (hattempt size List.mem_cons_self) attempts (hs size List.mem_cons_self)
    unfold climb
    rw [hsame]
    generalize s.trySize trial budget size attempts = run at hnext
    obtain ⟨verdict, next⟩ := run
    cases verdict with
    | larger =>
      apply ih (fun n hn => hattempt n (List.mem_cons_of_mem _ hn)) hrest
      intro n hn
      exact hgrow size n next (hbeyond n hn) (hnext rfl)
    | again => rfl
    | done => rfl
    | broken fault => rfl

end Search

/-! ### Full tables -/

section

variable {cap : Capacity} {α : Type} [Coded α] {sizing : Sizing} {es : List α}
  {p q : Packing cap α}

theorem Placed.residents_le (hp : Placed sizing es p) : p.residents ≤ p.seed.size := by
  rw [hp.residents, Packing.residentList]
  exact Nat.le_trans (List.length_filterMap_le _ _) (by simp)

/-- Among tables of its size and smaller ones, a full table has the shortest tail. -/
theorem tail_size_le_of_isFull (hp : Placed sizing es p) (hq : Placed sizing es q)
    (hsize : q.seed.size ≤ p.seed.size) (hfull : p.isFull = true) : p.tail.size ≤ q.tail.size := by
  have hall : p.residents = p.seed.size := by simpa [Packing.isFull, Packing.size] using hfull
  have hsome := hq.residents_le
  have hlength := hp.length_eq
  have hlength' := hq.length_eq
  omega

end

/-! ### The two ways to try a seed -/

section

variable {cfg : Config} {α σ : Type} [Coded α] [DecidableEq α] [SeedSource σ]
  {groups : List (List α)}

/-- The search is not over, and it has not seen a table beyond the size. -/
structure Search.Behind (groups : List (List α)) (size : Nat) (s : Search cfg.capacity α σ) :
    Prop where
  reproducible : s.Reproducible groups
  imperfect : s.best.isPerfect = false
  size_le : s.best.seed.size ≤ size

namespace Search.Behind

variable {size : Nat} {s : Search cfg.capacity α σ} {p : Packing cfg.capacity α}
  (hs : s.Behind groups size) (hp : s.Attempted groups size p)
include hs hp

/-- A packing that is given up would be neither adopted nor full. -/
theorem attempt_eq : s.attempt (fullTrial cfg groups) size =
    s.attempt (boundedTrial cfg groups) size := by
  rw [hp.full, hp.bounded]
  by_cases hle : p.tail.size ≤ s.best.tail.size
  · rw [if_pos hle]
  · have hnotFull : p.isFull = false := by
      rw [← Bool.not_eq_true]
      intro hfull
      have hsize : s.best.seed.size ≤ p.seed.size := hp.size_eq ▸ hs.size_le
      exact hle (tail_size_le_of_isFull hp.placed hs.reproducible.placed hsize hfull)
    have hsame : (s.draw size).2.consider p = (s.draw size).2 :=
      consider_of_longer (Nat.lt_of_not_le hle)
    have himperfect : (s.draw size).2.best.isPerfect = false := hs.imperfect
    rw [if_neg hle]
    simp only [weigh, hsame, himperfect, hnotFull, Bool.false_eq_true, if_false]

theorem attempt (hgoes : (s.attempt (boundedTrial cfg groups) size).1 ≠ .done) :
    (s.attempt (boundedTrial cfg groups) size).2.Behind groups size := by
  have hdrawn : (s.draw size).2.Behind groups size :=
    ⟨⟨hs.reproducible.seed, hs.reproducible.packed⟩, hs.imperfect, hs.size_le⟩
  rw [hp.bounded] at hgoes ⊢
  by_cases hle : p.tail.size ≤ s.best.tail.size
  · rw [if_pos hle] at hgoes ⊢
    refine ⟨hdrawn.reproducible.consider hp.composed hp.packed, ?_, ?_⟩
    · rw [← Bool.not_eq_true]
      intro hperfect
      exact hgoes (if_pos hperfect)
    · change ((s.draw size).2.consider p).best.seed.size ≤ size
      unfold consider
      split
      · exact Nat.le_of_eq hp.size_eq
      · exact hs.size_le
  · rw [if_neg hle]
    exact hdrawn

end Search.Behind

/-! ### The whole search -/

/-- The search that gives up on seeds comes to a packing, and in everything it is the search
    that packs every seed to its end: the packing, the seeds drawn and their sizes, and what
    was adopted after how many attempts. -/
theorem search_eq_exhaustiveSearch (hnodup : groups.flatten.Nodup)
    (hfew : groups.flatten.length < UInt32.size) {size : Nat}
    (hsize : cfg.initialSize groups.flatten.length = .ok size) (source : σ) :
    (∃ p, (search cfg groups source).packing = .ok p) ∧
      search cfg groups source = exhaustiveSearch cfg groups source := by
  refine ⟨exists_search hnodup hfew hsize source, ?_⟩
  obtain ⟨sizes, hladder, hsizes⟩ := Config.exists_ladder hsize
  unfold search exhaustiveSearch
  by_cases hnone : sizes = [0]
  · simp only [searchWith, hladder, if_pos hnone]
  · have hrungs := hsizes.resolve_left hnone
    have hsome : groups.flatten ≠ [] := by
      intro hempty
      rw [hempty, List.length_nil, Config.ladder_zero] at hladder
      cases hladder
      exact hnone rfl
    have hstart : ∀ size ∈ sizes,
        ({ best := .plain groups.flatten, source } : Search cfg.capacity α σ).Behind groups size := by
      intro size _
      refine ⟨reproducible_plain cfg groups source, ?_, ?_⟩
      · simpa [Packing.isPerfect, Packing.plain] using hsome
      · simp [Packing.plain]
    have hsame : Search.climb (fullTrial cfg groups) cfg.maxTotalAttempts cfg.maxAttempts sizes
          { best := .plain groups.flatten, source } =
        Search.climb (boundedTrial cfg groups) cfg.maxTotalAttempts cfg.maxAttempts sizes
          { best := .plain groups.flatten, source } := by
      refine Search.climb_congr (I := Search.Behind groups) ?_ ?_ hrungs.ascending hstart
      · intro m n s hmn hs
        exact ⟨hs.reproducible, hs.imperfect, Nat.le_trans hs.size_le (Nat.le_of_lt hmn)⟩
      · intro size hmem s hs
        obtain ⟨p, hp⟩ := exists_attempted hnodup hfew (hrungs.fit size hmem) hs.reproducible
        exact ⟨hs.attempt_eq hp, hs.attempt hp⟩
    simp only [searchWith, hladder, if_neg hnone, hsame]

/-- Both sizes are tried to the end, and two of the six seeds are given up. -/
theorem search_eq_exhaustiveSearch_sixCodes :
    sixThenEight.initialSize sixCodes.flatten.length = .ok 6 ∧
      (search sixThenEight sixCodes ({ salt := 0 } : Allocator)).drawn = 6 ∧
      search sixThenEight sixCodes ({ salt := 0 } : Allocator) =
        exhaustiveSearch sixThenEight sixCodes ({ salt := 0 } : Allocator) := by
  have hsize : sixThenEight.initialSize sixCodes.flatten.length = .ok 6 := by decide
  refine ⟨hsize, by decide +kernel, ?_⟩
  exact (search_eq_exhaustiveSearch (by decide) (by decide) hsize ({ salt := 0 } : Allocator)).2

end

end Supertypes
