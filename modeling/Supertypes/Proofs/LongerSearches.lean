/-
  Supertypes/Proofs/LongerSearches.lean
  =====================================
  **A larger budget never worsens a search.**

  Two searches with the same elements and the same source, one of which may draw more
  seeds in all and may go on to larger sizes where the other may not, do the same as long
  as both go on.  The one with the larger budget is not stopped first: it is the other one
  to its end, or it goes on from there (`Search.Outlasts`).  The sizes that one tries are
  the first of those that the other tries (`Config.Ascent.initial`).

  To go on is to draw more and to find nothing worse (`Search.Further`).  This needs nothing
  of the sizes, as an attempt replaces the best packing by a better one only, and larger
  tables are compared with smaller ones like any others.
-/
import Supertypes.Proofs.Budgets

namespace Supertypes

namespace Config

/-! ### Larger budgets -/

/-- The same parameters with another total budget, and with or without larger sizes. -/
abbrev withBudget (cfg : Config) (total : Nat) (resizing : Bool) : Config :=
  { cfg with maxTotalAttempts := total, allowResizing := resizing }

/-- Where sizes may grow, they grow in the same way. -/
theorem nextSize_withBudget {cfg : Config} {size count next total : Nat}
    (h : cfg.nextSize size count = .ok (some next)) :
    (cfg.withBudget total true).nextSize size count = .ok (some next) := by
  have hresize : cfg.allowResizing = true := (of_nextSize_eq_some h).1
  rw [nextSize, hresize] at h
  exact h

/-- Growth that goes on wherever another growth does begins with the sizes of the other. -/
theorem Ascent.initial {cfg cfg' : Config} {count size : Nat} {sizes sizes' : List Nat}
    (hgrows : ∀ n next, cfg.nextSize n count = .ok (some next) →
      cfg'.nextSize n count = .ok (some next))
    (h : cfg.Ascent count size sizes) (h' : cfg'.Ascent count size sizes') : sizes <+: sizes' := by
  induction h generalizing sizes' with
  | top =>
    obtain ⟨rest, rfl⟩ := h'.eq_cons
    exact ⟨rest, rfl⟩
  | grow hnext _ ih =>
    have hsame := hgrows _ _ hnext
    cases h' with
    | top hstop =>
      rw [hstop] at hsame
      cases hsame
    | grow hnext' hrest' =>
      rw [hnext'] at hsame
      cases hsame
      exact List.cons_prefix_cons.2 ⟨rfl, ih hrest'⟩

end Config

namespace Search

variable {cap : Capacity} {α σ : Type}

/-! ### Going on -/

/-- A search that has come at least as far as another: it has drawn what the other has, in
    the same order, and its best packing is at least as good. -/
structure Further (s t : Search cap α σ) : Prop where
  draws : s.draws.toList <+: t.draws.toList
  score_le : t.best.score ≤ s.best.score

theorem Further.refl (s : Search cap α σ) : s.Further s :=
  ⟨List.prefix_rfl, Score.le_refl _⟩

theorem Further.trans {s t u : Search cap α σ} (hst : s.Further t) (htu : t.Further u) :
    s.Further u :=
  ⟨hst.draws.trans htu.draws, Score.le_trans htu.score_le hst.score_le⟩

theorem score_consider_le (s : Search cap α σ) (p : Packing cap α) :
    (s.consider p).best.score ≤ s.best.score := by
  rw [consider]
  split
  · rename_i hbetter
    exact Score.le_of_lt hbetter
  · exact Score.le_refl _

variable [SeedSource σ] {trial : Trial cap α}

theorem further_attempt (trial : Trial cap α) (size : Nat) (s : Search cap α σ) :
    s.Further (s.attempt trial size).2 := by
  refine ⟨?_, ?_⟩
  · rw [draws_attempt, Array.toList_push]
    exact List.prefix_append _ _
  · rcases attempt_cases trial size s with ⟨fault, h⟩ | ⟨seed, -, ⟨-, h⟩ | ⟨p, -, h⟩⟩
    · rw [h]
      exact Score.le_refl s.best.score
    · rw [h]
      exact Score.le_refl s.best.score
    · rw [h]
      exact score_consider_le (s.draw size).2 p

theorem Further.keeps_attempt {s t : Search cap α σ} (h : s.Further t) (trial : Trial cap α)
    (size : Nat) : Keeps s.Further (fun _ => True) (t.attempt trial size) :=
  ⟨h.trans (further_attempt trial size t), fun _ _ => trivial⟩

theorem further_trySize (budget size attempts : Nat) (s : Search cap α σ) :
    s.Further (s.trySize trial budget size attempts).2 := by
  have hkept : Keeps s.Further (fun _ => True) (s.trySize trial budget size attempts) :=
    trySize_invariant (fun _ ht => ht.keeps_attempt trial size) attempts (Further.refl s)
  exact hkept.1

theorem further_climb (budget attempts : Nat) (sizes : List Nat) (s : Search cap α σ) :
    s.Further (s.climb trial budget attempts sizes).2 := by
  have hkept : Keeps s.Further (fun _ => True) (s.climb trial budget attempts sizes) :=
    climb_invariant (fun size _ _ ht => ht.keeps_attempt trial size) (Further.refl s)
  exact hkept.1

/-! ### Two budgets -/

/-- A run that is the same as another one, or goes on from where that one was stopped. -/
def Outlasts (run' run : Verdict × Search cap α σ) : Prop :=
  run' = run ∨ run.1 = .done ∧ run.2.Further run'.2

omit [SeedSource σ] in
theorem Outlasts.further {run run' : Verdict × Search cap α σ} (h : Outlasts run' run) :
    run.2.Further run'.2 := by
  rcases h with rfl | ⟨-, hfurther⟩
  · exact Further.refl _
  · exact hfurther

variable {budget budget' : Nat} (hbudget : budget ≤ budget')
include hbudget

/-- Before the smaller budget is spent, the larger one is not. -/
theorem trySize_outlasts (trial : Trial cap α) (size attempts : Nat) {s : Search cap α σ}
    (hs : s.draws.size ≤ budget) :
    Outlasts (s.trySize trial budget' size attempts) (s.trySize trial budget size attempts) := by
  induction attempts generalizing s with
  | zero => exact Or.inl rfl
  | succ attempts ih =>
    -- the runs part where the smaller budget is spent, and there the shorter one ends
    by_cases hspent : s.draws.size = budget
    · have hstops : s.trySize trial budget size (attempts + 1) = (.done, s) := by
        rw [trySize, if_pos hspent]
      rw [hstops]
      exact Or.inr ⟨rfl, further_trySize budget' size (attempts + 1) s⟩
    · have hgranted : s.draws.size ≠ budget' := by omega
      have hnext : (s.attempt trial size).2.draws.size ≤ budget := by
        rw [draws_attempt, Array.size_push]
        omega
      rw [trySize, trySize, if_neg hspent, if_neg hgranted]
      generalize s.attempt trial size = run at hnext
      obtain ⟨verdict, next⟩ := run
      cases verdict with
      | again => exact ih hnext
      | larger | done | broken => exact Or.inl rfl

/-- Sizes that come after those of the other search are tried after its end. -/
theorem climb_outlasts (attempts : Nat) {sizes sizes' : List Nat} (hsizes : sizes <+: sizes')
    {s : Search cap α σ} (hs : s.draws.size ≤ budget) :
    Outlasts (s.climb trial budget' attempts sizes') (s.climb trial budget attempts sizes) := by
  induction sizes generalizing s sizes' with
  | nil => exact Or.inr ⟨rfl, further_climb budget' attempts sizes' s⟩
  | cons size sizes ih =>
    obtain ⟨rest, rfl⟩ := hsizes
    have hnext := size_draws_trySize_le trial size attempts hs
    have houtlasts := trySize_outlasts hbudget trial size attempts hs
    rw [List.cons_append, climb, climb]
    generalize s.trySize trial budget size attempts = run at hnext houtlasts
    generalize s.trySize trial budget' size attempts = run' at houtlasts
    obtain ⟨verdict, next⟩ := run
    obtain ⟨verdict', next'⟩ := run'
    rcases houtlasts with hsame | ⟨hdone, hfurther⟩
    · cases hsame
      cases verdict with
      | larger => exact ih ⟨rest, rfl⟩ hnext
      | again | done | broken => exact Or.inl rfl
    · cases hdone
      cases verdict' with
      | larger => exact Or.inr ⟨rfl, hfurther.trans (further_climb budget' attempts _ next')⟩
      | again | done | broken => exact Or.inr ⟨rfl, hfurther⟩

end Search

section

variable {cfg : Config} {α σ : Type} [Coded α] [DecidableEq α] [SeedSource σ]
  {groups : List (List α)}

/-! ### Whole searches -/

/-- With a larger total budget, or with larger sizes, a search goes on from where it was. -/
theorem further_withBudget {size : Nat}
    (hsize : cfg.initialSize groups.flatten.length = .ok size) {total : Nat} {resizing : Bool}
    (htotal : cfg.maxTotalAttempts ≤ total)
    (hresizing : cfg.allowResizing = true → resizing = true) (source : σ) :
    (search cfg groups source).final.Further
      (search (cfg.withBudget total resizing) groups source).final := by
  have hsize' : (cfg.withBudget total resizing).initialSize groups.flatten.length = .ok size := hsize
  obtain ⟨sizes, hladder, hsizes⟩ := Config.exists_ladder hsize
  obtain ⟨sizes', hladder', -⟩ := Config.exists_ladder hsize'
  have hascent' := Config.ascent_of_ladder hsize' hladder'
  have hinitial : sizes <+: sizes' := by
    refine (Config.ascent_of_ladder hsize hladder).initial ?_ hascent'
    intro n next hnext
    rw [hresizing (Config.of_nextSize_eq_some hnext).1]
    exact Config.nextSize_withBudget hnext
  rw [final_of_ladder hladder, final_of_ladder hladder']
  rcases hsizes with rfl | hrungs
  · rw [if_pos rfl]
    split
    · exact Search.Further.refl _
    · exact Search.further_climb _ _ sizes' _
  · obtain ⟨rest, rfl⟩ := (Config.ascent_of_ladder hsize hladder).eq_cons
    obtain ⟨rest', rfl⟩ := hascent'.eq_cons
    have hpos : 0 < size := (hrungs.fit size List.mem_cons_self).pos
    have hsome : ∀ others : List Nat, size :: others ≠ [0] := by
      intro others hnone
      cases hnone
      exact Nat.lt_irrefl 0 hpos
    rw [if_neg (hsome rest), if_neg (hsome rest')]
    exact (Search.climb_outlasts htotal cfg.maxAttempts hinitial (Nat.zero_le _)).further

/-- With a larger total budget, or with larger sizes, a search draws the same seeds for the
    same sizes, and maybe more, and comes to a packing that is at least as good. -/
theorem search_withBudget (hnodup : groups.flatten.Nodup)
    (hfew : groups.flatten.length < UInt32.size) {size : Nat}
    (hsize : cfg.initialSize groups.flatten.length = .ok size) {total : Nat} {resizing : Bool}
    (htotal : cfg.maxTotalAttempts ≤ total)
    (hresizing : cfg.allowResizing = true → resizing = true) (source : σ) :
    ∃ p q, (search cfg groups source).packing = .ok p ∧
      (search (cfg.withBudget total resizing) groups source).packing = .ok q ∧
      (search cfg groups source).final.draws.toList <+:
        (search (cfg.withBudget total resizing) groups source).final.draws.toList ∧
      q.score ≤ p.score ∧ q.tail.size ≤ p.tail.size := by
  have hsize' : (cfg.withBudget total resizing).initialSize groups.flatten.length = .ok size := hsize
  obtain ⟨p, hp⟩ := exists_search hnodup hfew hsize source
  obtain ⟨q, hq⟩ := exists_search hnodup hfew hsize' source
  have hfurther : (search cfg groups source).final.Further
      (search (cfg.withBudget total resizing) groups source).final :=
    further_withBudget hsize htotal hresizing source
  obtain ⟨-, hlast⟩ := Findings.packing_eq_ok_iff.1 hp
  obtain ⟨-, hlast'⟩ := Findings.packing_eq_ok_iff.1 hq
  have hscore : q.score ≤ p.score := by
    rw [← hlast, ← hlast']
    exact hfurther.score_le
  exact ⟨p, q, hp, hq, hfurther.draws, hscore, Score.tail_le_of_le hscore⟩

/-- Two seeds of size six. -/
def twoOfSix : Config := sixThenEight.withBudget 2 false

/-- Two draws are the first two of six, and the packing of larger size that the longer
    search comes to is better, although more of its slots are vacant. -/
theorem search_withBudget_twoOfSix : twoOfSix.initialSize sixCodes.flatten.length = .ok 6 ∧
    ∃ p q, (search twoOfSix sixCodes ({ salt := 0 } : Allocator)).packing = .ok p ∧
      (search (twoOfSix.withBudget 8 true) sixCodes ({ salt := 0 } : Allocator)).packing = .ok q ∧
      p.score = ⟨2, 2, 2⟩ ∧ q.score = ⟨1, 1, 3⟩ ∧
      (search twoOfSix sixCodes ({ salt := 0 } : Allocator)).drawn = 2 ∧
      (search (twoOfSix.withBudget 8 true) sixCodes ({ salt := 0 } : Allocator)).drawn = 6 ∧
      (search twoOfSix sixCodes ({ salt := 0 } : Allocator)).final.draws.toList <+:
        (search (twoOfSix.withBudget 8 true) sixCodes
          ({ salt := 0 } : Allocator)).final.draws.toList ∧
      q.score ≤ p.score := by
  have hsize : twoOfSix.initialSize sixCodes.flatten.length = .ok 6 := by decide
  have htotal : twoOfSix.maxTotalAttempts ≤ 8 := by decide
  have hresizing : twoOfSix.allowResizing = true → true = true := fun _ => rfl
  obtain ⟨p, q, hp, hq, hdraws, hscore, -⟩ := search_withBudget (by decide) (by decide) hsize
    htotal hresizing ({ salt := 0 } : Allocator)
  have hshort : ((search twoOfSix sixCodes ({ salt := 0 } : Allocator)).packing.map
      Packing.score).toOption = some ⟨2, 2, 2⟩ := by decide +kernel
  have hlong : ((search (twoOfSix.withBudget 8 true) sixCodes
      ({ salt := 0 } : Allocator)).packing.map Packing.score).toOption = some ⟨1, 1, 3⟩ := by
    decide +kernel
  rw [hp] at hshort
  rw [hq] at hlong
  exact ⟨hsize, p, q, hp, hq, Option.some.inj hshort, Option.some.inj hlong, by decide +kernel,
    by decide +kernel, hdraws, hscore⟩

end

end Supertypes
