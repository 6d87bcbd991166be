/-
  Supertypes/Proofs/Optimality.lean
  =================================
  **A search returns the earliest best packing of all that it tried.**

  The draws that a search records can be replayed: each of them, packed to its end, comes
  to a packing (`Draw.replay`), also if the search gave up on it.  In the list of all these
  packings, after the one without slots, the packing that the search returns is the first
  one that no other beats (`EarliestBest`).

  That is an invariant of single attempts (`Search.Optimal`).  An attempt adds one packing
  at the end of the list, and the best one gives way exactly if the new one is better.
  Nothing is asked of the sizes here: scores of tables of different sizes are compared
  like any others.
-/
import Supertypes.Allocator
import Supertypes.Proofs.Searching

namespace Supertypes

/-! ### Scores in order -/

theorem Score.lt_of_lt_of_le {s t u : Score} (hst : s < t) (htu : t ≤ u) : s < u := by
  rw [Score.lt_iff] at hst ⊢
  rw [Score.le_iff] at htu
  omega

theorem Score.le_of_lt {s t : Score} (hst : s < t) : s ≤ t := by
  rw [Score.lt_iff] at hst
  rw [Score.le_iff]
  omega

theorem Score.le_refl (s : Score) : s ≤ s := by
  rw [Score.le_iff]
  omega

theorem Score.le_trans {s t u : Score} (hst : s ≤ t) (htu : t ≤ u) : s ≤ u := by
  rw [Score.le_iff] at hst htu ⊢
  omega

/-- The tail is what counts first. -/
theorem Score.tail_le_of_le {s t : Score} (h : s ≤ t) : s.tail ≤ t.tail := by
  rw [Score.le_iff] at h
  omega

section

variable {cap : Capacity} {α : Type}

/-- The packing is in the list, no better one is, and only worse ones come before it. -/
def EarliestBest (best : Packing cap α) (ps : List (Packing cap α)) : Prop :=
  ∃ before after, ps = before ++ best :: after ∧ (∀ p ∈ before, best.score < p.score) ∧
    ∀ p ∈ after, best.score ≤ p.score

namespace EarliestBest

variable {best p : Packing cap α} {ps : List (Packing cap α)}

theorem singleton (p : Packing cap α) : EarliestBest p [p] :=
  ⟨[], [], rfl, by simp, by simp⟩

theorem score_le (h : EarliestBest best ps) (hp : p ∈ ps) : best.score ≤ p.score := by
  obtain ⟨before, after, rfl, hbefore, hafter⟩ := h
  rcases List.mem_append.1 hp with hp | hp
  · exact Score.le_of_lt (hbefore p hp)
  · rcases List.mem_cons.1 hp with rfl | hp
    · exact Score.le_iff.2 (by omega)
    · exact hafter p hp

theorem concat_of_le (h : EarliestBest best ps) (hp : best.score ≤ p.score) :
    EarliestBest best (ps ++ [p]) := by
  obtain ⟨before, after, rfl, hbefore, hafter⟩ := h
  refine ⟨before, after ++ [p], by simp, hbefore, ?_⟩
  intro q hq
  rcases List.mem_append.1 hq with hq | hq
  · exact hafter q hq
  · rw [List.mem_singleton.1 hq]
    exact hp

theorem concat_of_lt (h : EarliestBest best ps) (hp : p.score < best.score) :
    EarliestBest p (ps ++ [p]) :=
  ⟨ps, [], rfl, fun _ hq => Score.lt_of_lt_of_le hp (h.score_le hq), by simp⟩

/-- The packing that a search keeps is the earliest best again. -/
theorem consider {σ : Type} {s : Search cap α σ} (h : EarliestBest s.best ps)
    (p : Packing cap α) : EarliestBest (s.consider p).best (ps ++ [p]) := by
  unfold Search.consider
  split
  · rename_i hbetter
    exact h.concat_of_lt hbetter
  · rename_i hbetter
    exact h.concat_of_le hbetter

end EarliestBest

end

/-! ### Replaying draws -/

/-- The next words of a source, and the source after them. -/
def SeedSource.take {σ : Type} [SeedSource σ] : Nat → σ → List UInt64 × σ
  | 0, source => ([], source)
  | n + 1, source =>
    let (words, source) := SeedSource.take n source
    let (word, source) := SeedSource.draw source
    (words ++ [word], source)

section

variable {cfg : Config} {α σ : Type} [Coded α] [DecidableEq α] [SeedSource σ]
  {groups : List (List α)}

/-- Packs the elements to the end with the seed of a draw. -/
def Draw.replay (cfg : Config) (groups : List (List α)) (d : Draw) :
    Except Fault (Packing cfg.capacity α) :=
  match Seed.compose d.word d.size with
  | .error fault => .error fault
  | .ok seed => pack cfg.sizing seed groups

/-- What an attempt is about can be replayed from the draw that it makes. -/
theorem Search.Attempted.replay {s : Search cfg.capacity α σ} {size : Nat}
    {p : Packing cfg.capacity α} (hp : s.Attempted groups size p) :
    Draw.replay cfg groups ⟨(s.draw size).1, size⟩ = .ok p := by
  simp only [Draw.replay, hp.seed]
  exact hp.packed

theorem mapM_concat {β γ : Type} {f : β → Except Fault γ} {xs : List β} {ys : List γ} {x : β}
    {y : γ} (hxs : xs.mapM f = .ok ys) (hx : f x = .ok y) :
    (xs ++ [x]).mapM f = .ok (ys ++ [y]) := by
  rw [List.mapM_append, hxs, List.mapM_cons, hx]
  rfl

/-- The draws are the words of the source so far, and the best packing is the earliest best
    of their packings and the one without slots. -/
structure Search.Optimal (groups : List (List α)) (start : σ) (s : Search cfg.capacity α σ) :
    Prop where
  reproducible : s.Reproducible groups
  words : SeedSource.take s.draws.size start = (s.draws.toList.map Draw.word, s.source)
  best : ∃ attempts, s.draws.toList.mapM (Draw.replay cfg groups) = .ok attempts ∧
    EarliestBest s.best (.plain groups.flatten :: attempts)

theorem optimal_plain (cfg : Config) (groups : List (List α)) (source : σ) :
    ({ best := .plain groups.flatten, source } : Search cfg.capacity α σ).Optimal groups source :=
  ⟨reproducible_plain cfg groups source, rfl, [], rfl, EarliestBest.singleton _⟩

/-- An attempt adds one draw and one packing. -/
theorem Search.Optimal.attempt {start : σ} {s : Search cfg.capacity α σ}
    (hs : s.Optimal groups start) {size : Nat} {p : Packing cfg.capacity α}
    (hp : s.Attempted groups size p) :
    (s.attempt (boundedTrial cfg groups) size).2.Optimal groups start := by
  obtain ⟨attempts, hattempts, hbest⟩ := hs.best
  have hdraws : (s.draw size).2.draws = s.draws.push ⟨(s.draw size).1, size⟩ := rfl
  have hdrawn : (s.draw size).2.Reproducible groups :=
    ⟨hs.reproducible.seed, hs.reproducible.packed⟩
  rw [hp.state_eq]
  refine ⟨hdrawn.consider hp.composed hp.packed, ?_, attempts ++ [p], ?_, ?_⟩
  · rw [draws_consider, source_consider, hdraws, Array.size_push, SeedSource.take, hs.words,
      Array.toList_push, List.map_append]
    rfl
  · rw [draws_consider, hdraws, Array.toList_push]
    exact mapM_concat hattempts hp.replay
  · have hnext : EarliestBest (s.draw size).2.best (.plain groups.flatten :: attempts) := hbest
    exact hnext.consider p

/-! ### The whole search -/

/-- A search returns the whole packing of its seed.  Of the packing without slots and those
    of all words that were drawn, each packed to its end, it is the first of least score. -/
theorem search_earliestBest (hnodup : groups.flatten.Nodup)
    (hfew : groups.flatten.length < UInt32.size) {size : Nat}
    (hsize : cfg.initialSize groups.flatten.length = .ok size) (source : σ) :
    ∃ best unslotted attempts, (search cfg groups source).packing = .ok best ∧
      pack cfg.sizing best.seed groups = .ok best ∧
      pack cfg.sizing .empty groups = .ok unslotted ∧
      (search cfg groups source).final.draws.toList.mapM (Draw.replay cfg groups) =
        .ok attempts ∧
      EarliestBest best (unslotted :: attempts) ∧
      SeedSource.take (search cfg groups source).drawn source =
        ((search cfg groups source).final.draws.toList.map Draw.word,
          (search cfg groups source).source) := by
  have hfinal : (search cfg groups source).final.Optimal groups source := by
    refine final_of_attempts (optimal_plain cfg groups source) ?_
    intro size hsize s hs
    obtain ⟨p, hp⟩ := exists_attempted hnodup hfew hsize hs.reproducible
    exact hs.attempt hp
  obtain ⟨best, hpacking⟩ := exists_search hnodup hfew hsize source
  obtain ⟨attempts, hattempts, hbest⟩ := hfinal.best
  obtain ⟨-, rfl⟩ := Findings.packing_eq_ok_iff.1 hpacking
  exact ⟨_, _, attempts, hpacking, hfinal.reproducible.packed, pack_empty cfg.sizing groups,
    hattempts, hbest, hfinal.words⟩

/-- The best of six seeds is the fourth, the first one of a larger size; the fifth is as good. -/
theorem search_earliestBest_sixCodes :
    sixThenEight.initialSize sixCodes.flatten.length = .ok 6 ∧
      ∃ best attempts,
        (search sixThenEight sixCodes ({ salt := 0 } : Allocator)).packing = .ok best ∧
        best.score = ⟨1, 1, 3⟩ ∧
        (search sixThenEight sixCodes ({ salt := 0 } : Allocator)).final.draws.toList.mapM
          (Draw.replay sixThenEight sixCodes) = .ok attempts ∧
        attempts.map Packing.score =
          [⟨2, 2, 2⟩, ⟨3, 2, 3⟩, ⟨2, 2, 2⟩, ⟨1, 1, 3⟩, ⟨1, 1, 3⟩, ⟨2, 2, 4⟩] ∧
        EarliestBest best (.plain sixCodes.flatten :: attempts) := by
  have hsize : sixThenEight.initialSize sixCodes.flatten.length = .ok 6 := by decide
  obtain ⟨best, unslotted, attempts, hbest, -, hunslotted, hattempts, hearliest, -⟩ :=
    search_earliestBest (by decide) (by decide) hsize ({ salt := 0 } : Allocator)
  have hscore : ((search sixThenEight sixCodes ({ salt := 0 } : Allocator)).packing.map
      Packing.score).toOption = some ⟨1, 1, 3⟩ := by decide +kernel
  have hscores : (((search sixThenEight sixCodes ({ salt := 0 } : Allocator)).final.draws.toList.mapM
      (Draw.replay sixThenEight sixCodes)).map (List.map Packing.score)).toOption =
      some [⟨2, 2, 2⟩, ⟨3, 2, 3⟩, ⟨2, 2, 2⟩, ⟨1, 1, 3⟩, ⟨1, 1, 3⟩, ⟨2, 2, 4⟩] := by
    decide +kernel
  rw [hbest] at hscore
  rw [hattempts] at hscores
  rw [pack_empty] at hunslotted
  cases hunslotted
  exact ⟨hsize, best, attempts, hbest, Option.some.inj hscore, hattempts,
    Option.some.inj hscores, hearliest⟩

end

end Supertypes
