/-
  Supertypes/Proofs/Budgets.lean
  ==============================
  **How long a search goes on.**

  A search is meant as a loop that asks for the next size after the attempts at one, and
  stops when there is none (`Search.Loops`).  That loop ends, because the sizes do, and it
  ends where the search over the ladder ends (`loops_of_ascent`).

  The total budget is asked before every draw, so it is never passed
  (`size_draws_climb_le`).  The draws at each size are as many as there are attempts,
  unless there is a reason to stop sooner (`Search.Leaves`): nothing is left in the tail,
  the total budget is spent, or all slots are occupied, and then no seed of that size does
  better.  A log of draws that goes through the sizes in this way is a `Search.Tour`, and
  that of a search is one.

  What carries the induction is that the search has not seen a perfect packing as long as
  it goes on (`Search.Pending`).  Hence a perfect packing is that of the last draw, and it
  is adopted, since all packings before it have a longer tail (`Search.Concluded`).
-/
import Supertypes.Proofs.Abandoning
import Supertypes.Proofs.Building
import Supertypes.Proofs.Growth
import Supertypes.Proofs.Optimality

namespace Supertypes

namespace Search

/-! ### The loop -/

section

variable {cfg : Config} {α σ : Type} [SeedSource σ] {trial : Trial cfg.capacity α}
  {count size : Nat} {sizes : List Nat} {s last : Search cfg.capacity α σ}

/-- From the attempts at a size the search comes to an end, growing as long as it can. -/
inductive Loops (cfg : Config) (trial : Trial cfg.capacity α) (count : Nat) :
    Nat → Search cfg.capacity α σ → Search cfg.capacity α σ → Prop where
  | stop {size : Nat} {s last : Search cfg.capacity α σ} :
      s.trySize trial cfg.maxTotalAttempts size cfg.maxAttempts = (.done, last) →
      Loops cfg trial count size s last
  | top {size : Nat} {s last : Search cfg.capacity α σ} :
      s.trySize trial cfg.maxTotalAttempts size cfg.maxAttempts = (.larger, last) →
      cfg.nextSize size count = .ok none → Loops cfg trial count size s last
  | grow {size next : Nat} {s between last : Search cfg.capacity α σ} :
      s.trySize trial cfg.maxTotalAttempts size cfg.maxAttempts = (.larger, between) →
      cfg.nextSize size count = .ok (some next) →
      Loops cfg trial count next between last → Loops cfg trial count size s last

/-- A search over all sizes that are met is the loop that meets them. -/
theorem loops_of_ascent (h : cfg.Ascent count size sizes)
    (hclimb : s.climb trial cfg.maxTotalAttempts cfg.maxAttempts sizes = (.done, last)) :
    Loops cfg trial count size s last := by
  induction h generalizing s with
  | top hstop =>
    rw [climb] at hclimb
    split at hclimb
    · rename_i next hnext
      cases hclimb
      exact .top hnext hstop
    · exact .stop hclimb
  | grow hgrow _ ih =>
    rw [climb] at hclimb
    split at hclimb
    · rename_i next hnext
      exact .grow hnext hgrow (ih hclimb)
    · exact .stop hclimb

end

/-! ### The total budget -/

section

variable {cap : Capacity} {α σ : Type} [SeedSource σ] {budget : Nat}

theorem size_draws_trySize_le (trial : Trial cap α) (size attempts : Nat) {s : Search cap α σ}
    (hs : s.draws.size ≤ budget) :
    (s.trySize trial budget size attempts).2.draws.size ≤ budget := by
  induction attempts generalizing s with
  | zero => exact hs
  | succ attempts ih =>
    rw [trySize]
    split
    · exact hs
    · rename_i hgranted
      have hnext : (s.attempt trial size).2.draws.size ≤ budget := by
        rw [draws_attempt, Array.size_push]
        exact Nat.lt_of_le_of_ne hs hgranted
      split
      · rename_i next heq
        rw [heq] at hnext
        exact ih hnext
      · exact hnext

theorem size_draws_climb_le (trial : Trial cap α) (attempts : Nat) (sizes : List Nat)
    {s : Search cap α σ} (hs : s.draws.size ≤ budget) :
    (s.climb trial budget attempts sizes).2.draws.size ≤ budget := by
  induction sizes generalizing s with
  | nil => exact hs
  | cons size sizes ih =>
    have hnext := size_draws_trySize_le trial size attempts hs
    rw [climb]
    split
    · rename_i next heq
      rw [heq] at hnext
      exact ih hnext
    · exact hnext

end

end Search

section

variable {cfg : Config} {α σ : Type} [Coded α] [DecidableEq α] [SeedSource σ]
  {groups : List (List α)}

theorem drawn_search_le (cfg : Config) (groups : List (List α)) (source : σ) :
    (search cfg groups source).drawn ≤ cfg.maxTotalAttempts := by
  rw [Findings.drawn, search, searchWith]
  dsimp only
  split
  · exact Nat.zero_le _
  · split
    · exact Nat.zero_le _
    · exact Search.size_draws_climb_le _ _ _ (Nat.zero_le _)

/-- A second search has a budget of its own. -/
theorem drawn_arrange_le (cfg : Config) (groups : List (List α)) (source : σ) :
    (Layout.arrange cfg groups source).drawn ≤ 2 * cfg.maxTotalAttempts := by
  have hfirst : (search cfg groups source).logged.drawn ≤ cfg.maxTotalAttempts :=
    drawn_search_le cfg groups source
  rw [Layout.arrange, Logged.bind]
  split
  · exact Nat.le_trans hfirst (Nat.le_mul_of_pos_left _ (by decide))
  · rename_i primary _
    dsimp only
    split
    · have hsecond := drawn_search_le cfg [primary.tail.toList] (search cfg groups source).source
      rw [Logged.drawn_map, Nat.two_mul]
      exact Nat.add_le_add hfirst hsecond
    · exact Nat.le_trans hfirst (Nat.le_mul_of_pos_left _ (by decide))

end

theorem Registry.drawn_build_le {cfg : Config} {σ : Type} [SeedSource σ] (reg : Registry cfg)
    (r : Nat) (source : σ) : (reg.build r source).drawn ≤ 2 * cfg.maxTotalAttempts := by
  rw [build]
  split
  · exact Nat.zero_le _
  · rw [Logged.drawn_andThen]
    exact drawn_arrange_le cfg (reg.candidateGroups r) source

namespace Search

/-! ### Reasons to leave a size -/

section

variable {cfg : Config} {α : Type} [Coded α] [DecidableEq α] {groups : List (List α)}
  {size attempts spent : Nat} {words : List UInt64} {verdict : Verdict}

/-- Why a search leaves a size after the draws of some words, having drawn others before,
    and how it goes on. -/
inductive Leaves (cfg : Config) (groups : List (List α)) (size attempts spent : Nat) :
    List UInt64 → Verdict → Prop where
  /-- There are no attempts left. -/
  | tried {words : List UInt64} : words.length = attempts →
      Leaves cfg groups size attempts spent words .larger
  /-- All slots are occupied, and no seed of the size leaves less in the tail. -/
  | full {words : List UInt64} {word : UInt64} {p : Packing cfg.capacity α} :
      words.length < attempts → Draw.replay cfg groups ⟨word, size⟩ = .ok p → p.isFull = true →
      (∀ other q, Draw.replay cfg groups ⟨other, size⟩ = .ok q → p.tail.size ≤ q.tail.size) →
      Leaves cfg groups size attempts spent (words ++ [word]) .larger
  /-- Nothing is in the tail. -/
  | perfect {words : List UInt64} {word : UInt64} {p : Packing cfg.capacity α} :
      words.length < attempts → Draw.replay cfg groups ⟨word, size⟩ = .ok p →
      p.isPerfect = true → Leaves cfg groups size attempts spent (words ++ [word]) .done
  /-- The total budget is spent. -/
  | exhausted {words : List UInt64} : words.length < attempts →
      spent + words.length = cfg.maxTotalAttempts →
      Leaves cfg groups size attempts spent words .done

theorem Leaves.cons (h : Leaves cfg groups size attempts (spent + 1) words verdict)
    (word : UInt64) : Leaves cfg groups size (attempts + 1) spent (word :: words) verdict := by
  cases h with
  | tried hall => exact .tried (congrArg Nat.succ hall)
  | full hfew hreplay hfull hleast =>
    rw [← List.cons_append]
    exact .full (Nat.succ_lt_succ hfew) hreplay hfull hleast
  | perfect hfew hreplay hperfect =>
    rw [← List.cons_append]
    exact .perfect (Nat.succ_lt_succ hfew) hreplay hperfect
  | exhausted hfew hspent =>
    refine .exhausted (Nat.succ_lt_succ hfew) ?_
    rw [List.length_cons, ← hspent]
    omega

theorem Leaves.verdict_eq (h : Leaves cfg groups size attempts spent words verdict) :
    verdict = .larger ∨ verdict = .done := by
  cases h with
  | tried | full => exact Or.inl rfl
  | perfect | exhausted => exact Or.inr rfl

theorem Leaves.length_le (h : Leaves cfg groups size attempts spent words verdict) :
    words.length ≤ attempts := by
  cases h with
  | tried hall => exact Nat.le_of_eq hall
  | full hfew => exact List.length_append ▸ hfew
  | perfect hfew => exact List.length_append ▸ hfew
  | exhausted hfew => exact Nat.le_of_lt hfew

/-- The draws of a search over some sizes, each of which it leaves for a reason. -/
inductive Tour (cfg : Config) (groups : List (List α)) : List Nat → Nat → List Draw → Prop where
  | top {spent : Nat} : Tour cfg groups [] spent []
  | onward {size spent : Nat} {sizes : List Nat} {words : List UInt64} {draws : List Draw} :
      Leaves cfg groups size cfg.maxAttempts spent words .larger →
      Tour cfg groups sizes (spent + words.length) draws →
      Tour cfg groups (size :: sizes) spent (words.map (Draw.mk · size) ++ draws)
  | stop {size spent : Nat} {sizes : List Nat} {words : List UInt64} :
      Leaves cfg groups size cfg.maxAttempts spent words .done →
      Tour cfg groups (size :: sizes) spent (words.map (Draw.mk · size))

theorem Tour.length_le {sizes : List Nat} {draws : List Draw}
    (h : Tour cfg groups sizes spent draws) : draws.length ≤ cfg.maxAttempts * sizes.length := by
  induction h with
  | top => exact Nat.zero_le _
  | onward hleaves _ ih =>
    rw [List.length_append, List.length_map, List.length_cons, Nat.mul_succ, Nat.add_comm]
    exact Nat.add_le_add ih hleaves.length_le
  | stop hleaves =>
    rw [List.length_map, List.length_cons, Nat.mul_succ]
    exact Nat.le_trans hleaves.length_le (Nat.le_add_left _ _)

end

/-! ### The search before its end -/

section

variable {cfg : Config} {α σ : Type} [Coded α] [DecidableEq α] [SeedSource σ]
  {groups : List (List α)} {size : Nat} {s : Search cfg.capacity α σ}

/-- The search is not over, and none of its draws is perfect. -/
structure Pending (groups : List (List α)) (size : Nat) (s : Search cfg.capacity α σ) :
    Prop where
  behind : s.Behind groups size
  imperfect : ∀ d ∈ s.draws.toList, ∀ p, Draw.replay cfg groups d = .ok p → p.isPerfect = false

/-- If any draw is perfect, it is the last one, and its packing is the best. -/
def Concluded (groups : List (List α)) (s : Search cfg.capacity α σ) : Prop :=
  ∀ before d after p, s.draws.toList = before ++ d :: after →
    Draw.replay cfg groups d = .ok p → p.isPerfect = true → after = [] ∧ s.best = p

omit [SeedSource σ] in
theorem Pending.concluded (hs : s.Pending groups size) : s.Concluded groups := by
  intro before d after p hdraws hreplay hperfect
  have hmem : d ∈ s.draws.toList := hdraws ▸ List.mem_append_right _ List.mem_cons_self
  rw [hs.imperfect d hmem p hreplay] at hperfect
  cases hperfect

omit [SeedSource σ] in
theorem Pending.mono {bound : Nat} (hs : s.Pending groups bound) (hle : bound ≤ size) :
    s.Pending groups size :=
  ⟨⟨hs.behind.reproducible, hs.behind.imperfect, Nat.le_trans hs.behind.size_le hle⟩,
    hs.imperfect⟩

omit [SeedSource σ] [DecidableEq α] [Coded α] in
theorem isPerfect_consider {p : Packing cfg.capacity α} (hs : s.best.isPerfect = false)
    (hp : p.isPerfect = false) : (s.consider p).best.isPerfect = false := by
  rw [consider]
  split
  · exact hp
  · exact hs

/-- The log of an attempt ends with its draw. -/
theorem draws_attempt_split {before after : List Draw} {d : Draw}
    (hsplit : (s.attempt (boundedTrial cfg groups) size).2.draws.toList = before ++ d :: after) :
    d ∈ s.draws.toList ∨ d = ⟨(s.draw size).1, size⟩ ∧ after = [] := by
  rw [draws_attempt, Array.toList_push] at hsplit
  rcases List.eq_nil_or_concat' after with rfl | ⟨rest, last, rfl⟩
  · obtain ⟨-, hlast⟩ := List.append_inj' hsplit rfl
    cases hlast
    exact Or.inr ⟨rfl, rfl⟩
  · rw [← List.cons_append, ← List.append_assoc] at hsplit
    obtain ⟨hbefore, -⟩ := List.append_inj' hsplit rfl
    rw [hbefore]
    exact Or.inl (List.mem_append_right _ List.mem_cons_self)

/-- A perfect packing ends the search.  All before it have a tail, so it is adopted. -/
theorem Pending.attempt_of_perfect (hs : s.Pending groups size) {p : Packing cfg.capacity α}
    (hp : s.Attempted groups size p) (hperfect : p.isPerfect = true) :
    (s.attempt (boundedTrial cfg groups) size).1 = .done ∧
      (s.attempt (boundedTrial cfg groups) size).2.Concluded groups := by
  have hshort : p.tail.size < s.best.tail.size := by
    have hempty : p.tail.size = 0 := by simpa [Packing.isPerfect] using hperfect
    have hlong : s.best.tail.size ≠ 0 := by simpa [Packing.isPerfect] using hs.behind.imperfect
    rw [hempty]
    exact Nat.pos_of_ne_zero hlong
  have hattempt : s.attempt (boundedTrial cfg groups) size =
      (.done, (s.draw size).2.adopt p) := by
    have hdone : ((s.draw size).2.adopt p).best.isPerfect = true := hperfect
    have hadopt : (s.draw size).2.consider p = (s.draw size).2.adopt p := consider_of_shorter hshort
    rw [hp.bounded, if_pos (Nat.le_of_lt hshort), weigh]
    simp only [hadopt, hdone, if_true]
  refine ⟨by rw [hattempt], ?_⟩
  intro before d after q hsplit hreplay hq
  rcases draws_attempt_split hsplit with hmem | ⟨rfl, rfl⟩
  · rw [hs.imperfect d hmem q hreplay] at hq
    cases hq
  · rw [hp.replay] at hreplay
    cases hreplay
    exact ⟨rfl, by rw [hattempt]; rfl⟩

/-- After any other packing the search goes on, with the next size if all slots are
    occupied. -/
theorem Pending.attempt_of_imperfect (hs : s.Pending groups size) {p : Packing cfg.capacity α}
    (hp : s.Attempted groups size p) (himperfect : p.isPerfect = false) :
    ((s.attempt (boundedTrial cfg groups) size).1 = .again ∨
        (s.attempt (boundedTrial cfg groups) size).1 = .larger ∧ p.isFull = true) ∧
      (s.attempt (boundedTrial cfg groups) size).2.Pending groups size := by
  have hverdict : (s.attempt (boundedTrial cfg groups) size).1 = .again ∨
      (s.attempt (boundedTrial cfg groups) size).1 = .larger ∧ p.isFull = true := by
    rw [hp.bounded]
    split
    · have hgoes : ((s.draw size).2.consider p).best.isPerfect = false :=
        isPerfect_consider hs.behind.imperfect himperfect
      rw [weigh]
      simp only [hgoes, Bool.false_eq_true, if_false]
      split
      · rename_i hfull
        exact Or.inr ⟨rfl, hfull⟩
      · exact Or.inl rfl
    · exact Or.inl rfl
  refine ⟨hverdict, hs.behind.attempt hp ?_, ?_⟩
  · rcases hverdict with hagain | ⟨hlarger, -⟩
    · rw [hagain]
      decide
    · rw [hlarger]
      decide
  · intro d hd q hreplay
    obtain ⟨before, after, hsplit⟩ := List.append_of_mem hd
    rcases draws_attempt_split hsplit with hmem | ⟨rfl, -⟩
    · exact hs.imperfect d hmem q hreplay
    · rw [hp.replay] at hreplay
      cases hreplay
      exact himperfect

omit [SeedSource σ] in
theorem placed_of_replay {word : UInt64} {p : Packing cfg.capacity α} (hsize : cfg.Rung size)
    (h : Draw.replay cfg groups ⟨word, size⟩ = .ok p) :
    p.seed.size = size ∧ Placed cfg.sizing groups.flatten p := by
  rw [Draw.replay] at h
  split at h
  · cases h
  · rename_i seed hseed
    obtain ⟨rfl, hplaced⟩ := placed_of_pack ⟨word, size, hseed, hsize.legal⟩ h
    exact ⟨Seed.size_of_compose hseed, hplaced⟩

omit [SeedSource σ] in
/-- No seed leaves less in the tail than one whose slots are all occupied. -/
theorem least_of_isFull {word : UInt64} {p : Packing cfg.capacity α} (hsize : cfg.Rung size)
    (hreplay : Draw.replay cfg groups ⟨word, size⟩ = .ok p) (hfull : p.isFull = true)
    (other : UInt64) (q : Packing cfg.capacity α)
    (hother : Draw.replay cfg groups ⟨other, size⟩ = .ok q) : p.tail.size ≤ q.tail.size := by
  obtain ⟨hp, hplaced⟩ := placed_of_replay hsize hreplay
  obtain ⟨hq, hplaced'⟩ := placed_of_replay hsize hother
  exact tail_size_le_of_isFull hplaced hplaced' (Nat.le_of_eq (hq.trans hp.symm)) hfull

/-! ### Whole searches -/

variable (hnodup : groups.flatten.Nodup) (hfew : groups.flatten.length < UInt32.size)
include hnodup hfew

/-- An attempt before the end either does not change what is known, or it is the end. -/
theorem Pending.attempt_cases (hsize : cfg.Rung size) (hs : s.Pending groups size) :
    ∃ p, Draw.replay cfg groups ⟨(s.draw size).1, size⟩ = .ok p ∧
      ((s.attempt (boundedTrial cfg groups) size).1 = .again ∧
          (s.attempt (boundedTrial cfg groups) size).2.Pending groups size ∨
        (s.attempt (boundedTrial cfg groups) size).1 = .larger ∧ p.isFull = true ∧
          (s.attempt (boundedTrial cfg groups) size).2.Pending groups size ∨
        (s.attempt (boundedTrial cfg groups) size).1 = .done ∧ p.isPerfect = true ∧
          (s.attempt (boundedTrial cfg groups) size).2.Concluded groups) := by
  obtain ⟨p, hp⟩ := exists_attempted hnodup hfew hsize hs.behind.reproducible
  refine ⟨p, hp.replay, ?_⟩
  cases hperfect : p.isPerfect with
  | true =>
    obtain ⟨hdone, hconcluded⟩ := hs.attempt_of_perfect hp hperfect
    exact Or.inr (Or.inr ⟨hdone, rfl, hconcluded⟩)
  | false =>
    obtain ⟨hagain | ⟨hlarger, hfull⟩, hnext⟩ := hs.attempt_of_imperfect hp hperfect
    · exact Or.inl ⟨hagain, hnext⟩
    · exact Or.inr (Or.inl ⟨hlarger, hfull, hnext⟩)

omit [SeedSource σ] hnodup hfew in
/-- What a stay at a size adds to a search, and what is known after it. -/
structure Stay (groups : List (List α)) (size attempts : Nat) (s : Search cfg.capacity α σ)
    (words : List UInt64) (run : Verdict × Search cfg.capacity α σ) : Prop where
  draws : run.2.draws.toList = s.draws.toList ++ words.map (Draw.mk · size)
  leaves : Leaves cfg groups size attempts s.draws.size words run.1
  concluded : run.2.Concluded groups
  pending : run.1 = .larger → run.2.Pending groups size

/-- The search leaves a size for a reason, and it goes on only if no draw was perfect. -/
theorem Pending.exists_stay (hsize : cfg.Rung size) (attempts : Nat)
    (hs : s.Pending groups size) : ∃ words, Stay groups size attempts s words
      (s.trySize (boundedTrial cfg groups) cfg.maxTotalAttempts size attempts) := by
  induction attempts generalizing s with
  | zero => exact ⟨[], (List.append_nil _).symm, .tried rfl, hs.concluded, fun _ => hs⟩
  | succ attempts ih =>
    rw [trySize]
    by_cases hspent : s.draws.size = cfg.maxTotalAttempts
    · rw [if_pos hspent]
      exact ⟨[], (List.append_nil _).symm, .exhausted (Nat.succ_pos _) hspent, hs.concluded,
        fun hlarger => by cases hlarger⟩
    · rw [if_neg hspent]
      obtain ⟨p, hreplay, hcases⟩ := hs.attempt_cases hnodup hfew hsize
      have hdraws : (s.attempt (boundedTrial cfg groups) size).2.draws =
          s.draws.push ⟨(s.draw size).1, size⟩ := draws_attempt s size
      generalize s.attempt (boundedTrial cfg groups) size = run at hcases hdraws
      obtain ⟨verdict, next⟩ := run
      dsimp only at hcases hdraws
      rcases hcases with ⟨rfl, hnext⟩ | ⟨rfl, hfull, hnext⟩ | ⟨rfl, hperfect, hconcluded⟩
      · obtain ⟨words, hstay⟩ := ih hnext
        have hone : next.draws.size = s.draws.size + 1 := by rw [hdraws, Array.size_push]
        refine ⟨(s.draw size).1 :: words, ?_, ?_, hstay.concluded, hstay.pending⟩
        · rw [hstay.draws, hdraws, Array.toList_push, List.append_assoc]
          rfl
        · exact (hone ▸ hstay.leaves).cons _
      · have hleast := least_of_isFull hsize hreplay hfull
        refine ⟨[] ++ [(s.draw size).1], ?_, ?_, hnext.concluded, fun _ => hnext⟩
        · rw [hdraws, Array.toList_push]
          rfl
        · exact .full (Nat.succ_pos _) hreplay hfull hleast
      · refine ⟨[] ++ [(s.draw size).1], ?_, ?_, hconcluded, fun hlarger => by cases hlarger⟩
        · rw [hdraws, Array.toList_push]
          rfl
        · exact .perfect (Nat.succ_pos _) hreplay hperfect

/-- The draws of a search over sizes are a tour of them. -/
theorem Pending.exists_tour {bound : Nat} {sizes : List Nat} (hs : s.Pending groups bound)
    (hrungs : cfg.Rungs sizes) (hbound : ∀ n ∈ sizes, bound ≤ n) :
    ∃ draws last, s.climb (boundedTrial cfg groups) cfg.maxTotalAttempts cfg.maxAttempts sizes =
        (.done, last) ∧ last.draws.toList = s.draws.toList ++ draws ∧
      Tour cfg groups sizes s.draws.size draws ∧ last.Concluded groups := by
  induction sizes generalizing s bound with
  | nil => exact ⟨[], s, rfl, (List.append_nil _).symm, .top, hs.concluded⟩
  | cons size sizes ih =>
    obtain ⟨hbeyond, hascending⟩ := List.pairwise_cons.1 hrungs.ascending
    have hsize := hrungs.fit size List.mem_cons_self
    obtain ⟨words, hstay⟩ := (hs.mono (hbound size List.mem_cons_self)).exists_stay hnodup hfew
      hsize cfg.maxAttempts
    rw [climb]
    generalize s.trySize (boundedTrial cfg groups) cfg.maxTotalAttempts size cfg.maxAttempts = run
      at hstay
    obtain ⟨verdict, next⟩ := run
    have hdraws : next.draws.toList = s.draws.toList ++ words.map (Draw.mk · size) := hstay.draws
    rcases hstay.leaves.verdict_eq with hlarger | hdone
    · -- no draw of this size was perfect, so that the search is pending for the next one
      cases hlarger
      obtain ⟨draws, last, hclimb, hrest, htour, hconcluded⟩ := ih (hstay.pending rfl)
        ⟨fun n hn => hrungs.fit n (List.mem_cons_of_mem _ hn), hascending⟩
        fun n hn => Nat.le_of_lt (hbeyond n hn)
      have hspent : next.draws.size = s.draws.size + words.length := by
        rw [← Array.length_toList, hdraws, List.length_append, List.length_map, Array.length_toList]
      refine ⟨_, last, hclimb, ?_, .onward hstay.leaves (hspent ▸ htour), hconcluded⟩
      rw [hrest, hdraws, List.append_assoc]
    · cases hdone
      exact ⟨_, next, rfl, hdraws, .stop hstay.leaves, hstay.concluded⟩

omit [SeedSource σ] hnodup hfew in
theorem pending_plain (cfg : Config) (hsome : groups.flatten ≠ []) (source : σ) :
    ({ best := .plain groups.flatten, source } : Search cfg.capacity α σ).Pending groups 0 := by
  refine ⟨⟨reproducible_plain cfg groups source, ?_, ?_⟩, by simp⟩
  · simpa [Packing.isPerfect, Packing.plain] using hsome
  · simp [Packing.plain]

end

end Search

section

variable {cfg : Config} {α σ : Type} [Coded α] [DecidableEq α] [SeedSource σ]
  {groups : List (List α)}

/-- A search ends with its climb, unless no size is to be tried. -/
theorem final_of_ladder {sizes : List Nat} (hladder : cfg.ladder groups.flatten.length = .ok sizes)
    (source : σ) : (search cfg groups source).final =
      if sizes = [0] then { best := .plain groups.flatten, source }
      else (Search.climb (boundedTrial cfg groups) cfg.maxTotalAttempts cfg.maxAttempts sizes
        { best := .plain groups.flatten, source }).2 := by
  simp only [search, searchWith, hladder]
  split
  · rfl
  · rfl

/-- A search over fit sizes is the loop over them, and its draws are a tour of them. -/
theorem search_tours (hnodup : groups.flatten.Nodup)
    (hfew : groups.flatten.length < UInt32.size) {sizes : List Nat}
    (hladder : cfg.ladder groups.flatten.length = .ok sizes) (hrungs : cfg.Rungs sizes)
    (source : σ) :
    Search.climb (boundedTrial cfg groups) cfg.maxTotalAttempts cfg.maxAttempts sizes
        { best := .plain groups.flatten, source } =
      (.done, (search cfg groups source).final) ∧
    Search.Tour cfg groups sizes 0 (search cfg groups source).final.draws.toList ∧
    (search cfg groups source).final.Concluded groups := by
  have hnone : sizes ≠ [0] := by
    rintro rfl
    exact absurd (hrungs.fit 0 List.mem_cons_self).pos (Nat.lt_irrefl 0)
  have hsome : groups.flatten ≠ [] := by
    intro hempty
    rw [hempty, List.length_nil, Config.ladder_zero] at hladder
    cases hladder
    exact hnone rfl
  obtain ⟨draws, last, hclimb, hdraws, htour, hconcluded⟩ :=
    (Search.pending_plain cfg hsome source).exists_tour hnodup hfew hrungs fun n _ => Nat.zero_le n
  have hfinal : (search cfg groups source).final = last := by
    rw [final_of_ladder hladder, if_neg hnone, hclimb]
  rw [hfinal]
  refine ⟨hclimb, ?_, hconcluded⟩
  rw [hdraws]
  exact htour

/-- A search comes to an end, draws nothing where no size is to be tried, and stays within
    its budgets elsewhere.  It goes through the sizes and leaves none of them without a
    reason; a perfect packing is the last one, and it is what the search comes to.  A table
    takes two searches at most. -/
theorem search_within_budgets (hgrows : cfg.sizing.powerOfTwoOnly = false → 0 < cfg.chunk)
    (hnodup : groups.flatten.Nodup) (hfew : groups.flatten.length < UInt32.size) (source : σ) :
    ∃ first sizes best, cfg.initialSize groups.flatten.length = .ok first ∧
      cfg.Ascent groups.flatten.length first sizes ∧
      (cfg.sizing.powerOfTwoOnly = true → sizes.length ≤ 2) ∧
      (search cfg groups source).packing = .ok best ∧
      (first = 0 → (search cfg groups source).drawn = 0) ∧
      (first ≠ 0 →
        Search.Loops cfg (boundedTrial cfg groups) groups.flatten.length first
          { best := .plain groups.flatten, source } (search cfg groups source).final ∧
        Search.Tour cfg groups sizes 0 (search cfg groups source).final.draws.toList ∧
        (search cfg groups source).drawn ≤ cfg.maxAttempts * sizes.length) ∧
      (search cfg groups source).drawn ≤ cfg.maxTotalAttempts ∧
      (∀ before d after p,
        (search cfg groups source).final.draws.toList = before ++ d :: after →
        Draw.replay cfg groups d = .ok p → p.isPerfect = true → after = [] ∧ best = p) ∧
      ∀ (reg : Registry cfg) (r : Nat),
        (reg.build r source).drawn ≤ 2 * cfg.maxTotalAttempts := by
  have hword : groups.flatten.length ≤ 2 ^ 63 := by
    have : UInt32.size ≤ 2 ^ 63 := by decide
    omega
  obtain ⟨first, hfirst⟩ := Config.exists_initialSize hgrows hword
  obtain ⟨sizes, hladder, hsizes⟩ := Config.exists_ladder hfirst
  obtain ⟨best, hbest⟩ := exists_search hnodup hfew hfirst source
  have hascent := Config.ascent_of_ladder hfirst hladder
  refine ⟨first, sizes, best, hfirst, hascent, ?_⟩
  have htotal := drawn_search_le cfg groups source
  have hbuild := fun (reg : Registry cfg) (r : Nat) => reg.drawn_build_le r source
  obtain ⟨rest, hcons⟩ := hascent.eq_cons
  rcases hsizes with rfl | hrungs
  · cases hcons
    have hstill : (search cfg groups source).final = { best := .plain groups.flatten, source } := by
      rw [final_of_ladder hladder, if_pos rfl]
    refine ⟨fun _ => Nat.le_succ 1, hbest, ?_, fun hne => absurd rfl hne, htotal, ?_, hbuild⟩
    · intro _
      rw [Findings.drawn, hstill]
      rfl
    · intro before d after p hdraws
      rw [hstill] at hdraws
      exact absurd hdraws.symm (List.append_ne_nil_of_right_ne_nil _ (List.cons_ne_nil _ _))
  · obtain ⟨hclimb, htour, hconcluded⟩ := search_tours hnodup hfew hladder hrungs source
    have hne : first ≠ 0 := by
      have hfit := hrungs.fit first (hcons ▸ List.mem_cons_self)
      exact Nat.ne_of_gt hfit.pos
    obtain ⟨-, hfinal⟩ := Findings.packing_eq_ok_iff.1 hbest
    refine ⟨?_, hbest, fun hzero => absurd hzero hne, fun _ => ?_, htotal, ?_, hbuild⟩
    · intro honly
      exact hascent.length_le_two honly (Config.min_le_of_initialSize hfirst hne)
    · refine ⟨Search.loops_of_ascent hascent hclimb, htour, ?_⟩
      exact htour.length_le
    · intro before d after p hdraws hreplay hperfect
      rw [← hfinal]
      exact hconcluded before d after p hdraws hreplay hperfect

/-- All attempts at both sizes are made, and two draws of the total budget are left. -/
theorem search_within_budgets_sixCodes : 0 < sixThenEight.chunk ∧ sixCodes.flatten.Nodup ∧
    sixCodes.flatten.length < UInt32.size ∧
    (search sixThenEight sixCodes ({ salt := 0 } : Allocator)).drawn = 6 ∧
    ∃ sizes, sixThenEight.Ascent sixCodes.flatten.length 6 sizes ∧
      Search.Loops sixThenEight (boundedTrial sixThenEight sixCodes) sixCodes.flatten.length 6
        { best := .plain sixCodes.flatten, source := ({ salt := 0 } : Allocator) }
        (search sixThenEight sixCodes ({ salt := 0 } : Allocator)).final ∧
      Search.Tour sixThenEight sixCodes sizes 0
        (search sixThenEight sixCodes ({ salt := 0 } : Allocator)).final.draws.toList := by
  have hchunk : 0 < sixThenEight.chunk := by decide
  have hnodup : sixCodes.flatten.Nodup := by decide
  have hfew : sixCodes.flatten.length < UInt32.size := by decide
  have hsix : sixThenEight.initialSize sixCodes.flatten.length = .ok 6 := by decide
  obtain ⟨first, sizes, best, hfirst, hascent, -, -, -, hgoes, -⟩ :=
    search_within_budgets (fun _ => hchunk) hnodup hfew ({ salt := 0 } : Allocator)
  rw [hsix] at hfirst
  cases hfirst
  obtain ⟨hloops, htour, -⟩ := hgoes (by decide)
  exact ⟨hchunk, hnodup, hfew, by decide +kernel, sizes, hascent, hloops, htour⟩

end

end Supertypes
