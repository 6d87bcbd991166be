/-
  Supertypes/Proofs/Searching.lean
  ================================
  **What a search comes to.**

  A search is a loop over sizes around a loop over seeds, with several ways out.  What
  holds of the state and is kept by one attempt holds at the end, whichever way out is
  taken, and what no attempt breaks off for, the search does not break off for
  (`searchWith_invariant`).

  The invariant used here is that the best packing is the whole packing of its own seed,
  and that this seed was composed for a fit size (`Search.Reproducible`).  It needs no
  comparison of scores: whatever the search adopts was packed to its end.  Together with
  the closed form of packings it says which elements are where in the packing that a
  search comes to (`placed_of_search`).

  On distinct elements, fewer than 32 bits count, nothing breaks an attempt.  It draws a
  seed, and the whole packing of that seed says what the attempt does
  (`Search.Attempted`), whether the attempt packs it to its end or gives up on it.  So a
  search comes to a packing as soon as there is a first size (`exists_search`).
-/
import Supertypes.Proofs.Placement
import Supertypes.Proofs.Sizes
import Supertypes.Search

namespace Supertypes

namespace Search

variable {cap : Capacity} {α σ : Type} [SeedSource σ] {trial : Trial cap α}
  {I : Search cap α σ → Prop} {breaks : Fault → Prop}

/-! ### Invariants of the loops -/

/-- A run that ends in a state with the invariant, and breaks off for certain faults only. -/
def Keeps (I : Search cap α σ → Prop) (breaks : Fault → Prop)
    (run : Verdict × Search cap α σ) : Prop :=
  I run.2 ∧ ∀ fault, run.1 = .broken fault → breaks fault

theorem trySize_invariant {budget size : Nat}
    (hattempt : ∀ s : Search cap α σ, I s → Keeps I breaks (s.attempt trial size))
    (attempts : Nat) {s : Search cap α σ} (hs : I s) :
    Keeps I breaks (s.trySize trial budget size attempts) := by
  induction attempts generalizing s with
  | zero => exact ⟨hs, by simp [trySize]⟩
  | succ attempts ih =>
    unfold trySize
    split
    · exact ⟨hs, by simp⟩
    · have hkept := hattempt s hs
      split
      · rename_i next hnext
        rw [hnext] at hkept
        exact ih hkept.1
      · exact hkept

theorem climb_invariant {budget attempts : Nat} {sizes : List Nat}
    (hattempt : ∀ size ∈ sizes, ∀ s : Search cap α σ, I s →
      Keeps I breaks (s.attempt trial size))
    {s : Search cap α σ} (hs : I s) :
    Keeps I breaks (s.climb trial budget attempts sizes) := by
  induction sizes generalizing s with
  | nil => exact ⟨hs, by simp [climb]⟩
  | cons size sizes ih =>
    have hkept : Keeps I breaks (s.trySize trial budget size attempts) :=
      trySize_invariant (hattempt size List.mem_cons_self) attempts hs
    unfold climb
    split
    · rename_i next hnext
      rw [hnext] at hkept
      exact ih (fun n hn => hattempt n (List.mem_cons_of_mem _ hn)) hkept.1
    · exact hkept

/-! ### What an attempt does -/

omit [SeedSource σ] in
/-- A packing with a longer tail is no better. -/
theorem consider_of_longer {s : Search cap α σ} {p : Packing cap α}
    (hlong : s.best.tail.size < p.tail.size) : s.consider p = s := by
  have hworse : ¬ p.score < s.best.score := by
    rw [Score.lt_iff]
    change ¬ (p.tail.size < s.best.tail.size ∨ p.tail.size = s.best.tail.size ∧ _)
    omega
  rw [consider, if_neg hworse]

omit [SeedSource σ] in
/-- A packing with a shorter tail is better, whatever else it is like. -/
theorem consider_of_shorter {s : Search cap α σ} {p : Packing cap α}
    (hshort : p.tail.size < s.best.tail.size) : s.consider p = s.adopt p := by
  have hbetter : p.score < s.best.score := Score.lt_iff.2 (Or.inl hshort)
  rw [consider, if_pos hbetter]

/-- What an attempt makes of a packing that came to its end. -/
def weigh (s : Search cap α σ) (p : Packing cap α) : Verdict × Search cap α σ :=
  let next := s.consider p
  (if next.best.isPerfect then .done else if p.isFull then .larger else .again, next)

omit [SeedSource σ] in
theorem weigh_ne_broken (s : Search cap α σ) (p : Packing cap α) (fault : Fault) :
    (s.weigh p).1 ≠ .broken fault := by
  unfold weigh
  dsimp only
  split
  · simp
  · split <;> simp

section

variable {s : Search cap α σ} {size : Nat} {seed : Seed cap}
  (hseed : Seed.compose (s.draw size).1 size = .ok seed)
include hseed

theorem attempt_of_packed {p : Packing cap α}
    (htrial : trial seed s.best.tail.size = .ok (some p)) :
    s.attempt trial size = (s.draw size).2.weigh p := by
  have hbest : (s.draw size).2.best = s.best := rfl
  unfold attempt weigh
  simp only [hseed, hbest, htrial]
  split
  · rfl
  · split <;> rfl

theorem attempt_of_abandoned (htrial : trial seed s.best.tail.size = .ok none) :
    s.attempt trial size = (.again, (s.draw size).2) := by
  have hbest : (s.draw size).2.best = s.best := rfl
  unfold attempt
  simp only [hseed, hbest, htrial]

end

/-- An attempt breaks, or gives up on its seed, or weighs the packing of its trial. -/
theorem attempt_cases (trial : Trial cap α) (size : Nat) (s : Search cap α σ) :
    (∃ fault, s.attempt trial size = (.broken fault, (s.draw size).2)) ∨
      ∃ seed, Seed.compose (s.draw size).1 size = .ok seed ∧
        (trial seed s.best.tail.size = .ok none ∧
            s.attempt trial size = (.again, (s.draw size).2) ∨
          ∃ p, trial seed s.best.tail.size = .ok (some p) ∧
            s.attempt trial size = (s.draw size).2.weigh p) := by
  cases hseed : (Seed.compose (s.draw size).1 size : Except Fault (Seed cap)) with
  | error fault => exact Or.inl ⟨fault, by simp only [attempt, hseed]⟩
  | ok seed =>
    have hbest : (s.draw size).2.best = s.best := rfl
    cases htrial : trial seed s.best.tail.size with
    | error fault => exact Or.inl ⟨fault, by simp only [attempt, hseed, hbest, htrial]⟩
    | ok packed =>
      refine Or.inr ⟨seed, rfl, ?_⟩
      cases packed with
      | none => exact Or.inl ⟨htrial, attempt_of_abandoned hseed htrial⟩
      | some p => exact Or.inr ⟨p, htrial, attempt_of_packed hseed htrial⟩

/-! ### What is drawn -/

omit [SeedSource σ] in
@[simp] theorem source_consider (s : Search cap α σ) (p : Packing cap α) :
    (s.consider p).source = s.source := by
  unfold consider
  split <;> rfl

omit [SeedSource σ] in
@[simp] theorem draws_consider (s : Search cap α σ) (p : Packing cap α) :
    (s.consider p).draws = s.draws := by
  unfold consider
  split <;> rfl

theorem source_attempt (s : Search cap α σ) (size : Nat) :
    (s.attempt trial size).2.source = (SeedSource.draw s.source).2 := by
  rcases attempt_cases trial size s with ⟨fault, h⟩ | ⟨seed, -, ⟨-, h⟩ | ⟨p, -, h⟩⟩
  · rw [h]
    rfl
  · rw [h]
    rfl
  · rw [h]
    exact source_consider _ p

theorem draws_attempt (s : Search cap α σ) (size : Nat) :
    (s.attempt trial size).2.draws = s.draws.push ⟨(SeedSource.draw s.source).1, size⟩ := by
  rcases attempt_cases trial size s with ⟨fault, h⟩ | ⟨seed, -, ⟨-, h⟩ | ⟨p, -, h⟩⟩
  · rw [h]
    rfl
  · rw [h]
    rfl
  · rw [h]
    exact draws_consider _ p

end Search

theorem Findings.packing_eq_ok_iff {cap : Capacity} {α σ : Type} {f : Findings cap α σ}
    {p : Packing cap α} : f.packing = .ok p ↔ f.fault = none ∧ f.final.best = p := by
  unfold packing
  cases f.fault with
  | some fault => simp
  | none => simp

section

variable {cfg : Config} {α σ : Type} [Coded α] [DecidableEq α] [SeedSource σ]
  {groups : List (List α)}

/-! ### Invariants of the whole search -/

omit [Coded α] [DecidableEq α] in
/-- What holds at the start and is kept by attempts at fit sizes holds at the end. -/
theorem searchWith_invariant {trial : Trial cfg.capacity α}
    {I : Search cfg.capacity α σ → Prop} {B : Fault → Prop} {source : σ}
    (hstart : I { best := .plain groups.flatten, source })
    (hattempt : ∀ size, cfg.Rung size → ∀ s : Search cfg.capacity α σ, I s →
      Search.Keeps I B (s.attempt trial size)) :
    I (searchWith cfg trial groups source).final ∧
      ∀ sizes fault, cfg.ladder groups.flatten.length = .ok sizes →
        (searchWith cfg trial groups source).fault = some fault → B fault := by
  cases hladder : cfg.ladder groups.flatten.length with
  | error fault =>
    simp only [searchWith, hladder]
    exact ⟨hstart, fun sizes fault' h => by cases h⟩
  | ok sizes =>
    by_cases hnone : sizes = [0]
    · simp only [searchWith, hladder, if_pos hnone]
      exact ⟨hstart, fun _ fault _ h => by cases h⟩
    · have hrungs := (Config.rungs_of_ladder hladder).resolve_left hnone
      have hkept : Search.Keeps I B (Search.climb trial cfg.maxTotalAttempts cfg.maxAttempts sizes
          { best := .plain groups.flatten, source }) :=
        Search.climb_invariant (fun size hsize => hattempt size (hrungs.fit size hsize)) hstart
      simp only [searchWith, hladder, if_neg hnone]
      refine ⟨hkept.1, fun _ fault _ h => ?_⟩
      split at h
      · rename_i broken hverdict
        cases h
        exact hkept.2 fault hverdict
      · cases h

omit [Coded α] [DecidableEq α] in
theorem final_of_attempts {trial : Trial cfg.capacity α} {I : Search cfg.capacity α σ → Prop}
    {source : σ} (hstart : I { best := .plain groups.flatten, source })
    (hattempt : ∀ size, cfg.Rung size → ∀ s : Search cfg.capacity α σ, I s →
      I (s.attempt trial size).2) : I (searchWith cfg trial groups source).final := by
  refine (searchWith_invariant (B := fun _ => True) hstart ?_).1
  intro size hsize s hs
  exact ⟨hattempt size hsize s hs, fun _ _ => trivial⟩

/-! ### The best packing -/

/-- The best packing is the whole packing of its seed, and the seed is fit. -/
structure Search.Reproducible (groups : List (List α)) (s : Search cfg.capacity α σ) : Prop where
  seed : s.best.seed.Composed cfg.sizing
  packed : pack cfg.sizing s.best.seed groups = .ok s.best

omit [SeedSource σ] in
theorem Search.Reproducible.placed {s : Search cfg.capacity α σ} (hs : s.Reproducible groups) :
    Placed cfg.sizing groups.flatten s.best :=
  (placed_of_pack hs.seed hs.packed).2

omit [SeedSource σ] in
theorem reproducible_plain (cfg : Config) (groups : List (List α)) (source : σ) :
    ({ best := .plain groups.flatten, source } : Search cfg.capacity α σ).Reproducible groups :=
  ⟨Seed.Composed.empty cfg.sizing, pack_empty cfg.sizing groups⟩

omit [SeedSource σ] in
/-- A reproducible packing stays reproducible when a whole packing competes with it. -/
theorem Search.Reproducible.consider {s : Search cfg.capacity α σ} (hs : s.Reproducible groups)
    {p : Packing cfg.capacity α} (hseed : p.seed.Composed cfg.sizing)
    (hpack : pack cfg.sizing p.seed groups = .ok p) : (s.consider p).Reproducible groups := by
  unfold Search.consider
  split
  · exact ⟨hseed, hpack⟩
  · exact hs

/-- Whatever one attempt at a fit size does, the best packing stays reproducible. -/
theorem attempt_reproducible {size : Nat} (hsize : cfg.Rung size)
    (s : Search cfg.capacity α σ) (hs : s.Reproducible groups) :
    (s.attempt (boundedTrial cfg groups) size).2.Reproducible groups := by
  have hdrawn : (s.draw size).2.Reproducible groups := ⟨hs.seed, hs.packed⟩
  rcases Search.attempt_cases (boundedTrial cfg groups) size s with
    ⟨fault, h⟩ | ⟨seed, hseed, ⟨-, h⟩ | ⟨p, htrial, h⟩⟩
  · rwa [h]
  · rwa [h]
  · have hcomposed : seed.Composed cfg.sizing := ⟨_, size, hseed, hsize.legal⟩
    have hpack : pack cfg.sizing seed groups = .ok p := pack_of_packWithin htrial
    obtain ⟨rfl, -⟩ := placed_of_pack hcomposed hpack
    rw [h]
    exact hdrawn.consider hcomposed hpack

theorem reproducible_of_search {source : σ} {p : Packing cfg.capacity α}
    (h : (search cfg groups source).packing = .ok p) :
    p.seed.Composed cfg.sizing ∧ pack cfg.sizing p.seed groups = .ok p := by
  have hfinal : (search cfg groups source).final.Reproducible groups :=
    final_of_attempts (reproducible_plain cfg groups source) fun _ => attempt_reproducible
  obtain ⟨-, rfl⟩ := Findings.packing_eq_ok_iff.1 h
  exact ⟨hfinal.seed, hfinal.packed⟩

/-- The packing that a search comes to is the closed form for a fit seed. -/
theorem placed_of_search {source : σ} {p : Packing cfg.capacity α}
    (h : (search cfg groups source).packing = .ok p) :
    p.seed.Composed cfg.sizing ∧ Placed cfg.sizing groups.flatten p := by
  obtain ⟨hseed, hpack⟩ := reproducible_of_search h
  exact ⟨hseed, (placed_of_pack hseed hpack).2⟩

/-! ### A small search -/

/-- Tables of six or eight slots, and three seeds for each size. -/
def sixThenEight : Config where
  sizing := .modulo
  capacity := .ofNat 8
  minTableSize := 1
  chunkSize := 3
  maxAttempts := 3
  maxTotalAttempts := 8

/-- Six codes in two groups. -/
def sixCodes : List (List UInt32) := [[10, 20], [30, 40, 50, 60]]

/-! ### Distinct elements -/

/-- The next attempt at a size is about the packing `p`: the seed that it draws, packed to
    the end.  Giving up early, it does not see the end if the tail is longer than the best. -/
structure Search.Attempted (groups : List (List α)) (size : Nat) (s : Search cfg.capacity α σ)
    (p : Packing cfg.capacity α) : Prop where
  seed : Seed.compose (s.draw size).1 size = .ok p.seed
  composed : p.seed.Composed cfg.sizing
  packed : pack cfg.sizing p.seed groups = .ok p
  bounded : s.attempt (boundedTrial cfg groups) size =
    if p.tail.size ≤ s.best.tail.size then (s.draw size).2.weigh p else (.again, (s.draw size).2)
  full : s.attempt (fullTrial cfg groups) size = (s.draw size).2.weigh p

namespace Search.Attempted

variable {s : Search cfg.capacity α σ} {size : Nat} {p : Packing cfg.capacity α}
  (h : s.Attempted groups size p)
include h

theorem placed : Placed cfg.sizing groups.flatten p := (placed_of_pack h.composed h.packed).2

theorem size_eq : p.seed.size = size := Seed.size_of_compose h.seed

theorem unbroken (fault : Fault) : (s.attempt (boundedTrial cfg groups) size).1 ≠ .broken fault := by
  rw [h.bounded]
  split
  · exact weigh_ne_broken _ p fault
  · simp

/-- To give up on a packing is to consider it. -/
theorem state_eq : (s.attempt (boundedTrial cfg groups) size).2 = (s.draw size).2.consider p := by
  rw [h.bounded]
  split
  · rfl
  · rename_i hlong
    exact (consider_of_longer (s := (s.draw size).2) (Nat.lt_of_not_le hlong)).symm

end Search.Attempted

variable (hnodup : groups.flatten.Nodup) (hfew : groups.flatten.length < UInt32.size)
include hnodup hfew

theorem exists_attempted {size : Nat} (hsize : cfg.Rung size) {s : Search cfg.capacity α σ}
    (hs : s.Reproducible groups) : ∃ p, s.Attempted groups size p := by
  have hlimit : s.best.tail.size + 1 < UInt64.size := by
    have hlength := hs.placed.length_eq
    have hwords : UInt32.size + 1 < UInt64.size := by decide
    omega
  obtain ⟨seed, hseed⟩ : ∃ seed : Seed cfg.capacity,
      Seed.compose (s.draw size).1 size = .ok seed :=
    Seed.isOk_compose_iff.2 hsize.le_slots
  have hcomposed : seed.Composed cfg.sizing := ⟨_, size, hseed, hsize.legal⟩
  obtain ⟨p, hpack⟩ := exists_pack hcomposed hnodup hfew
  obtain ⟨rfl, -⟩ := placed_of_pack hcomposed hpack
  have htrial : boundedTrial cfg groups p.seed s.best.tail.size =
      .ok (if p.tail.size ≤ s.best.tail.size then some p else none) := packWithin_eq hpack hlimit
  refine ⟨p, hseed, hcomposed, hpack, ?_, ?_⟩
  · by_cases hle : p.tail.size ≤ s.best.tail.size
    · rw [if_pos hle] at htrial ⊢
      exact Search.attempt_of_packed hseed htrial
    · rw [if_neg hle] at htrial ⊢
      exact Search.attempt_of_abandoned hseed htrial
  · apply Search.attempt_of_packed hseed
    rw [fullTrial, hpack]
    rfl

theorem exists_search {size : Nat} (hsize : cfg.initialSize groups.flatten.length = .ok size)
    (source : σ) : ∃ p, (search cfg groups source).packing = .ok p := by
  obtain ⟨sizes, hladder, -⟩ := Config.exists_ladder hsize
  have hunbroken : ∀ fault, (search cfg groups source).fault = some fault → False := by
    refine fun fault hfault => (searchWith_invariant (B := fun _ => False)
      (reproducible_plain cfg groups source) ?_).2 sizes fault hladder hfault
    intro size hsize s hs
    obtain ⟨p, hattempted⟩ := exists_attempted hnodup hfew hsize hs
    exact ⟨attempt_reproducible hsize s hs, hattempted.unbroken⟩
  cases hfault : (search cfg groups source).fault with
  | none => exact ⟨_, Findings.packing_eq_ok_iff.2 ⟨hfault, rfl⟩⟩
  | some fault => exact absurd (hunbroken fault hfault) id

end

end Supertypes
