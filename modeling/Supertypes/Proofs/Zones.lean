/-
  Supertypes/Proofs/Zones.lean
  ============================
  **Which zones a table has.**

  A search may come to a packing without slots, and then its elements stay a list.  It is
  not bad luck that brings it there.  The search starts from a tail with all elements, so
  it cannot give up on the first seed, and in the packing of that seed the first element
  has a slot.  This packing has the shorter tail and is adopted, and from then on the best
  packing has slots (`trySize_of_first`, `climb_of_first`).  So the search ends without
  slots exactly if no size or no attempt was granted at the outset (`size_of_search`).

  Which zones a table has is thereby a matter of the parameters and of two numbers, how
  many candidates there are and how many of them overflow (`zones_of_arrange`).  Both can
  be read off the table (`zone_conditions_of_built_table`).
-/
import Supertypes.Proofs.Contents

namespace Supertypes

namespace Search

variable {cap : Capacity} {α σ : Type} [SeedSource σ] {trial : Trial cap α}
  {I : Search cap α σ → Prop} {budget size attempts : Nat} {s : Search cap α σ}

/-! ### The first attempt -/

theorem trySize_of_spent (hspent : s.draws.size = budget) :
    (s.trySize trial budget size attempts).2 = s := by
  cases attempts with
  | zero => rfl
  | succ attempts => rw [trySize, if_pos hspent]

theorem climb_of_spent {sizes : List Nat} (hspent : s.draws.size = budget) :
    (s.climb trial budget attempts sizes).2 = s := by
  induction sizes with
  | nil => rfl
  | cons size sizes ih =>
    have hsame : (s.trySize trial budget size attempts).2 = s := trySize_of_spent hspent
    unfold climb
    split
    · rename_i next hnext
      rw [hnext] at hsame
      cases hsame
      exact ih
    · exact hsame

/-- The run breaks off, or it ends in a state with the property. -/
def Ends (I : Search cap α σ → Prop) (run : Verdict × Search cap α σ) : Prop :=
  (∀ fault, run.1 ≠ .broken fault) → I run.2

variable (hfirst : Ends I (s.attempt trial size)) (hattempts : attempts ≠ 0)
  (hgranted : s.draws.size ≠ budget)
include hfirst hattempts hgranted

/-- What the first attempt leads to and no attempt undoes, holds in the end. -/
theorem trySize_of_first (hkeep : ∀ s : Search cap α σ, I s → I (s.attempt trial size).2) :
    Ends I (s.trySize trial budget size attempts) := by
  obtain ⟨left, rfl⟩ := Nat.exists_eq_succ_of_ne_zero hattempts
  unfold trySize
  rw [if_neg hgranted]
  split
  · rename_i next hnext
    -- an attempt that is followed by another one did not break off
    have hnext' : I next := by
      rw [hnext] at hfirst
      exact hfirst (by simp)
    have hkept : Keeps I (fun _ => True) (next.trySize trial budget size left) :=
      trySize_invariant (fun s hs => ⟨hkeep s hs, fun _ _ => trivial⟩) left hnext'
    exact fun _ => hkept.1
  · exact hfirst

theorem climb_of_first {sizes : List Nat}
    (hkeep : ∀ n ∈ size :: sizes, ∀ s : Search cap α σ, I s → I (s.attempt trial n).2) :
    Ends I (s.climb trial budget attempts (size :: sizes)) := by
  have hsize : Ends I (s.trySize trial budget size attempts) :=
    trySize_of_first hfirst hattempts hgranted (hkeep size List.mem_cons_self)
  unfold climb
  split
  · rename_i next hnext
    have hnext' : I next := by
      rw [hnext] at hsize
      exact hsize (by simp)
    have hkept : Keeps I (fun _ => True) (next.climb trial budget attempts sizes) :=
      climb_invariant (fun n hn s hs =>
        ⟨hkeep n (List.mem_cons_of_mem _ hn) s hs, fun _ _ => trivial⟩) hnext'
    exact fun _ => hkept.1
  · exact hsize

end Search

/-! ### Searches that come to a table with slots -/

section

variable {cfg : Config} {α σ : Type} [Coded α] [DecidableEq α] [SeedSource σ]
  {groups : List (List α)} {size : Nat} {s : Search cfg.capacity α σ}

/-- Some slots, however many. -/
def Search.Slotted (s : Search cfg.capacity α σ) : Prop := s.best.size ≠ 0

omit [Coded α] [DecidableEq α] [SeedSource σ] in
theorem slotted_of_compose {p : Packing cfg.capacity α} {word : UInt64} (hsize : cfg.Rung size)
    (hseed : Seed.compose word size = .ok p.seed) : p.size ≠ 0 := by
  have hsame : p.size = size := Seed.size_of_compose hseed
  have hpos := hsize.pos
  omega

theorem attempt_slotted (hsize : cfg.Rung size) (hs : s.Slotted) :
    (s.attempt (boundedTrial cfg groups) size).2.Slotted := by
  rcases Search.attempt_cases (boundedTrial cfg groups) size s with
    ⟨fault, h⟩ | ⟨seed, hseed, ⟨-, h⟩ | ⟨p, htrial, h⟩⟩
  · rwa [h]
  · rwa [h]
  · have hcomposed : seed.Composed cfg.sizing := ⟨_, size, hseed, hsize.legal⟩
    obtain ⟨rfl, -⟩ := placed_of_pack hcomposed (pack_of_packWithin htrial)
    rw [h]
    change ((s.draw size).2.consider p).Slotted
    unfold Search.consider
    split
    · exact slotted_of_compose hsize hseed
    · exact hs

/-- With all elements in the best tail, the packing of a seed is never given up, and it is
    better because its slots are not all vacant. -/
theorem first_attempt_slotted (hsize : cfg.Rung size) (hne : groups.flatten ≠ [])
    (hstart : s.best.tail.size = groups.flatten.length) :
    Search.Ends Search.Slotted (s.attempt (boundedTrial cfg groups) size) := by
  rcases Search.attempt_cases (boundedTrial cfg groups) size s with
    ⟨fault, h⟩ | ⟨seed, hseed, ⟨htrial, -⟩ | ⟨p, htrial, h⟩⟩
  · intro hunbroken
    exact absurd (by rw [h]) (hunbroken fault)
  · have hlong : s.best.tail.size < groups.flatten.length := lt_of_packWithin_eq_none htrial
    omega
  · have hcomposed : seed.Composed cfg.sizing := ⟨_, size, hseed, hsize.legal⟩
    obtain ⟨rfl, hplaced⟩ := placed_of_pack hcomposed (pack_of_packWithin htrial)
    have hslots : p.size ≠ 0 := slotted_of_compose hsize hseed
    have hshort : p.tail.size < (s.draw size).2.best.tail.size := by
      have := hplaced.tail_size_lt hcomposed hslots hne
      change p.tail.size < s.best.tail.size
      omega
    rw [h]
    intro _
    change ((s.draw size).2.consider p).Slotted
    rw [Search.consider_of_shorter hshort]
    exact hslots

theorem climb_slotted {budget attempts : Nat} {sizes : List Nat} (source : σ)
    (hrungs : cfg.Rungs (size :: sizes)) (hne : groups.flatten ≠ []) (hattempts : attempts ≠ 0)
    (hbudget : budget ≠ 0) :
    Search.Ends Search.Slotted (Search.climb (boundedTrial cfg groups) budget attempts
      (size :: sizes) { best := .plain groups.flatten, source }) := by
  have hfirst : Search.Ends Search.Slotted (Search.attempt (boundedTrial cfg groups) size
      { best := .plain groups.flatten, source }) :=
    first_attempt_slotted (hrungs.fit size List.mem_cons_self) hne (by simp [Packing.plain])
  exact Search.climb_of_first hfirst hattempts hbudget.symm
    fun n hn s hs => attempt_slotted (hrungs.fit n hn) hs

/-- A search comes to a packing without slots exactly if it was granted no size or no
    attempt, whatever its seeds are and whatever its elements. -/
theorem size_of_search {source : σ} {p : Packing cfg.capacity α}
    (h : (search cfg groups source).packing = .ok p) :
    p.size = 0 ↔ cfg.initialSize groups.flatten.length = .ok 0 ∨ cfg.maxTotalAttempts = 0 := by
  have hplain : (Packing.plain groups.flatten : Packing cfg.capacity α).size = 0 := Seed.size_empty
  obtain ⟨hfault, rfl⟩ := Findings.packing_eq_ok_iff.1 h
  cases hladder : cfg.ladder groups.flatten.length with
  | error fault =>
    simp only [search, searchWith, hladder] at hfault
    cases hfault
  | ok sizes =>
    obtain ⟨first, rest, hfirst, rfl⟩ := Config.ladder_eq_cons hladder
    by_cases hnone : first :: rest = [0]
    · cases hnone
      simp only [search, searchWith, hladder, if_true]
      exact ⟨fun _ => Or.inl hfirst, fun _ => hplain⟩
    simp only [search, searchWith, hladder, if_neg hnone] at hfault ⊢
    by_cases hbudget : cfg.maxTotalAttempts = 0
    · rw [Search.climb_of_spent (by rw [hbudget]; rfl)]
      exact ⟨fun _ => Or.inr hbudget, fun _ => hplain⟩
    have hrungs := (Config.rungs_of_ladder hladder).resolve_left hnone
    have hsized : cfg.initialSize groups.flatten.length ≠ .ok 0 := by
      have hpos := (hrungs.fit first List.mem_cons_self).pos
      rw [hfirst]
      rintro ⟨⟩
      exact Nat.lt_irrefl 0 hpos
    have hgranted := mt Config.initialSize_eq_zero_iff.2 hsized
    have hne : groups.flatten ≠ [] :=
      fun hempty => hgranted (Or.inr (Or.inr (by rw [hempty, List.length_nil])))
    have hattempts : cfg.maxAttempts ≠ 0 := fun hzero => hgranted (Or.inl hzero)
    have hslotted := climb_slotted source hrungs hne hattempts hbudget
    simp only [hsized, hbudget, or_self, iff_false]
    apply hslotted
    intro fault hbroken
    rw [hbroken] at hfault
    cases hfault

theorem size_of_search_of_check (hcheck : cfg.check = .ok ()) {source : σ}
    {p : Packing cfg.capacity α} (h : (search cfg groups source).packing = .ok p) :
    p.size = 0 ↔ cfg.maxAttempts = 0 ∨ groups.flatten.length < cfg.minTableSize ∨
      groups.flatten.length = 0 := by
  have hbudget := (Config.check_eq_ok_iff.1 hcheck).2.2
  rw [size_of_search h, Config.initialSize_eq_zero_iff]
  constructor
  · rintro (hnone | hzero)
    · exact hnone
    · exact Or.inl (by omega)
  · exact Or.inl

end

namespace Layout

variable {cfg : Config} {α : Type} [Coded α] [DecidableEq α] {l : Layout cfg α}

section

variable {σ : Type} [SeedSource σ] {groups : List (List α)} {source : σ}

/-! ### Arranged zones -/

omit [Coded α] [DecidableEq α] in
theorem needsSecond_iff {p : Packing cfg.capacity α} : needsSecond cfg p = true ↔
    cfg.secondLevel = true ∧ p.size ≠ 0 ∧ cfg.secondLevelMin ≤ p.tail.size := by
  simp only [needsSecond, Bool.and_eq_true, bne_iff_ne, decide_eq_true_iff, and_assoc]

/-- Both zones have slots whenever there are attempts and enough elements for them. -/
theorem zones_of_arrange (hcheck : cfg.check = .ok ())
    (h : (arrange cfg groups source).outcome = .ok l) :
    (l.primary.size = 0 ↔ cfg.maxAttempts = 0 ∨ groups.flatten.length < cfg.minTableSize ∨
      groups.flatten.length = 0) ∧
    (l.secondary.size ≠ 0 ↔ cfg.secondLevel = true ∧ l.primary.size ≠ 0 ∧
      1 ≤ l.primary.tail.size ∧ cfg.secondLevelMin ≤ l.primary.tail.size ∧
      cfg.minTableSize ≤ l.primary.tail.size) := by
  obtain ⟨hfirst, hrest⟩ := arrange_cases h
  have hprimary := size_of_search_of_check hcheck hfirst
  refine ⟨hprimary, ?_⟩
  rcases hrest with ⟨hneeds, hsecond⟩ | ⟨hneeds, hplain⟩
  · obtain ⟨hlevel, hslots, hmin⟩ := needsSecond_iff.1 hneeds
    have hsecondary := size_of_search_of_check hcheck hsecond
    rw [List.flatten_singleton, Array.length_toList] at hsecondary
    -- there are attempts, since the first search has found a zone
    have hattempts : cfg.maxAttempts ≠ 0 := fun hzero => hslots (hprimary.2 (Or.inl hzero))
    rw [Ne, hsecondary]
    simp only [hlevel, hslots, hmin, hattempts, false_or, true_and, ne_eq, not_false_eq_true]
    omega
  · have hempty : l.secondary.size = 0 := by
      rw [hplain]
      exact Seed.size_empty
    have hnot := mt needsSecond_iff.2 (by rw [hneeds]; decide)
    simp only [hempty, ne_eq, not_true_eq_false, false_iff]
    rintro ⟨hlevel, hslots, -, hmin, -⟩
    exact hnot ⟨hlevel, hslots, hmin⟩

end

end Layout

/-! ### Zones of a table -/

namespace Table

variable {cfg : Config} {α : Type} [DecidableEq α]

/-- The elements of a list that the primary zone does not hold. -/
def overflow (t : Table cfg α) (es : List α) : List α :=
  es.filter fun x => !t.primaryZone.any fun e => e.holds x

theorem any_holds_iff {zone : List (Entry α)} {x : α} :
    (zone.any fun e => e.holds x) = true ↔ x ∈ zone.filterMap Entry.resident := by
  simp only [List.any_eq_true, List.mem_filterMap, Entry.holds, beq_iff_eq]

end Table

namespace Layout.Realizes

variable {cfg : Config} {α : Type} [Coded α] {l : Layout cfg α} {t : Table cfg α} {es : List α}
  (hr : l.Realizes t) (hl : l.Fits es)
include hr hl

/-- What overflows the primary zone is the tail of the first packing. -/
theorem overflow_perm [DecidableEq α] (hnodup : es.Nodup) :
    (t.overflow es).Perm l.primary.tail.toList := by
  have hheld : ∀ x, (t.primaryZone.any fun e => e.holds x) = true ↔
      x ∈ l.primary.residentList := by
    intro x
    rw [Table.any_holds_iff, hr.primary_eq]
  obtain ⟨-, -, hapart⟩ := List.nodup_append.1 (hl.primary.nodup hnodup)
  have hresidents : l.primary.residentList.filter
      (fun x => !t.primaryZone.any fun e => e.holds x) = [] := by
    rw [List.filter_eq_nil_iff]
    intro x hx
    simp [(hheld x).2 hx]
  have htail : l.primary.tail.toList.filter
      (fun x => !t.primaryZone.any fun e => e.holds x) = l.primary.tail.toList := by
    rw [List.filter_eq_self]
    intro x hx
    have hnot : x ∉ l.primary.residentList := fun hmem => hapart x hmem x hx rfl
    simpa using mt (hheld x).1 hnot
  have hperm := (hl.primary.content.filter fun x => !t.primaryZone.any fun e => e.holds x).symm
  rwa [List.filter_append, hresidents, htail, List.nil_append] at hperm

/-- Without slots the storage is the list of the elements. -/
theorem storage_of_plain (hzero : l.primary.seed.size = 0) :
    t.storage.toList = es.map fun x => { resident := some x } := by
  have hzero' : l.secondary.seed.size = 0 := hl.secondary_needs_primary.resolve_left (not_not.2 hzero)
  have htail : l.tail.toList = es :=
    (hl.secondary.plain hzero').trans (hl.primary.plain hzero)
  have hslots : ∀ p : Packing cfg.capacity α, p.seed.size = 0 → p.slots.toList = [] := by
    intro p hp
    rw [← List.length_eq_zero_iff, Vector.length_toList, hp]
  have hresidents := hr.residents_eq
  rw [hslots _ hzero, hslots _ hzero', htail] at hresidents
  have huntagged : ∀ e ∈ t.storage.toList, ({ resident := e.resident } : Entry α) = e := by
    intro e he
    obtain ⟨k, hk⟩ := List.getElem?_of_mem he
    have htag := hr.tag_eq (Array.getElem?_toList ▸ hk)
    rw [Layout.tagAt, if_pos hzero] at htag
    cases e
    cases htag
    rfl
  calc t.storage.toList
      = t.storage.toList.map fun e => { resident := e.resident } :=
        ((List.map_congr_left huntagged).trans (List.map_id _)).symm
    _ = (t.storage.toList.map Entry.resident).map fun resident => { resident } :=
        by rw [List.map_map]; rfl
    _ = es.map fun x => { resident := some x } := by
        rw [hresidents]
        simp

end Layout.Realizes

namespace Registry

variable {cfg : Config} {reg : Registry cfg} {σ : Type} [SeedSource σ] {r : Nat}

/-! ### Built tables -/

/-- There are zones where there are attempts and enough elements for them, a zone shortens
    the overflow, and a table without zones is the list of the candidates.  Seeds and
    codes have no part in it, neither here nor in any other search. -/
theorem zone_conditions_of_built_table (hdecl : reg.hierarchy.Declared)
    (hcheck : cfg.check = .ok ()) (hr : r < reg.size) (source : σ) :
    ((reg.expected r).length < UInt32.size → ∃ t, (reg.build r source).outcome = .ok t) ∧
    (∀ t, (reg.build r source).outcome = .ok t →
      (t.primary.isEmpty = true ↔ cfg.maxAttempts = 0 ∨ (reg.expected r).length = 0 ∨
        (reg.expected r).length < cfg.minTableSize) ∧
      (t.secondary.isEmpty = false ↔ cfg.secondLevel = true ∧ t.primary.isEmpty = false ∧
        1 ≤ (t.overflow (reg.expected r)).length ∧
        cfg.secondLevelMin ≤ (t.overflow (reg.expected r)).length ∧
        cfg.minTableSize ≤ (t.overflow (reg.expected r)).length) ∧
      (t.primary.isEmpty = false →
        (∃ x ∈ reg.expected r, (t.primaryZone.any fun e => e.holds x) = true) ∧
          (t.overflow (reg.expected r)).length < (reg.expected r).length) ∧
      (t.secondary.isEmpty = false →
        (∃ x ∈ t.overflow (reg.expected r), (t.secondaryZone.any fun e => e.holds x) = true) ∧
          t.tailZone.length < (t.overflow (reg.expected r)).length) ∧
      (t.primary.isEmpty = true →
        t.storage.toList = (reg.expected r).map fun x => { resident := some x })) ∧
    ∀ (other : Config) (α : Type) [Coded α] [DecidableEq α] (groups : List (List α)) (source : σ)
      (p : Packing other.capacity α), (search other groups source).packing = .ok p →
      (p.size = 0 ↔ other.initialSize groups.flatten.length = .ok 0 ∨
        other.maxTotalAttempts = 0) := by
  refine ⟨fun hfew => exists_build hdecl hcheck hr hfew source, ?_,
    fun _ _ _ _ _ _ _ hpacking => size_of_search hpacking⟩
  intro t hbuild
  obtain ⟨l, harrange, hfits, hrealizes⟩ := layout_of_build hbuild
  have hnodup := nodup_expected hdecl hr
  have hoverflow := hrealizes.overflow_perm hfits hnodup
  have hcount : (t.overflow (reg.expected r)).length = l.primary.tail.size := by
    rw [hoverflow.length_eq, Array.length_toList]
  have htail : t.tailZone.length = l.secondary.tail.size := by
    have hlength := congrArg List.length hrealizes.tail_residents
    rwa [List.length_map, List.length_map, Array.length_toList] at hlength
  obtain ⟨hprimary, hsecondary⟩ := Layout.zones_of_arrange hcheck harrange
  have hempty : t.primary.isEmpty = true ↔ l.primary.seed.size = 0 := by
    rw [Seed.isEmpty_iff, hrealizes.primary]
  have hslots : t.primary.isEmpty = false ↔ l.primary.seed.size ≠ 0 := by
    rw [← Bool.not_eq_true, hempty]
  have hslots' : t.secondary.isEmpty = false ↔ l.secondary.seed.size ≠ 0 := by
    rw [← Bool.not_eq_true, Seed.isEmpty_iff, hrealizes.secondary]
  refine ⟨?_, ?_, ?_, ?_, ?_⟩
  · rw [hempty, or_comm (a := (reg.expected r).length = 0)]
    exact hprimary
  · rw [hslots', hslots, hcount]
    exact hsecondary
  · intro hzone
    have hsome : reg.expected r ≠ [] := by
      intro hnone
      have hzero := hprimary.2 (Or.inr (Or.inr (congrArg List.length hnone)))
      exact hslots.1 hzone hzero
    obtain ⟨x, hx, hheld⟩ :=
      hfits.primary.exists_mem_residentList hfits.primary_seed (hslots.1 hzone) hsome
    refine ⟨⟨x, hx, ?_⟩, ?_⟩
    · rwa [Table.any_holds_iff, hrealizes.primary_eq]
    · rw [hcount]
      exact hfits.primary.tail_size_lt hfits.primary_seed (hslots.1 hzone) hsome
  · intro hzone
    obtain ⟨-, -, hsome, -⟩ := hsecondary.1 (hslots'.1 hzone)
    have hsome : l.primary.tail.toList ≠ [] := by
      rw [← List.length_pos_iff, Array.length_toList]
      exact hsome
    obtain ⟨x, hx, hheld⟩ :=
      hfits.secondary.exists_mem_residentList hfits.secondary_seed (hslots'.1 hzone) hsome
    refine ⟨⟨x, hoverflow.mem_iff.2 hx, ?_⟩, ?_⟩
    · rwa [Table.any_holds_iff, hrealizes.secondary_eq]
    · rw [htail, hoverflow.length_eq]
      exact hfits.secondary.tail_size_lt hfits.secondary_seed (hslots'.1 hzone) hsome
  · intro hzone
    exact hrealizes.storage_of_plain hfits (hempty.1 hzone)

omit [SeedSource σ] in
/-- Six candidates overflow twice: four of them the primary zone, two of these the other. -/
theorem zone_conditions_of_dialog_table :
    ∃ t, (dialog.1.build 7 dialog.2).outcome = .ok t ∧ (dialog.1.expected 7).length = 6 ∧
      t.primary.isEmpty = false ∧ (t.overflow (dialog.1.expected 7)).length = 4 ∧
      t.secondary.isEmpty = false ∧ t.tailZone.length < 4 := by
  have hlast : 7 < dialog.1.size := by decide +kernel
  obtain ⟨hexists, hzones, -⟩ :=
    zone_conditions_of_built_table declared_dialog (by decide) hlast dialog.2
  have hsix : (dialog.1.expected 7).length = 6 := by decide +kernel
  obtain ⟨t, hbuild⟩ := hexists (by rw [hsix]; decide)
  obtain ⟨hprimary, hsecondary, -, hshort, -⟩ := hzones t hbuild
  have hfour : ((dialog.1.build 7 dialog.2).outcome.toOption.map fun t =>
      (t.overflow (dialog.1.expected 7)).length) = some 4 := by decide +kernel
  rw [hbuild] at hfour
  have hfour : (t.overflow (dialog.1.expected 7)).length = 4 := Option.some.inj hfour
  have hzone : t.primary.isEmpty = false := by
    rw [← Bool.not_eq_true, hprimary, hsix]
    decide
  have hzone' : t.secondary.isEmpty = false := by
    rw [hsecondary, hfour]
    exact ⟨rfl, hzone, by decide⟩
  exact ⟨t, hbuild, hsix, hzone, hfour, hzone', hfour ▸ (hshort hzone').2⟩

end Registry

end Supertypes
