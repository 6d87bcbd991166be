/-
  Supertypes/Proofs/Verification.lean
  ===================================
  **Verification decides coherence.**

  A table verifies without a defect exactly if it is coherent and stores nothing twice
  (`verify_passes_iff`).  The report is a sum over cells, and a sum is clean exactly if
  every part is; so each check of one cell is compared with one clause of coherence.

  The last check, that every stored element is found, adds nothing to the others: on a
  coherent table a lookup cannot miss.
-/
import Mathlib.Data.List.FinRange
import Mathlib.Data.List.Nodup
import Supertypes.Proofs.Coherence
import Supertypes.Table.Verify

namespace Supertypes

/-! ### Clean results -/

/-- The check came to an end without a defect. -/
def Passes (result : Except Fault Report) : Prop :=
  ∃ report, result = .ok report ∧ report.isOk = true

@[simp] theorem passes_ok {report : Report} : Passes (.ok report) ↔ report.isOk = true := by
  constructor
  · rintro ⟨r, hr, hok⟩
    cases hr
    exact hok
  · intro hok
    exact ⟨report, rfl, hok⟩

@[simp] theorem not_passes_error {fault : Fault} : ¬ Passes (.error fault) := by
  rintro ⟨r, hr, -⟩
  cases hr

theorem passes_sumOver_iff {α : Type} {check : α → Except Fault Report} {xs : List α} :
    Passes (Report.sumOver check xs) ↔ ∀ x ∈ xs, Passes (check x) :=
  Report.sumOver_isOk_iff

namespace Table

theorem passes_both_iff {first second : Except Fault Report} :
    Passes (both first second) ↔ Passes first ∧ Passes second := by
  cases first with
  | error fault => simp [both]
  | ok report =>
    cases second with
    | error fault => simp [both]
    | ok other => simp [both]

variable {cfg : Config} {α : Type}

/-! ### Occupied cells -/

/-- The element in a cell of any zone. -/
def occupant (t : Table cfg α) (k : Fin t.storage.size) : Option α := t.storage[k].resident

theorem members_eq_filterMap (t : Table cfg α) :
    t.members = (List.finRange t.storage.size).filterMap t.occupant := by
  have hcells : (List.finRange t.storage.size).map (fun k => t.storage[k]) = t.storage.toList :=
    List.map_getElem_finRange t.storage.toList
  rw [members, ← hcells, List.filterMap_map]
  rfl

theorem mem_members_iff_occupant {t : Table cfg α} {x : α} :
    x ∈ t.members ↔ ∃ k, t.occupant k = some x := by
  rw [t.members_eq_filterMap, List.mem_filterMap]
  simp only [List.mem_finRange, true_and]

/-- No element is in two cells. -/
def Unrepeated (t : Table cfg α) : Prop :=
  ∀ j k x, t.occupant j = some x → t.occupant k = some x → j = k

theorem unrepeated_iff_nodup {t : Table cfg α} : t.Unrepeated ↔ t.members.Nodup := by
  rw [t.members_eq_filterMap]
  constructor
  · intro hunrepeated
    exact (List.nodup_finRange _).filterMap hunrepeated
  · intro hnodup
    -- of two cells with the same element, none can be the earlier one
    have happart : ∀ j k : Fin t.storage.size, j < k → ∀ x, t.occupant j = some x →
        t.occupant k ≠ some x := by
      intro j k hjk x hj hk
      have hpairs := List.pairwise_iff_getElem.1 (List.pairwise_filterMap.1 hnodup)
      exact hpairs j k (by simp) (by simp) hjk x (by simpa using hj) x (by simpa using hk) rfl
    intro j k x hj hk
    rcases lt_trichotomy j k with hlt | hsame | hlt
    · exact absurd hk (happart j k hlt x hj)
    · exact hsame
    · exact absurd hj (happart k j hlt x hk)

/-! ### Checks of cells -/

theorem checkNatural_isOk_iff {announced : Conflict → Bool} {entry : Entry α} :
    (checkNatural announced entry).isOk = true ↔ Announces entry announced := by
  rw [checkNatural, Announces]
  by_cases hvacant : entry.resident = none
  · simp [hvacant, Report.isOk_iff]
  · by_cases htag : announced entry.tag = true
    · simp [hvacant, htag]
    · simp [hvacant, htag, Report.isOk_iff]

variable [Coded α]

theorem passes_checkPlaced_iff {seed : Seed cfg.capacity} {k : Nat} {x : α} :
    Passes (checkPlaced seed k x) ↔ ∃ i, naturalSlot cfg.sizing x seed = .ok i ∧ i.val = k := by
  unfold checkPlaced
  cases hslot : naturalSlot cfg.sizing x seed with
  | error fault => simp
  | ok i =>
    by_cases hk : i.val = k
    · simp [hk]
    · simp [hk, Report.isOk_iff]

theorem passes_checkPrimaryLoss_iff {t : Table cfg α} {announced : Conflict → Bool} {x : α} :
    Passes (t.checkPrimaryLoss announced x) ↔
      ∃ i, naturalSlot cfg.sizing x t.primary = .ok i ∧ Announces (t.primaryCell i) announced := by
  unfold checkPrimaryLoss
  cases hslot : naturalSlot cfg.sizing x t.primary with
  | error fault => simp
  | ok i => simp [checkNatural_isOk_iff]

theorem passes_checkSecondaryLoss_iff {t : Table cfg α} {announced : Conflict → Bool} {x : α} :
    Passes (t.checkSecondaryLoss announced x) ↔
      ∃ j, naturalSlot cfg.sizing x t.secondary = .ok j ∧
        Announces (t.secondaryCell j) announced := by
  unfold checkSecondaryLoss
  cases hslot : naturalSlot cfg.sizing x t.secondary with
  | error fault => simp
  | ok j => simp [checkNatural_isOk_iff]

/-! ### Checks of zones -/

theorem forall_mem_zipIdx_ofFn {β : Type} {n : Nat} {cell : Fin n → β} {P : β × Nat → Prop} :
    (∀ c ∈ (List.ofFn cell).zipIdx, P c) ↔ ∀ i, P (cell i, i.val) := by
  constructor
  · intro h i
    apply h
    rw [List.mk_mem_zipIdx_iff_getElem?]
    simp
  · rintro h ⟨c, k⟩ hmem
    rw [List.mk_mem_zipIdx_iff_getElem?, List.getElem?_eq_some_iff] at hmem
    obtain ⟨hk, hc⟩ := hmem
    rw [List.getElem_ofFn] at hc
    exact hc ▸ h ⟨k, by simpa using hk⟩

theorem passes_primary_iff {t : Table cfg α} :
    Passes (Report.sumOver t.checkPrimaryCell t.primaryZone.zipIdx) ↔
      ∀ i x, (t.primaryCell i).resident = some x →
        naturalSlot cfg.sizing x t.primary = .ok i := by
  rw [passes_sumOver_iff, primaryZone_eq_ofFn, forall_mem_zipIdx_ofFn]
  apply forall_congr'
  intro i
  unfold checkPrimaryCell
  cases hres : (t.primaryCell i).resident with
  | none => simp
  | some x =>
    simp only [passes_checkPlaced_iff, Option.some.injEq, forall_eq']
    constructor
    · rintro ⟨k, hk, hval⟩
      rw [hk, Fin.ext hval]
    · intro hk
      exact ⟨i, hk, rfl⟩

theorem passes_secondary_iff {t : Table cfg α} :
    Passes (Report.sumOver t.checkSecondaryCell t.secondaryZone.zipIdx) ↔
      ∀ j x, (t.secondaryCell j).resident = some x →
        naturalSlot cfg.sizing x t.secondary = .ok j ∧
          ∃ i, naturalSlot cfg.sizing x t.primary = .ok i ∧
            Announces (t.primaryCell i) Conflict.secondary := by
  rw [passes_sumOver_iff, secondaryZone_eq_ofFn, forall_mem_zipIdx_ofFn]
  apply forall_congr'
  intro j
  unfold checkSecondaryCell
  cases hres : (t.secondaryCell j).resident with
  | none => simp
  | some x =>
    simp only [passes_both_iff, passes_checkPlaced_iff, passes_checkPrimaryLoss_iff,
      Option.some.injEq, forall_eq']
    constructor
    · rintro ⟨⟨k, hk, hval⟩, hloss⟩
      exact ⟨by rw [hk, Fin.ext hval], hloss⟩
    · rintro ⟨hk, hloss⟩
      exact ⟨⟨j, hk, rfl⟩, hloss⟩

theorem passes_tail_iff {t : Table cfg α} :
    Passes (Report.sumOver t.checkTailCell t.tailZone) ↔
      ∀ x ∈ t.tailZone.filterMap Entry.resident,
        (t.primary.size ≠ 0 → ∃ i, naturalSlot cfg.sizing x t.primary = .ok i ∧
          Announces (t.primaryCell i) Conflict.tail) ∧
        (t.secondary.size ≠ 0 → ∃ j, naturalSlot cfg.sizing x t.secondary = .ok j ∧
          Announces (t.secondaryCell j) Conflict.tail) := by
  rw [passes_sumOver_iff]
  have hcell : ∀ cell : Entry α, Passes (t.checkTailCell cell) ↔
      ∀ x, cell.resident = some x →
        (t.primary.size ≠ 0 → ∃ i, naturalSlot cfg.sizing x t.primary = .ok i ∧
          Announces (t.primaryCell i) Conflict.tail) ∧
        (t.secondary.size ≠ 0 → ∃ j, naturalSlot cfg.sizing x t.secondary = .ok j ∧
          Announces (t.secondaryCell j) Conflict.tail) := by
    intro cell
    unfold checkTailCell
    cases hres : cell.resident with
    | none => simp
    | some x =>
      simp only [passes_both_iff, Option.some.injEq, forall_eq']
      refine and_congr ?_ ?_
      · by_cases hzero : t.primary.size = 0
        · simp [hzero]
        · simp [hzero, passes_checkPrimaryLoss_iff]
      · by_cases hzero : t.secondary.size = 0
        · simp [hzero]
        · simp [hzero, passes_checkSecondaryLoss_iff]
  constructor
  · intro h x hx
    obtain ⟨cell, hmem, hres⟩ := List.mem_filterMap.1 hx
    exact (hcell cell).1 (h cell hmem) x hres
  · intro h cell hmem
    exact (hcell cell).2 fun x hres => h x (List.mem_filterMap.2 ⟨cell, hmem, hres⟩)

/-- The checks of the zones together decide coherence. -/
theorem passes_layout_iff {t : Table cfg α} :
    (Passes (Report.sumOver t.checkPrimaryCell t.primaryZone.zipIdx) ∧
      Passes (Report.sumOver t.checkSecondaryCell t.secondaryZone.zipIdx) ∧
      Passes (Report.sumOver t.checkTailCell t.tailZone)) ↔ t.Coherent := by
  rw [passes_primary_iff, passes_secondary_iff, passes_tail_iff]
  constructor
  · rintro ⟨hprimary, hsecondary, htail⟩
    refine ⟨hprimary, ?_, ?_, ?_, ?_⟩
    · intro j x hx
      exact (hsecondary j x hx).1
    · intro j x hx
      exact (hsecondary j x hx).2
    · intro hne x hx
      exact (htail x hx).1 hne
    · intro hne x hx
      exact (htail x hx).2 hne
  · intro hco
    refine ⟨hco.primary_home, ?_, ?_⟩
    · intro j x hx
      exact ⟨hco.secondary_home j x hx, hco.secondary_announced j x hx⟩
    · intro x hx
      exact ⟨fun hne => hco.tail_announced hne x hx, fun hne => hco.tail_announced_twice hne x hx⟩

/-! ### The whole table -/

variable [DecidableEq α]

theorem passes_found_iff {t : Table cfg α} :
    Passes (Report.sumOver t.checkFound t.members) ↔ ∀ x ∈ t.members, t.contains x = .ok true := by
  rw [passes_sumOver_iff]
  apply forall₂_congr
  intro x hx
  unfold checkFound
  cases hfound : t.contains x with
  | error fault => simp
  | ok found => cases found <;> simp [Report.isOk_iff]

/-- Verification ends without a defect on the coherent tables that repeat nothing. -/
theorem verify_passes_iff {t : Table cfg α} (hseeds : t.Composed) :
    Passes t.verify ↔ t.Coherent ∧ t.members.Nodup := by
  have hrepeats : Passes (.ok { duplicates := repeats t.members }) ↔ t.members.Nodup := by
    rw [passes_ok, Report.isOk_iff, ← repeats_eq_zero_iff]
    simp
  rw [verify, passes_both_iff, passes_both_iff, passes_both_iff, passes_both_iff, hrepeats,
    passes_found_iff, ← passes_layout_iff]
  constructor
  · rintro ⟨hprimary, hsecondary, htail, hnodup, -⟩
    exact ⟨⟨hprimary, hsecondary, htail⟩, hnodup⟩
  · rintro ⟨⟨hprimary, hsecondary, htail⟩, hnodup⟩
    have hco : t.Coherent := passes_layout_iff.1 ⟨hprimary, hsecondary, htail⟩
    refine ⟨hprimary, hsecondary, htail, hnodup, ?_⟩
    intro x hx
    rw [contains_eq_scan_of_coherent hseeds hco, scan_iff.2 hx]

end Table

end Supertypes
