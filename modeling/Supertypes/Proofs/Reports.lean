/-
  Supertypes/Proofs/Reports.lean
  ==============================
  **What the counts of a report say.**

  With fit seeds every table gets a report, whatever its cells and tags are, because every
  stored element has a natural slot in each zone that exists (`verify_eq`).  The report has
  parts that do not mix: the checks of the zones count misplaced, placeable and untagged
  elements, the lookups count unreachable ones, and repeated elements are counted apart.

  So the counts can be read one by one.  If the first three are zero the table is coherent,
  and then no lookup fails: an unreachable element never comes without another defect.  If
  all are zero, lookups answer as scans do for every element there is
  (`verify_sound_complete`).
-/
import Supertypes.Proofs.Verification

namespace Supertypes

namespace Report

/-! ### Parts of a report -/

theorem add_assoc (r s u : Report) : r + s + u = r + (s + u) := by
  simp only [add_def, add, Nat.add_assoc]

/-- Nothing is counted but defects of the layout. -/
structure LayoutOnly (r : Report) : Prop where
  unreachable : r.unreachable = 0
  duplicates : r.duplicates = 0
  missing : r.missing = 0
  unexpected : r.unexpected = 0

/-- Nothing is counted but elements that a lookup does not find. -/
structure LookupOnly (r : Report) : Prop where
  misplaced : r.misplaced = 0
  placeable : r.placeable = 0
  untagged : r.untagged = 0
  duplicates : r.duplicates = 0
  missing : r.missing = 0
  unexpected : r.unexpected = 0

theorem LayoutOnly.clean : LayoutOnly .clean := ⟨rfl, rfl, rfl, rfl⟩

theorem LookupOnly.clean : LookupOnly .clean := ⟨rfl, rfl, rfl, rfl, rfl, rfl⟩

theorem LayoutOnly.add {r s : Report} (hr : r.LayoutOnly) (hs : s.LayoutOnly) :
    (r + s).LayoutOnly := by
  refine ⟨?_, ?_, ?_, ?_⟩
  · exact Nat.add_eq_zero_iff.2 ⟨hr.unreachable, hs.unreachable⟩
  · exact Nat.add_eq_zero_iff.2 ⟨hr.duplicates, hs.duplicates⟩
  · exact Nat.add_eq_zero_iff.2 ⟨hr.missing, hs.missing⟩
  · exact Nat.add_eq_zero_iff.2 ⟨hr.unexpected, hs.unexpected⟩

theorem LookupOnly.add {r s : Report} (hr : r.LookupOnly) (hs : s.LookupOnly) :
    (r + s).LookupOnly := by
  refine ⟨?_, ?_, ?_, ?_, ?_, ?_⟩
  · exact Nat.add_eq_zero_iff.2 ⟨hr.misplaced, hs.misplaced⟩
  · exact Nat.add_eq_zero_iff.2 ⟨hr.placeable, hs.placeable⟩
  · exact Nat.add_eq_zero_iff.2 ⟨hr.untagged, hs.untagged⟩
  · exact Nat.add_eq_zero_iff.2 ⟨hr.duplicates, hs.duplicates⟩
  · exact Nat.add_eq_zero_iff.2 ⟨hr.missing, hs.missing⟩
  · exact Nat.add_eq_zero_iff.2 ⟨hr.unexpected, hs.unexpected⟩

theorem LayoutOnly.isOk_iff {r : Report} (hr : r.LayoutOnly) :
    r.isOk = true ↔ r.misplaced = 0 ∧ r.placeable = 0 ∧ r.untagged = 0 := by
  rw [Report.isOk_iff]
  simp only [hr.unreachable, hr.duplicates, hr.missing, hr.unexpected, and_true]

theorem LookupOnly.isOk_iff {r : Report} (hr : r.LookupOnly) :
    r.isOk = true ↔ r.unreachable = 0 := by
  rw [Report.isOk_iff]
  simp only [hr.misplaced, hr.placeable, hr.untagged, hr.duplicates, hr.missing, hr.unexpected,
    true_and, and_true]

/-- Checks that all come to reports of one kind come to a sum of that kind. -/
theorem exists_sumOver {α : Type} {P : Report → Prop} {check : α → Except Fault Report}
    {xs : List α} (hclean : P .clean) (hadd : ∀ {r s}, P r → P s → P (r + s))
    (hcheck : ∀ x ∈ xs, ∃ r, check x = .ok r ∧ P r) :
    ∃ report, sumOver check xs = .ok report ∧ P report := by
  induction xs with
  | nil => exact ⟨_, rfl, hclean⟩
  | cons x xs ih =>
    rw [List.forall_mem_cons] at hcheck
    obtain ⟨⟨r, hx, hr⟩, hrest⟩ := hcheck
    obtain ⟨s, hxs, hs⟩ := ih hrest
    refine ⟨r + s, ?_, hadd hr hs⟩
    simp only [sumOver, hx, hxs]

end Report

namespace Table

variable {cfg : Config} {α : Type}

theorem both_of_ok {first second : Except Fault Report} {r s : Report} (hfirst : first = .ok r)
    (hsecond : second = .ok s) : both first second = .ok (r + s) := by
  subst hfirst hsecond
  rfl

theorem layoutOnly_checkNatural (announced : Conflict → Bool) (entry : Entry α) :
    (checkNatural announced entry).LayoutOnly := by
  unfold checkNatural
  split
  · exact ⟨rfl, rfl, rfl, rfl⟩
  · split
    · exact .clean
    · exact ⟨rfl, rfl, rfl, rfl⟩

theorem ofParts_eq_ok_iff {primary secondary : Seed cfg.capacity} {storage : Array (Entry α)}
    {t : Table cfg α} : ofParts primary secondary storage = .ok t ↔
      t.primary = primary ∧ t.secondary = secondary ∧ t.storage = storage := by
  constructor
  · intro hparts
    unfold ofParts at hparts
    split at hparts
    · split at hparts
      · cases hparts
        exact ⟨rfl, rfl, rfl⟩
      · cases hparts
    · cases hparts
  · rintro ⟨rfl, rfl, rfl⟩
    rw [ofParts, dif_pos t.zones_fit, dif_pos t.secondary_needs_primary]

theorem primary_size_ne_zero_of_mem {t : Table cfg α} {entry : Entry α}
    (hentry : entry ∈ t.primaryZone) : t.primary.size ≠ 0 := by
  rw [primaryZone_eq_ofFn] at hentry
  obtain ⟨i, -⟩ := List.mem_ofFn.1 hentry
  exact Nat.ne_of_gt i.pos

theorem secondary_size_ne_zero_of_mem {t : Table cfg α} {entry : Entry α}
    (hentry : entry ∈ t.secondaryZone) : t.secondary.size ≠ 0 := by
  rw [secondaryZone_eq_ofFn] at hentry
  obtain ⟨j, -⟩ := List.mem_ofFn.1 hentry
  exact Nat.ne_of_gt j.pos

variable [Coded α]

/-! ### Every check comes to a report -/

theorem exists_checkPlaced {seed : Seed cfg.capacity} (hseed : seed.Composed cfg.sizing)
    (hne : seed.size ≠ 0) (k : Nat) (x : α) :
    ∃ r, checkPlaced seed k x = .ok r ∧ r.LayoutOnly := by
  unfold checkPlaced
  rw [naturalSlot_eq_ok hseed hne]
  refine ⟨_, rfl, ?_⟩
  split
  · exact .clean
  · exact ⟨rfl, rfl, rfl, rfl⟩

section

variable {t : Table cfg α} (hseeds : t.Composed)
include hseeds

theorem exists_checkPrimaryLoss (hne : t.primary.size ≠ 0) (announced : Conflict → Bool) (x : α) :
    ∃ r, t.checkPrimaryLoss announced x = .ok r ∧ r.LayoutOnly := by
  unfold checkPrimaryLoss
  rw [naturalSlot_eq_ok hseeds.1 hne]
  exact ⟨_, rfl, layoutOnly_checkNatural _ _⟩

theorem exists_checkSecondaryLoss (hne : t.secondary.size ≠ 0) (announced : Conflict → Bool)
    (x : α) : ∃ r, t.checkSecondaryLoss announced x = .ok r ∧ r.LayoutOnly := by
  unfold checkSecondaryLoss
  rw [naturalSlot_eq_ok hseeds.2 hne]
  exact ⟨_, rfl, layoutOnly_checkNatural _ _⟩

theorem exists_primary_report :
    ∃ r, Report.sumOver t.checkPrimaryCell t.primaryZone.zipIdx = .ok r ∧ r.LayoutOnly := by
  apply Report.exists_sumOver .clean Report.LayoutOnly.add
  rintro ⟨entry, k⟩ hmem
  have hne := primary_size_ne_zero_of_mem (List.fst_mem_of_mem_zipIdx hmem)
  unfold checkPrimaryCell
  cases entry.resident with
  | none => exact ⟨_, rfl, .clean⟩
  | some x => exact exists_checkPlaced hseeds.1 hne k x

theorem exists_secondary_report :
    ∃ r, Report.sumOver t.checkSecondaryCell t.secondaryZone.zipIdx = .ok r ∧ r.LayoutOnly := by
  apply Report.exists_sumOver .clean Report.LayoutOnly.add
  rintro ⟨entry, k⟩ hmem
  have hne := secondary_size_ne_zero_of_mem (List.fst_mem_of_mem_zipIdx hmem)
  -- a secondary zone stands next to a primary zone only
  have hprimary : t.primary.size ≠ 0 := t.secondary_needs_primary.resolve_right hne
  unfold checkSecondaryCell
  cases entry.resident with
  | none => exact ⟨_, rfl, .clean⟩
  | some x =>
    obtain ⟨r, hplaced, hr⟩ := exists_checkPlaced hseeds.2 hne k x
    obtain ⟨s, hloss, hs⟩ := exists_checkPrimaryLoss hseeds hprimary Conflict.secondary x
    exact ⟨r + s, both_of_ok hplaced hloss, hr.add hs⟩

theorem exists_tail_report :
    ∃ r, Report.sumOver t.checkTailCell t.tailZone = .ok r ∧ r.LayoutOnly := by
  apply Report.exists_sumOver .clean Report.LayoutOnly.add
  intro entry _
  unfold checkTailCell
  cases entry.resident with
  | none => exact ⟨_, rfl, .clean⟩
  | some x =>
    have hprimary : ∃ r, (if t.primary.size = 0 then .ok .clean
        else t.checkPrimaryLoss Conflict.tail x) = .ok r ∧ r.LayoutOnly := by
      split
      · exact ⟨_, rfl, .clean⟩
      · rename_i hne
        exact exists_checkPrimaryLoss hseeds hne Conflict.tail x
    have hsecondary : ∃ r, (if t.secondary.size = 0 then .ok .clean
        else t.checkSecondaryLoss Conflict.tail x) = .ok r ∧ r.LayoutOnly := by
      split
      · exact ⟨_, rfl, .clean⟩
      · rename_i hne
        exact exists_checkSecondaryLoss hseeds hne Conflict.tail x
    obtain ⟨r, hfirst, hr⟩ := hprimary
    obtain ⟨s, hsecond, hs⟩ := hsecondary
    exact ⟨r + s, both_of_ok hfirst hsecond, hr.add hs⟩

variable [DecidableEq α]

/-- A lookup comes to an answer in any table, right or wrong. -/
theorem exists_contains (x : α) : ∃ found, t.contains x = .ok found := by
  unfold contains
  by_cases hzero : t.primary.size = 0
  · exact ⟨_, if_pos hzero⟩
  rw [if_neg hzero, naturalSlot_eq_ok hseeds.1 hzero]
  by_cases hsingle : t.secondary.size = 0
  · simp only [hsingle, if_true]
    split_ifs <;> exact ⟨_, rfl⟩
  · simp only [hsingle, if_false, naturalSlot_eq_ok hseeds.2 hsingle]
    split_ifs <;> exact ⟨_, rfl⟩

theorem exists_found_report :
    ∃ r, Report.sumOver t.checkFound t.members = .ok r ∧ r.LookupOnly := by
  apply Report.exists_sumOver .clean Report.LookupOnly.add
  intro x _
  obtain ⟨found, hfound⟩ := exists_contains hseeds x
  unfold checkFound
  rw [hfound]
  cases found with
  | true => exact ⟨_, rfl, .clean⟩
  | false => exact ⟨_, rfl, rfl, rfl, rfl, rfl, rfl, rfl⟩

/-! ### The report of a table -/

/-- The report is the sum of what the layout, the repetitions and the lookups come to. -/
theorem verify_eq : ∃ layout found : Report,
    t.verify = .ok (layout + ({ duplicates := repeats t.members } + found)) ∧
      layout.LayoutOnly ∧ found.LookupOnly ∧ (layout.isOk = true ↔ t.Coherent) ∧
      (found.isOk = true ↔ ∀ x ∈ t.members, t.contains x = .ok true) := by
  obtain ⟨p, hp, hponly⟩ := exists_primary_report hseeds
  obtain ⟨s, hs, hsonly⟩ := exists_secondary_report hseeds
  obtain ⟨l, hl, hlonly⟩ := exists_tail_report hseeds
  obtain ⟨f, hf, hfonly⟩ := exists_found_report hseeds
  refine ⟨p + (s + l), f, ?_, hponly.add (hsonly.add hlonly), hfonly, ?_, ?_⟩
  · rw [Report.add_assoc, Report.add_assoc]
    exact both_of_ok hp (both_of_ok hs (both_of_ok hl (both_of_ok rfl hf)))
  · rw [← passes_layout_iff, hp, hs, hl, passes_ok, passes_ok, passes_ok, Report.isOk_add,
      Report.isOk_add, Bool.and_eq_true, Bool.and_eq_true]
  · rw [← passes_found_iff, hf, passes_ok]

end

/-- Verification comes to a report on every table that can be put together with fit seeds,
    and the report is clean exactly if the table is coherent and no element is in two cells.  The
    counts of misplaced, placeable and untagged elements alone tell whether everything is
    reachable, and if there is no defect at all then a lookup answers as a scan does. -/
theorem verify_sound_complete [DecidableEq α] {primary secondary : Seed cfg.capacity}
    {storage : Array (Entry α)} {t : Table cfg α}
    (hparts : ofParts primary secondary storage = .ok t)
    (hprimary : primary.Composed cfg.sizing) (hsecondary : secondary.Composed cfg.sizing) :
    ∃ report, t.verify = .ok report ∧
      (report.isOk = true ↔ t.Coherent ∧ t.Unrepeated) ∧
      (report.misplaced = 0 → report.placeable = 0 → report.untagged = 0 →
        report.unreachable = 0) ∧
      (report.isOk = true → ∀ x : α, t.contains x = .ok (t.scan x)) := by
  obtain ⟨rfl, rfl, -⟩ := ofParts_eq_ok_iff.1 hparts
  have hseeds : t.Composed := ⟨hprimary, hsecondary⟩
  obtain ⟨layout, found, hverify, hlayout, hfound, hcoherent, hreached⟩ := verify_eq hseeds
  have hiff : (layout + ({ duplicates := repeats t.members } + found)).isOk = true ↔
      t.Coherent ∧ t.Unrepeated := by
    rw [unrepeated_iff_nodup, ← verify_passes_iff hseeds, hverify, passes_ok]
  refine ⟨_, hverify, hiff, ?_, ?_⟩
  · intro hmisplaced hplaceable huntagged
    have hco : t.Coherent := by
      rw [← hcoherent, hlayout.isOk_iff]
      exact ⟨(Nat.add_eq_zero_iff.1 hmisplaced).1, (Nat.add_eq_zero_iff.1 hplaceable).1,
        (Nat.add_eq_zero_iff.1 huntagged).1⟩
    have hfoundOk : found.isOk = true := by
      rw [hreached]
      intro x hx
      rw [contains_eq_scan_of_coherent hseeds hco, scan_iff.2 hx]
    have hnone := hfound.isOk_iff.1 hfoundOk
    exact Nat.add_eq_zero_iff.2 ⟨hlayout.unreachable, Nat.add_eq_zero_iff.2 ⟨rfl, hnone⟩⟩
  · intro hok
    exact contains_eq_scan_of_coherent hseeds (hiff.1 hok).1

/-- Two slots and a tail; the element of the tail belongs in the first slot, which may or may
    not announce it.  The bits of the seed are size two, mask one and no salt. -/
def shelf (tag : Conflict) : Table {} UInt32 where
  primary := ⟨0x102⟩
  secondary := .empty
  storage := #[{ resident := some 0, tag }, { resident := some 2 }, { resident := some 1 }]
  zones_fit := (by decide : 2 + 0 ≤ 3)
  secondary_needs_primary := Or.inr rfl

theorem verify_shelf :
    (shelf { tail := true }).Coherent ∧ (shelf { tail := true }).Unrepeated ∧
      (∀ x : UInt32, (shelf { tail := true }).contains x = .ok ((shelf { tail := true }).scan x)) ∧
      ¬ ((shelf {}).Coherent ∧ (shelf {}).Unrepeated) := by
  have hcomposed : (⟨0x102⟩ : Seed default).Composed .powerOfTwo :=
    ⟨0, 2, rfl, Or.inr fun _ => ⟨1, rfl⟩⟩
  have hparts : ∀ tag, ofParts ⟨0x102⟩ .empty (shelf tag).storage = .ok (shelf tag) := fun _ => rfl
  have hclean : (shelf { tail := true }).verify = .ok .clean := by decide +kernel
  have hdefect : (shelf {}).verify = .ok { untagged := 1, unreachable := 1 } := by decide +kernel
  obtain ⟨report, hverify, hiff, -, hlookup⟩ :=
    verify_sound_complete (hparts { tail := true }) hcomposed (Seed.Composed.empty _)
  obtain ⟨report', hverify', hiff', -⟩ :=
    verify_sound_complete (hparts {}) hcomposed (Seed.Composed.empty _)
  cases hclean.symm.trans hverify
  cases hdefect.symm.trans hverify'
  obtain ⟨hcoherent, hunrepeated⟩ := hiff.1 Report.isOk_clean
  refine ⟨hcoherent, hunrepeated, hlookup Report.isOk_clean, ?_⟩
  rw [← hiff']
  decide

end Table

end Supertypes
