/-
  Supertypes/Proofs/Inventory.lean
  ================================
  **What the report on a class counts.**

  The report on a class compares the cells of its table with the supertypes that the
  hierarchy asks for.  The counts are taken over different collections: missing supertypes
  over the candidates, unexpected ones over the stored elements, and repetitions over what
  follows in the list of these.  Here all of them are sizes of sets, of classes or of cells
  (`Registry.Inventory`), whatever table the class was given.

  Together the counts leave no choice.  If nothing is counted then each of the expected
  supertypes has one cell and no other cell is occupied (`Table.StoresExactly`).
-/
import Supertypes.Proofs.Contents
import Supertypes.Proofs.Reports

namespace Supertypes

/-! ### Counting in lists -/

theorem countP_eq_ncard {α : Type} {xs : List α} (hnodup : xs.Nodup) (p : α → Bool) :
    xs.countP p = Set.ncard {x | x ∈ xs ∧ p x = true} := by
  classical
  have hset : {x | x ∈ xs ∧ p x = true} = {x | x ∈ xs.filter p} := by
    simp only [List.mem_filter]
  rw [hset, ← List.coe_toFinset, Set.ncard_coe_finset,
    List.toFinset_card_of_nodup (hnodup.filter p), List.countP_eq_length_filter]

/-- Of equal items all but the last occur again. -/
theorem repeats_add_card {α : Type} [DecidableEq α] (xs : List α) :
    repeats xs + xs.toFinset.card = xs.length := by
  induction xs with
  | nil => rfl
  | cons x xs ih =>
    rw [repeats, List.toFinset_cons, List.length_cons, ← ih]
    by_cases hx : x ∈ xs
    · rw [if_pos hx, Finset.insert_eq_of_mem (List.mem_toFinset.2 hx)]
      omega
    · rw [if_neg hx, Finset.card_insert_of_notMem fun hmem => hx (List.mem_toFinset.1 hmem)]
      omega

/-! ### Counting cells -/

namespace Table

variable {cfg : Config} {α : Type}

/-- Stored elements are counted by the cells that they occupy. -/
theorem countP_members (t : Table cfg α) (p : α → Bool) :
    t.members.countP p = Set.ncard {k | ∃ x, t.occupant k = some x ∧ p x = true} := by
  rw [t.members_eq_filterMap, List.countP_filterMap, countP_eq_ncard (List.nodup_finRange _)]
  congr 1
  ext k
  rw [Set.mem_ofPred_eq, Set.mem_ofPred_eq]
  cases t.occupant k with
  | none => simp
  | some x => simp

theorem length_members (t : Table cfg α) :
    t.members.length = Set.ncard {k | ∃ x, t.occupant k = some x} := by
  rw [← List.countP_true, t.countP_members]
  simp only [and_true]

variable [DecidableEq α]

theorem count_members (t : Table cfg α) (x : α) :
    t.members.count x = Set.ncard {k | t.occupant k = some x} := by
  rw [List.count, t.countP_members]
  simp only [beq_iff_eq, exists_eq_right]

theorem existsUnique_occupant_iff {t : Table cfg α} {x : α} :
    (∃! k, t.occupant k = some x) ↔ t.members.count x = 1 := by
  rw [count_members, Set.ncard_eq_one]
  constructor
  · rintro ⟨k, hk, hunique⟩
    refine ⟨k, Set.eq_singleton_iff_unique_mem.2 ⟨hk, hunique⟩⟩
  · rintro ⟨k, hk⟩
    obtain ⟨hmem, hunique⟩ := Set.eq_singleton_iff_unique_mem.1 hk
    exact ⟨k, hmem, hunique⟩

omit [DecidableEq α] in
/-- The elements of a sort have one cell each, and there is nothing else in the table. -/
structure StoresExactly (t : Table cfg α) (sort : α → Prop) : Prop where
  one_cell : ∀ x, sort x → ∃! k, t.occupant k = some x
  nothing_else : ∀ k x, t.occupant k = some x → sort x

theorem storesExactly_iff {t : Table cfg α} {sort : α → Prop} :
    t.StoresExactly sort ↔ t.members.Nodup ∧ ∀ x, x ∈ t.members ↔ sort x := by
  constructor
  · intro hexact
    have hsort : ∀ x, x ∈ t.members ↔ sort x := by
      intro x
      rw [mem_members_iff_occupant]
      constructor
      · rintro ⟨k, hk⟩
        exact hexact.nothing_else k x hk
      · intro hx
        exact (hexact.one_cell x hx).exists
    refine ⟨List.nodup_iff_count_le_one.2 ?_, hsort⟩
    intro x
    by_cases hx : sort x
    · exact Nat.le_of_eq (existsUnique_occupant_iff.1 (hexact.one_cell x hx))
    · rw [List.count_eq_zero_of_not_mem fun hmem => hx ((hsort x).1 hmem)]
      exact Nat.zero_le 1
  · rintro ⟨hnodup, hsort⟩
    constructor
    · intro x hx
      exact existsUnique_occupant_iff.2 (List.count_eq_one_of_mem hnodup ((hsort x).2 hx))
    · intro k x hk
      exact (hsort x).1 (mem_members_iff_occupant.2 ⟨k, hk⟩)

/-- Repetitions make up the difference between occupied cells and distinct elements. -/
theorem repeats_members_add (t : Table cfg α) :
    repeats t.members + Set.ncard {x | ∃ k, t.occupant k = some x} =
      Set.ncard {k | ∃ x, t.occupant k = some x} := by
  have hset : {x | ∃ k, t.occupant k = some x} = {x | x ∈ t.members} := by
    simp only [mem_members_iff_occupant]
  rw [hset, ← List.coe_toFinset, Set.ncard_coe_finset, repeats_add_card, length_members]

end Table

/-! ### Secondary supertypes -/

/-- A superclass that overflows the primary array, or an interface. -/
def Hierarchy.IsSecondary {cfg : Config} (h : Hierarchy cfg) (r s : Nat) : Prop :=
  h.Extends r s ∧ cfg.primaryLimit ≤ (h.descriptor s).depth ∨
    (h.descriptor s).kind = .interface ∧ h.Reaches r s ∧ s ≠ r

namespace Registry

variable {cfg : Config} {reg : Registry cfg} {r : Nat} {t : Table cfg Member}

/-- The member of a class that the table of another has to hold. -/
def IsExpected (reg : Registry cfg) (r : Nat) (x : Member) : Prop :=
  ∃ s, reg.hierarchy.IsSecondary r s ∧ x = reg.member s

section

variable (hdecl : reg.hierarchy.Declared) (hids : reg.hierarchy.Identified) (hr : r < reg.size)
include hdecl hids hr

theorem mem_expected_iff {x : Member} : x ∈ reg.expected r ↔ reg.IsExpected r x := by
  constructor
  · intro hx
    have heq := eq_member_of_mem_expected hx
    rw [heq] at hx
    exact ⟨x.ref, (member_mem_expected_iff_secondary hdecl hids hr).1 hx, heq⟩
  · rintro ⟨s, hs, rfl⟩
    exact (member_mem_expected_iff_secondary hdecl hids hr).2 hs

theorem missing_compareContents (t : Table cfg Member) :
    (compareContents (reg.expected r) t).missing =
      Set.ncard {s | reg.hierarchy.IsSecondary r s ∧ ∀ k, t.occupant k ≠ some (reg.member s)} := by
  change (reg.expected r).countP (fun x => !t.scan x) = _
  rw [expected_eq, List.countP_map, countP_eq_ncard (Hierarchy.nodup_candidates hdecl hr)]
  congr 1
  ext s
  have habsent : (!t.scan (reg.member s)) = true ↔ ∀ k, t.occupant k ≠ some (reg.member s) := by
    rw [Bool.not_eq_true', ← Bool.not_eq_true, Table.scan_iff, Table.mem_members_iff_occupant,
      not_exists]
  rw [Set.mem_ofPred_eq, Set.mem_ofPred_eq, ← member_mem_expected_iff,
    member_mem_expected_iff_secondary hdecl hids hr]
  exact and_congr_right fun _ => habsent

theorem unexpected_compareContents (t : Table cfg Member) :
    (compareContents (reg.expected r) t).unexpected =
      Set.ncard {k | ∃ x, t.occupant k = some x ∧ ¬ reg.IsExpected r x} := by
  change t.members.countP (fun x => !(reg.expected r).contains x) = _
  rw [t.countP_members]
  congr 1
  ext k
  simp only [Set.mem_ofPred_eq, Bool.not_eq_true', ← Bool.not_eq_true, List.contains_iff_mem,
    mem_expected_iff hdecl hids hr]

/-- Nothing is missing or unexpected if the table stores what is expected, however often. -/
theorem compareContents_clean_iff : (compareContents (reg.expected r) t).missing = 0 ∧
    (compareContents (reg.expected r) t).unexpected = 0 ↔
      ∀ x, x ∈ t.members ↔ reg.IsExpected r x := by
  have hmissing : (compareContents (reg.expected r) t).missing = 0 ↔
      ∀ x ∈ reg.expected r, x ∈ t.members := by
    change (reg.expected r).countP (fun x => !t.scan x) = 0 ↔ _
    simp only [List.countP_eq_zero, Bool.not_eq_true', Bool.not_eq_false, Table.scan_iff]
  have hunexpected : (compareContents (reg.expected r) t).unexpected = 0 ↔
      ∀ x ∈ t.members, x ∈ reg.expected r := by
    change t.members.countP (fun x => !(reg.expected r).contains x) = 0 ↔ _
    simp only [List.countP_eq_zero, Bool.not_eq_true', Bool.not_eq_false, List.contains_iff_mem]
  rw [hmissing, hunexpected]
  simp only [mem_expected_iff hdecl hids hr]
  constructor
  · rintro ⟨hstored, hasked⟩ x
    exact ⟨hasked x, hstored x⟩
  · intro hiff
    exact ⟨fun x hx => (hiff x).2 hx, fun x hx => (hiff x).1 hx⟩

end

/-! ### The report on a class -/

/-- What a report counts on the table of a class: expected classes without a cell, cells with
    anything else, and cells beyond the first of what they hold. -/
structure Inventory (reg : Registry cfg) (r : Nat) (t : Table cfg Member) (report : Report) :
    Prop where
  missing : report.missing =
    Set.ncard {s | reg.hierarchy.IsSecondary r s ∧ ∀ k, t.occupant k ≠ some (reg.member s)}
  unexpected : report.unexpected =
    Set.ncard {k | ∃ x, t.occupant k = some x ∧ ¬ reg.IsExpected r x}
  duplicates : report.duplicates + Set.ncard {x | ∃ k, t.occupant k = some x} =
    Set.ncard {k | ∃ x, t.occupant k = some x}
  clean_iff : report.missing = 0 ∧ report.unexpected = 0 ∧ report.duplicates = 0 ↔
    t.StoresExactly (reg.IsExpected r)

/-- The report on the table itself adds nothing to what is missing or unexpected. -/
theorem inventory_of_parts (hdecl : reg.hierarchy.Declared) (hids : reg.hierarchy.Identified)
    (hr : r < reg.size) {layout found : Report} (hlayout : layout.LayoutOnly)
    (hfound : found.LookupOnly) :
    Inventory reg r t
      (layout + ({ duplicates := repeats t.members } + found) +
        compareContents (reg.expected r) t) := by
  let report := layout + ({ duplicates := repeats t.members } + found) +
    compareContents (reg.expected r) t
  have hmissing : report.missing = (compareContents (reg.expected r) t).missing := by
    change layout.missing + (0 + found.missing) + _ = _
    rw [hlayout.missing, hfound.missing, Nat.zero_add]
  have hunexpected : report.unexpected = (compareContents (reg.expected r) t).unexpected := by
    change layout.unexpected + (0 + found.unexpected) + _ = _
    rw [hlayout.unexpected, hfound.unexpected, Nat.zero_add]
  have hduplicates : report.duplicates = repeats t.members := by
    change layout.duplicates + (repeats t.members + found.duplicates) + 0 = _
    rw [hlayout.duplicates, hfound.duplicates, Nat.zero_add]
    rfl
  constructor
  · exact hmissing.trans (missing_compareContents hdecl hids hr t)
  · exact hunexpected.trans (unexpected_compareContents hdecl hids hr t)
  · exact (congrArg (· + _) hduplicates).trans t.repeats_members_add
  · change report.missing = 0 ∧ report.unexpected = 0 ∧ report.duplicates = 0 ↔ _
    rw [hmissing, hunexpected, hduplicates, ← and_assoc,
      compareContents_clean_iff hdecl hids hr, repeats_eq_zero_iff, Table.storesExactly_iff,
      and_comm]

/-- Only the hierarchy says what a table has to hold, so the table may be in any registry on it. -/
theorem verify_of_table? {holder : Registry cfg} (hsame : holder.hierarchy = reg.hierarchy)
    (htable : holder.table? r = some t) :
    holder.verify r = t.verify.map fun report => report + compareContents (reg.expected r) t := by
  simp only [verify, htable, expected_of_hierarchy_eq hsame]
  cases t.verify with
  | error fault => rfl
  | ok report => rfl

/-- Without a table everything that it would hold is missing.  A table, whatever is in its
    cells, gets a report with exact counts of what is missing, unexpected and stored again,
    and these are all zero exactly if the table stores each expected class in one cell and
    nothing else. -/
theorem verify_counts {alloc : Allocator} {holder : Registry cfg} (huse : InUse reg alloc)
    (hsame : holder.hierarchy = reg.hierarchy) (r : Fin reg.size) :
    (holder.table? r = none → holder.verify r = .ok
        { missing := Set.ncard {s | (reg.hierarchy.descriptor s).kind = .interface ∧
            reg.hierarchy.Reaches r s ∧ s ≠ r} +
              ((reg.hierarchy.descriptor r).depth - cfg.primaryLimit) }) ∧
      ∀ (primary secondary : Seed cfg.capacity) (storage : Array (Entry Member))
        (t : Table cfg Member), Table.ofParts primary secondary storage = .ok t →
        primary.Composed cfg.sizing → secondary.Composed cfg.sizing →
        holder.table? r = some t →
          ∃ report, holder.verify r = .ok report ∧ Inventory reg r t report := by
  have hs := sound_of_inUse huse
  have hdecl : reg.hierarchy.Declared := hs.declared
  have hids : reg.hierarchy.Identified := hs.identified
  constructor
  · intro hnone
    unfold verify
    rw [hnone, expected_of_hierarchy_eq hsame, ncard_interfaces hdecl hids r.isLt,
      ← length_expected hdecl hids r.isLt]
  · intro primary secondary storage t hparts hprimary hsecondary htable
    obtain ⟨rfl, rfl, -⟩ := Table.ofParts_eq_ok_iff.1 hparts
    obtain ⟨layout, found, hverify, hlayout, hfound, -, -⟩ :=
      Table.verify_eq (t := t) ⟨hprimary, hsecondary⟩
    refine ⟨_, ?_, inventory_of_parts hdecl hids r.isLt hlayout hfound⟩
    exact (verify_of_table? hsame htable).trans (congrArg _ hverify)

/-- A tail with one interface twice, a superclass that does not overflow, a gap, and one that
    does overflow. -/
def mislaid : Table cramped Member where
  primary := .empty
  secondary := .empty
  storage :=
    #[{ resident := some (dialog.1.member 0) }, { resident := some (dialog.1.member 0) },
      { resident := some (dialog.1.member 5) }, {}, { resident := some (dialog.1.member 6) }]
  zones_fit := (by decide : 0 + 0 ≤ 5)
  secondary_needs_primary := Or.inr rfl

theorem verify_counts_mislaid : ∃ holder : Registry cramped, holder.table? 7 = some mislaid ∧
    holder.verify 7 = .ok { missing := 4, unexpected := 1, duplicates := 1 } ∧
    Set.ncard {s | dialog.1.hierarchy.IsSecondary 7 s ∧
      ∀ k, mislaid.occupant k ≠ some (dialog.1.member s)} = 4 ∧
    ¬ mislaid.StoresExactly (dialog.1.IsExpected 7) := by
  have hlast : 7 < dialog.1.size := by decide +kernel
  have hcell : dialog.1.cell 7 = .unset := isSet_eq_false_iff.1 (by decide +kernel)
  obtain ⟨holder, hinstall⟩ := exists_install hcell mislaid
  have hsame := hierarchy_of_install hinstall
  have htable := table?_of_install hinstall hlast
  have hcounts : holder.verify 7 = .ok { missing := 4, unexpected := 1, duplicates := 1 } := by
    rw [verify_of_table? hsame htable]
    decide +kernel
  obtain ⟨-, hreport⟩ := verify_counts inUse_dialog hsame ⟨7, hlast⟩
  obtain ⟨report, hverify, hinventory⟩ := hreport .empty .empty mislaid.storage mislaid rfl
    (Seed.Composed.empty _) (Seed.Composed.empty _) htable
  cases hcounts.symm.trans hverify
  refine ⟨holder, htable, hcounts, hinventory.missing.symm, ?_⟩
  rw [← hinventory.clean_iff]
  decide

end Registry

end Supertypes
