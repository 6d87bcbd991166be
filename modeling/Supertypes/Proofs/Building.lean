/-
  Supertypes/Proofs/Building.lean
  ===============================
  **Building and publishing a table.**

  Whatever `build` comes to has fit seeds, is coherent and holds the candidates of its
  class (`Table.Holds`), for any hierarchy, any source of seeds and any number of
  candidates.  So the short lookup in a table that was built is a scan of it.

  That `build` comes to a table needs more: the candidates must be distinct, which the
  declarations see to, and a slot counts what it displaced within 32 bits.  Then none of
  the steps on the way can fail, nor does the audit afterwards, since a coherent table
  without repetitions verifies.
-/
import Supertypes.Proofs.Arrangement
import Supertypes.Proofs.Supers
import Supertypes.Proofs.Verification
import Supertypes.Registry.Query
import Supertypes.Registry.Verify

namespace Supertypes

/-- The table is fit for lookups and holds the listed members. -/
structure Table.Holds {cfg : Config} (es : List Member) (t : Table cfg Member) : Prop where
  composed : t.Composed
  coherent : t.Coherent
  members_perm : t.members.Perm es

namespace Table.Holds

variable {cfg : Config} {es : List Member} {t : Table cfg Member} (ht : t.Holds es)
include ht

theorem contains_eq (x : Member) : t.contains x = .ok (t.scan x) :=
  contains_eq_scan_of_coherent ht.composed ht.coherent x

theorem scan_iff_mem {x : Member} : t.scan x = true ↔ x ∈ es := by
  rw [scan_iff, ht.members_perm.mem_iff]

theorem nodup_members (hnodup : es.Nodup) : t.members.Nodup :=
  ht.members_perm.nodup_iff.2 hnodup

/-- Verification finds no defect in a table that holds distinct members. -/
theorem passes_verify (hnodup : es.Nodup) : Passes t.verify :=
  (verify_passes_iff ht.composed).2 ⟨ht.coherent, ht.nodup_members hnodup⟩

end Table.Holds

namespace Registry

/-! ### A crowded hierarchy -/

/-- Zones of two slots at most, one superclass in the primary array, and lookups that are
    compared with scans. -/
def cramped : Config where
  capacity := .ofNat 2
  minTableSize := 1
  secondLevelMin := 1
  primaryLimit := 1
  verifyLookups := true

variable {cfg : Config} {reg : Registry cfg}

theorem declared_of_declare {next : Registry cfg} {d : Declaration reg.size} {alloc : Allocator}
    (hdecl : reg.hierarchy.Declared) (hok : (reg.declare d alloc).outcome = .ok next) :
    next.hierarchy.Declared := by
  obtain ⟨fresh, hdraft, rfl⟩ := Logged.outcome_map_eq_ok_iff.1 hok
  exact .declare hdecl (Logged.outcome_map_eq_ok_iff.2 ⟨fresh, hdraft, rfl⟩)

def declareNext (s : Registry cfg × Allocator) (d : Declaration s.1.size) :
    Registry cfg × Allocator :=
  ((s.1.declare d s.2).after s.1, (s.1.declare d s.2).source)

theorem declared_declareNext {s : Registry cfg × Allocator} (hs : s.1.hierarchy.Declared)
    (d : Declaration s.1.size) : (declareNext s d).1.hierarchy.Declared := by
  unfold declareNext
  rcases (s.1.declare d s.2).after_cases s.1 with hsame | ⟨next, houtcome, hnext⟩
  · rwa [hsame]
  · rw [hnext]
    exact declared_of_declare hs houtcome

def plugins : Nat → Registry cramped × Allocator
  | 0 => (.empty, default)
  | n + 1 => declareNext (plugins n) ⟨"Plugin", .ofInterface []⟩

def widget : Registry cramped × Allocator :=
  declareNext (plugins 5) ⟨"Widget", .ofClass none (List.finRange (plugins 5).1.size)⟩

def panel : Registry cramped × Allocator :=
  declareNext widget ⟨"Panel", .ofClass (some ⟨5, by decide⟩) []⟩

/-- Five interfaces and a superclass are too many for two zones of two slots. -/
def dialog : Registry cramped × Allocator :=
  declareNext panel ⟨"Dialog", .ofClass (some ⟨6, by decide⟩) []⟩

theorem declared_dialog : dialog.1.hierarchy.Declared := by
  have hplugins : ∀ n, (plugins n).1.hierarchy.Declared := by
    intro n
    induction n with
    | zero => exact .empty
    | succ n ih => exact declared_declareNext ih _
  have hwidget : widget.1.hierarchy.Declared := declared_declareNext (hplugins 5) _
  have hpanel : panel.1.hierarchy.Declared := declared_declareNext hwidget _
  exact declared_declareNext hpanel _

/-- Both zones of its table are full, and two interfaces are left to the tail. -/
theorem sizes_of_dialog_zones {t : Table cramped Member}
    (hbuild : (dialog.1.build 7 dialog.2).outcome = .ok t) :
    (t.primary.size, t.secondary.size, t.tailZone.length) = (2, 2, 2) := by
  have hsizes : ((dialog.1.build 7 dialog.2).outcome.toOption.map fun t =>
      (t.primary.size, t.secondary.size, t.tailZone.length)) = some (2, 2, 2) := by
    decide +kernel
  rw [hbuild] at hsizes
  exact Option.some.inj hsizes

/-! ### Candidates as members -/

theorem member_injective {r s : Nat} (h : reg.member r = reg.member s) : r = s :=
  congrArg Member.ref h

theorem expected_eq (reg : Registry cfg) (r : Nat) : reg.expected r =
    ((reg.hierarchy.candidates r).primaries ++ (reg.hierarchy.candidates r).secondaries).map
      reg.member := by
  simp [expected, candidateGroups]

theorem member_mem_expected_iff {r s : Nat} : reg.member s ∈ reg.expected r ↔
    s ∈ (reg.hierarchy.candidates r).primaries ++ (reg.hierarchy.candidates r).secondaries := by
  rw [expected_eq, List.mem_map]
  constructor
  · rintro ⟨c, hc, heq⟩
    rwa [← member_injective heq]
  · intro hs
    exact ⟨s, hs, rfl⟩

theorem nodup_expected (hdecl : reg.hierarchy.Declared) {r : Nat} (hr : r < reg.size) :
    (reg.expected r).Nodup := by
  rw [expected_eq, List.Nodup, List.pairwise_map]
  refine List.Pairwise.imp ?_ (Hierarchy.nodup_candidates hdecl hr)
  intro s t hne heq
  exact hne (member_injective heq)

section

variable {σ : Type} [SeedSource σ] {r : Nat} {source : σ} {t : Table cfg Member}

/-! ### What is built -/

theorem build_eq_ok_iff : (reg.build r source).outcome = .ok t ↔
    cfg.check = .ok () ∧ ∃ l, (Layout.arrange cfg (reg.candidateGroups r) source).outcome = .ok l ∧
      l.table = .ok t := by
  unfold build
  cases hcheck : cfg.check with
  | error fault => simp [Logged.stop]
  | ok => simp only [Logged.outcome_andThen_eq_ok_iff, true_and]

/-- A table that is built comes of two searches in a row for the candidates. -/
theorem layout_of_build (hbuild : (reg.build r source).outcome = .ok t) :
    ∃ l, (Layout.arrange cfg (reg.candidateGroups r) source).outcome = .ok l ∧
      l.Fits (reg.expected r) ∧ l.Realizes t := by
  obtain ⟨-, l, harrange, htable⟩ := build_eq_ok_iff.1 hbuild
  have hfits := Layout.fits_of_arrange harrange
  obtain ⟨t', htable', hrealizes⟩ := Layout.table_spec hfits
  rw [htable] at htable'
  cases htable'
  exact ⟨l, harrange, hfits, hrealizes⟩

/-- A table that is built holds the candidates, and lookups in it are right. -/
theorem holds_of_build (hbuild : (reg.build r source).outcome = .ok t) :
    t.Holds (reg.expected r) := by
  obtain ⟨l, -, hfits, hrealizes⟩ := layout_of_build hbuild
  exact ⟨hrealizes.composed hfits, hrealizes.coherent hfits, hrealizes.members_perm hfits⟩

theorem exists_build (hdecl : reg.hierarchy.Declared) (hcheck : cfg.check = .ok ())
    (hr : r < reg.size) (hfew : (reg.expected r).length < UInt32.size) (source : σ) :
    ∃ t, (reg.build r source).outcome = .ok t := by
  obtain ⟨l, harrange⟩ := Layout.exists_arrange hcheck (nodup_expected hdecl hr) hfew source
  obtain ⟨t, htable, -⟩ := Layout.table_spec (Layout.fits_of_arrange harrange)
  exact ⟨t, build_eq_ok_iff.2 ⟨hcheck, l, harrange, htable⟩⟩

/-! ### Lookup -/

omit [SeedSource σ] in
/-- A published table on which lookups are right never contradicts a scan of it. -/
theorem hasSecondary_of_holds {es : List Member} (ht : t.Holds es) {a : Nat}
    (htable : reg.table? a = some t) (b : Nat) :
    reg.hasSecondary a b = .ok (decide (a = b) || t.scan (reg.member b)) := by
  unfold hasSecondary
  by_cases hab : a = b
  · rw [if_pos hab]
    simp [hab]
  · simp [hab, htable, lookup, ht.contains_eq]

/-- The table of a declared class can be built, and the lookup that goes by tags answers
    as a scan of all its cells does.  So a registry that checks its lookups against scans
    never finds a disagreement, whatever class the table is published for. -/
theorem lookup_of_built_table (hdecl : reg.hierarchy.Declared) (hcheck : cfg.check = .ok ())
    (hr : r < reg.size) (source : σ) :
    ((reg.expected r).length < UInt32.size → ∃ t, (reg.build r source).outcome = .ok t) ∧
      ∀ t, (reg.build r source).outcome = .ok t →
        (∀ x : Member, t.contains x = .ok (t.scan x)) ∧
          ∀ (holder : Registry cfg) (a b : Nat), holder.table? a = some t →
            holder.hasSecondary a b = .ok (decide (a = b) || t.scan (holder.member b)) := by
  constructor
  · intro hfew
    exact exists_build hdecl hcheck hr hfew source
  · intro t hbuild
    have hholds := holds_of_build hbuild
    refine ⟨hholds.contains_eq, ?_⟩
    intro holder a b htable
    exact hasSecondary_of_holds hholds htable b

omit [SeedSource σ] in
/-- The members of all three zones are found, the class itself and the superclass in its
    primary array are not. -/
theorem lookup_of_dialog_table : ∃ t, (dialog.1.build 7 dialog.2).outcome = .ok t ∧
    (t.primary.size, t.secondary.size, t.tailZone.length) = (2, 2, 2) ∧
    (∀ s < 8, t.contains (dialog.1.member s) = .ok (decide (s ≠ 5 ∧ s ≠ 7))) ∧
    ∀ (holder : Registry cramped) (b : Nat), holder.table? 7 = some t →
      holder.hasSecondary 7 b = .ok (decide (7 = b) || t.scan (holder.member b)) := by
  have hlast : 7 < dialog.1.size := by decide +kernel
  obtain ⟨hexists, hlookup⟩ := lookup_of_built_table declared_dialog (by decide) hlast dialog.2
  obtain ⟨t, hbuild⟩ := hexists (by decide +kernel)
  obtain ⟨hcontains, hholder⟩ := hlookup t hbuild
  have hscans : ((dialog.1.build 7 dialog.2).outcome.toOption.map fun t =>
      (List.range 8).all fun s => t.scan (dialog.1.member s) == decide (s ≠ 5 ∧ s ≠ 7)) =
      some true := by decide +kernel
  rw [hbuild] at hscans
  refine ⟨t, hbuild, sizes_of_dialog_zones hbuild, ?_, fun holder b => hholder holder 7 b⟩
  intro s hs
  have hscan := List.all_eq_true.1 (Option.some.inj hscans) s (List.mem_range.2 hs)
  rw [hcontains, beq_iff_eq.1 hscan]

/-! ### Publication -/

omit [SeedSource σ] in
theorem exists_install (hcell : reg.cell r = .unset) (t : Table cfg Member) :
    ∃ next, reg.install r t = .ok next := by
  unfold install
  rw [hcell]
  exact ⟨_, rfl⟩

omit [SeedSource σ] in
theorem audit_eq_ok_iff {t' : Table cfg Member} :
    reg.audit r t = .ok t' ↔ Passes t.verify ∧ t' = t := by
  unfold audit
  cases hverify : t.verify with
  | error fault => simp
  | ok report =>
    cases hok : report.isOk with
    | true => simp [hok, eq_comm]
    | false => simp [hok]

omit [SeedSource σ] in
theorem release_eq_ok_iff {next : Registry cfg} :
    reg.release r t = .ok next ↔ reg.install r t = .ok next := by
  unfold release
  cases reg.install r t with
  | error t => simp
  | ok next => simp

omit [SeedSource σ] in
theorem isSet_eq_false_iff : (reg.cell r).isSet = false ↔ reg.cell r = .unset := by
  cases reg.cell r with
  | unset => simp [Once.isSet, Once.get?]
  | set value => simp [Once.isSet, Once.get?]

theorem outcome_publish_eq_ok_iff {next : Registry cfg} : (reg.publish r source).outcome = .ok next ↔
    reg.cell r = .unset ∧ ∃ t, (reg.build r source).outcome = .ok t ∧ Passes t.verify ∧
      reg.install r t = .ok next := by
  unfold publish
  cases hset : (reg.cell r).isSet with
  | true =>
    have hne : reg.cell r ≠ .unset := by
      intro hunset
      rw [isSet_eq_false_iff.2 hunset] at hset
      cases hset
    simp [Logged.stop, hne]
  | false =>
    simp only [Bool.false_eq_true, if_false, Logged.outcome_andThen_eq_ok_iff, audit_eq_ok_iff,
      release_eq_ok_iff, isSet_eq_false_iff.1 hset, true_and]
    constructor
    · rintro ⟨_, ⟨t, hbuild, hpasses, rfl⟩, hinstall⟩
      exact ⟨_, hbuild, hpasses, hinstall⟩
    · rintro ⟨t, hbuild, hpasses, hinstall⟩
      exact ⟨t, ⟨t, hbuild, hpasses, rfl⟩, hinstall⟩

theorem hierarchy_of_publish {next : Registry cfg}
    (hpublish : (reg.publish r source).outcome = .ok next) : next.hierarchy = reg.hierarchy := by
  obtain ⟨-, t, -, -, hinstall⟩ := outcome_publish_eq_ok_iff.1 hpublish
  exact hierarchy_of_install hinstall

theorem table?_of_install {next : Registry cfg} (hinstall : reg.install r t = .ok next)
    (hr : r < reg.size) : next.table? r = some t := by
  rw [table?, cell_of_install hinstall hr, if_pos rfl]
  rfl

/-- What is built for a class without a table is published. -/
theorem exists_publish_of_build (hdecl : reg.hierarchy.Declared) (hr : r < reg.size)
    (hset : (reg.cell r).isSet = false) (hbuild : (reg.build r source).outcome = .ok t) :
    ∃ next, (reg.publish r source).outcome = .ok next := by
  have hcell := isSet_eq_false_iff.1 hset
  have hpasses := (holds_of_build hbuild).passes_verify (nodup_expected hdecl hr)
  obtain ⟨next, hinstall⟩ := exists_install hcell t
  exact ⟨next, outcome_publish_eq_ok_iff.2 ⟨hcell, t, hbuild, hpasses, hinstall⟩⟩

/-- No step fails when the table of a declared class is built, verified and published:
    neither the search nor the cells, and the audit finds no defect. -/
theorem publish_succeeds (hdecl : reg.hierarchy.Declared) (hcheck : cfg.check = .ok ())
    (hr : r < reg.size) (hcell : reg.cell r = .unset)
    (hfew : (reg.expected r).length < UInt32.size) (source : σ) :
    ∃ t next, (reg.build r source).outcome = .ok t ∧ Passes t.verify ∧
      (reg.publish r source).outcome = .ok next ∧ next.table? r = some t := by
  obtain ⟨t, hbuild⟩ := exists_build hdecl hcheck hr hfew source
  have hpasses := (holds_of_build hbuild).passes_verify (nodup_expected hdecl hr)
  obtain ⟨next, hinstall⟩ := exists_install hcell t
  refine ⟨t, next, hbuild, hpasses, ?_, table?_of_install hinstall hr⟩
  exact outcome_publish_eq_ok_iff.2 ⟨hcell, t, hbuild, hpasses, hinstall⟩

omit [SeedSource σ] in
/-- Both searches draw, and both zones are written and verified. -/
theorem publish_dialog : ∃ t next, (dialog.1.build 7 dialog.2).outcome = .ok t ∧
    (t.primary.size, t.secondary.size, t.tailZone.length) = (2, 2, 2) ∧ Passes t.verify ∧
    (dialog.1.publish 7 dialog.2).outcome = .ok next ∧ next.table? 7 = some t ∧
    (dialog.1.publish 7 dialog.2).drawn = 2 := by
  have hlast : 7 < dialog.1.size := by decide +kernel
  have hcell : dialog.1.cell 7 = .unset := isSet_eq_false_iff.1 (by decide +kernel)
  obtain ⟨t, next, hbuild, hpasses, hpublish, htable⟩ :=
    publish_succeeds declared_dialog (by decide) hlast hcell (by decide +kernel) dialog.2
  exact ⟨t, next, hbuild, sizes_of_dialog_zones hbuild, hpasses, hpublish, htable,
    by decide +kernel⟩

end

end Registry

end Supertypes
