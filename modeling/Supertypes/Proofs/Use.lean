/-
  Supertypes/Proofs/Use.lean
  ==========================
  **What holds of every registry in use.**

  A call does at most one of three things to a registry: it draws and does nothing else, it
  adds a descriptor that was just drafted, or it publishes a table.  A declaration with a
  table does the last two in a row, or nothing.  So whatever is kept by the three kinds
  of changes is kept by every call (`Step.keeps`).

  The invariant is `Sound`.  Identities count upwards with the positions, which makes
  them different from each other, and every published table holds the candidates of its
  class.  Nothing is said about which classes have tables.

  What a class is never changes.  So its edges are for all time those to the supertypes that
  its declaration names (`direct_of_run`).
-/
import Supertypes.Proofs.Building
import Supertypes.Proofs.Issuing

namespace Supertypes.Registry

variable {cfg : Config}

/-! ### What a call can do -/

theorem serial_le_of_draft (reg : Registry cfg) (d : Declaration reg.size) (alloc : Allocator) :
    alloc.serial ≤ (reg.hierarchy.draft d alloc).source.serial := by
  rw [(reg.issued_draft d alloc).serial]
  exact Nat.le_add_right _ _

/-- The seeds for a table are no identities. -/
theorem serial_of_publish (reg : Registry cfg) (r : Nat) (alloc : Allocator) :
    (reg.publish r alloc).source.serial = alloc.serial := by
  rw [(reg.issued_publish r alloc).serial, publishIssues, List.filterMap_map]
  simp [Function.comp_def, Issue.identity?]

/-- A declaration with a table is a declaration and a publication, or nothing. -/
theorem create_cases (reg : Registry cfg) (d : Declaration reg.size) (alloc : Allocator) :
    alloc.serial ≤ (reg.create d alloc).source.serial ∧
      ∀ next, (reg.create d alloc).outcome = .ok next →
        ∃ fresh, (reg.hierarchy.draft d alloc).outcome = .ok fresh ∧
          (reg.create d alloc).source.serial = (reg.hierarchy.draft d alloc).source.serial ∧
          ((reg.push fresh).publish reg.size (reg.hierarchy.draft d alloc).source).outcome =
            .ok next := by
  have hle := reg.serial_le_of_draft d alloc
  unfold create
  cases houtcome : (reg.declare d alloc).outcome with
  | error failure =>
    rw [Logged.bind_of_error houtcome]
    refine ⟨hle, ?_⟩
    intro next hnext
    cases hnext
  | ok extended =>
    obtain ⟨fresh, hdraft, rfl⟩ := Logged.outcome_map_eq_ok_iff.1 houtcome
    have hserial := serial_of_publish (reg.push fresh) reg.size (reg.hierarchy.draft d alloc).source
    rw [Logged.bind_of_ok houtcome]
    refine ⟨Nat.le_trans hle (Nat.le_of_eq hserial.symm), ?_⟩
    intro next hnext
    exact ⟨fresh, hdraft, hserial, Logged.outcome_mapError_eq_ok_iff.1 hnext⟩

/-- What is kept by drawing, by adding a drafted descriptor and by publishing a table is
    kept by every call. -/
theorem Step.keeps {P : Registry cfg × Allocator → Prop}
    (drawn : ∀ {reg : Registry cfg} {alloc next : Allocator}, alloc.serial ≤ next.serial →
      P (reg, alloc) → P (reg, next))
    (declared : ∀ {reg : Registry cfg} {alloc : Allocator} {d : Declaration reg.size}
      {fresh : reg.hierarchy.Fresh}, (reg.hierarchy.draft d alloc).outcome = .ok fresh →
      P (reg, alloc) → P (reg.push fresh, (reg.hierarchy.draft d alloc).source))
    (published : ∀ {reg next : Registry cfg} {alloc : Allocator} {r : Nat} {σ : Type}
      [SeedSource σ] {source : σ}, r < reg.size → (reg.publish r source).outcome = .ok next →
      P (reg, alloc) → P (next, alloc))
    {s t : Registry cfg × Allocator} {now : List (Attempt cfg)} {taken : List Issue} (hs : P s)
    (hstep : Step s now taken t) : P t := by
  have hpublish : ∀ {reg : Registry cfg} {alloc : Allocator} {r : Nat} {σ : Type} [SeedSource σ]
      (source : σ), r < reg.size → P (reg, alloc) →
      P ((reg.publish r source).after reg, alloc) := by
    intro reg alloc r σ _ source hr hreg
    rcases (reg.publish r source).after_cases reg with hsame | ⟨next, houtcome, hnext⟩
    · rwa [hsame]
    · rw [hnext]
      exact published hr houtcome hreg
  cases hstep with
  | declare reg alloc d =>
    rcases reg.after_declare_cases d alloc with hsame | ⟨fresh, hdraft, hpush⟩
    · rw [hsame]
      exact drawn (reg.serial_le_of_draft d alloc) hs
    · rw [hpush]
      exact declared hdraft hs
  | create reg alloc d =>
    obtain ⟨hle, hcreated⟩ := create_cases reg d alloc
    rcases (reg.create d alloc).after_cases reg with hsame | ⟨next, houtcome, hafter⟩
    · rw [hsame]
      exact drawn hle hs
    · obtain ⟨fresh, hdraft, hserial, hnext⟩ := hcreated next houtcome
      have hlast : reg.size < (reg.push fresh).size := by
        rw [size_push]
        exact Nat.lt_succ_self _
      rw [hafter]
      exact drawn (Nat.le_of_eq hserial.symm) (published hlast hnext (declared hdraft hs))
  | publish reg alloc r =>
    have hserial := serial_of_publish reg r alloc
    exact drawn (Nat.le_of_eq hserial.symm) (hpublish alloc r.isLt hs)
  | publishWith reg alloc r source => exact hpublish source r.isLt hs
  | ask => exact hs
  | verify => exact hs
  | drawSeed reg alloc =>
    refine drawn ?_ hs
    exact Nat.le_refl alloc.serial
  | drawCode reg alloc =>
    refine drawn ?_ hs
    exact Nat.le_refl alloc.serial
  | drawId reg alloc next id hid =>
    refine drawn ?_ hs
    obtain ⟨-, rfl⟩ := Allocator.of_nextId_eq_ok hid
    exact Nat.le_succ alloc.serial

/-! ### The invariant -/

/-- Everything was declared, identities count upwards, and published tables are right. -/
structure Sound (s : Registry cfg × Allocator) : Prop where
  declared : s.1.hierarchy.Declared
  ascending : ∀ {r q : Nat}, r < q → q < s.1.size →
    (s.1.hierarchy.descriptor r).id.number < (s.1.hierarchy.descriptor q).id.number
  issued : ∀ {r : Nat}, r < s.1.size → (s.1.hierarchy.descriptor r).id.number ≤ s.2.serial
  holds : ∀ {r : Nat} {t : Table cfg Member}, r < s.1.size → s.1.table? r = some t →
    t.Holds (s.1.expected r)

theorem Sound.identified {s : Registry cfg × Allocator} (hs : Sound s) :
    s.1.hierarchy.Identified := by
  intro r q hr hq heq
  rcases Nat.lt_trichotomy r q with hlt | hsame | hlt
  · have hless := hs.ascending hlt hq
    rw [heq] at hless
    exact absurd hless (Nat.lt_irrefl _)
  · exact hsame
  · have hless := hs.ascending hlt hr
    rw [heq] at hless
    exact absurd hless (Nat.lt_irrefl _)

theorem expected_push (reg : Registry cfg) (fresh : reg.hierarchy.Fresh) {r : Nat}
    (hr : r < reg.size) : (reg.push fresh).expected r = reg.expected r := by
  have hagree := Hierarchy.agree_push reg.hierarchy fresh
  have hcandidates : (reg.push fresh).hierarchy.candidates r = reg.hierarchy.candidates r :=
    hagree.candidates hr
  rw [expected_eq, expected_eq, hcandidates]
  apply List.map_congr_left
  intro s hs
  have hlt : s < reg.size := Nat.lt_trans (Hierarchy.lt_of_mem_candidates hs) hr
  unfold member Hierarchy.member
  rw [show (reg.push fresh).hierarchy.descriptor s = reg.hierarchy.descriptor s from hagree s hlt]

theorem sound_empty (alloc : Allocator) : Sound ((empty : Registry cfg), alloc) := by
  refine ⟨.empty, ?_, ?_, ?_⟩
  · intro r q _ hq
    exact absurd hq (Nat.not_lt_zero q)
  · intro r hr
    exact absurd hr (Nat.not_lt_zero r)
  · intro r t hr
    exact absurd hr (Nat.not_lt_zero r)

/-- A new descriptor gets the greatest identity and no table. -/
theorem Sound.push {reg : Registry cfg} {alloc : Allocator} (hs : Sound (reg, alloc))
    {d : Declaration reg.size} {fresh : reg.hierarchy.Fresh}
    (hdraft : (reg.hierarchy.draft d alloc).outcome = .ok fresh) :
    Sound (reg.push fresh, (reg.hierarchy.draft d alloc).source) := by
  obtain ⟨-, code, hfresh, hserial⟩ := Hierarchy.draft_eq_ok hdraft
  have hagree := Hierarchy.agree_push reg.hierarchy fresh
  have hsize := reg.size_push fresh
  have hlast : ((reg.push fresh).hierarchy.descriptor reg.size).id = ⟨alloc.serial + 1⟩ := by
    have hself : (reg.push fresh).hierarchy.descriptor reg.size = fresh.val :=
      Hierarchy.descriptor_push_self _ _
    rw [hself, hfresh]
    exact reg.hierarchy.fields_id d _ code
  have hold : ∀ {r : Nat}, r < reg.size →
      (reg.push fresh).hierarchy.descriptor r = reg.hierarchy.descriptor r := hagree _
  constructor
  · exact .declare hs.declared (Logged.outcome_map_eq_ok_iff.2 ⟨fresh, hdraft, rfl⟩)
  · intro r q hrq hq
    dsimp only at hq ⊢
    rw [hsize] at hq
    have hr : r < reg.size := by omega
    rw [hold hr]
    by_cases hnew : q = reg.size
    · have hissued : (reg.hierarchy.descriptor r).id.number ≤ alloc.serial := hs.issued hr
      rw [hnew, hlast]
      exact Nat.lt_succ_of_le hissued
    · have hq' : q < reg.size := by omega
      rw [hold hq']
      exact hs.ascending hrq hq'
  · intro r hr
    dsimp only at hr ⊢
    rw [hsize] at hr
    rw [hserial]
    by_cases hnew : r = reg.size
    · exact Nat.le_of_eq (by rw [hnew, hlast])
    · have hr' : r < reg.size := by omega
      rw [hold hr']
      exact Nat.le_succ_of_le (hs.issued hr')
  · intro r t hr htable
    dsimp only at hr htable ⊢
    rw [table?, cell_push] at htable
    by_cases hnew : r = reg.size
    · rw [cell_of_size_le (Nat.le_of_eq hnew.symm)] at htable
      cases htable
    · have hr' : r < reg.size := by omega
      rw [expected_push reg fresh hr']
      exact hs.holds hr' htable

theorem expected_of_hierarchy_eq {reg next : Registry cfg} (hsame : next.hierarchy = reg.hierarchy)
    (r : Nat) : next.expected r = reg.expected r := by
  have hmember : next.member = reg.member := by
    funext s
    rw [member, member, hsame]
  unfold expected candidateGroups
  rw [hmember, hsame]

/-- Publication changes one cell, and what it puts there is right. -/
theorem Sound.publish {reg next : Registry cfg} {alloc : Allocator} (hs : Sound (reg, alloc))
    {r : Nat} {σ : Type} [SeedSource σ] {source : σ} (hr : r < reg.size)
    (hpublish : (reg.publish r source).outcome = .ok next) : Sound (next, alloc) := by
  obtain ⟨-, t, hbuild, -, hinstall⟩ := outcome_publish_eq_ok_iff.1 hpublish
  have hsame := hierarchy_of_install hinstall
  have hsize : next.size = reg.size := congrArg Hierarchy.size hsame
  constructor
  · dsimp only
    rw [hsame]
    exact hs.declared
  · intro q p hqp hp
    dsimp only at hp ⊢
    rw [hsame]
    exact hs.ascending hqp (hsize ▸ hp)
  · intro q hq
    dsimp only at hq ⊢
    rw [hsame]
    exact hs.issued (hsize ▸ hq)
  · intro q t' hq htable
    dsimp only at hq htable ⊢
    rw [hsize] at hq
    rw [expected_of_hierarchy_eq hsame]
    rw [table?, cell_of_install hinstall hr] at htable
    by_cases hqr : q = r
    · rw [if_pos hqr] at htable
      cases htable
      rw [hqr]
      exact holds_of_build hbuild
    · rw [if_neg hqr] at htable
      exact hs.holds hq htable

/-- Every call keeps a registry sound, hence so does every run. -/
theorem sound_of_run {s t : Registry cfg × Allocator} (hrun : Run s t) (hs : Sound s) : Sound t := by
  refine hrun.invariant (fun hs hstep => Step.keeps ?_ ?_ ?_ hs hstep) hs
  · intro reg alloc next hle hreg
    refine ⟨hreg.declared, hreg.ascending, ?_, hreg.holds⟩
    intro r hr
    exact Nat.le_trans (hreg.issued hr) hle
  · intro reg alloc d fresh hdraft hreg
    exact hreg.push hdraft
  · intro reg next alloc r σ _ source hr hpublish hreg
    exact hreg.publish hr hpublish

theorem sound_of_inUse {reg : Registry cfg} {alloc : Allocator} (huse : InUse reg alloc) :
    Sound (reg, alloc) := by
  obtain ⟨salt, hrun⟩ := huse
  exact sound_of_run hrun (sound_empty _)

/-! ### What never changes -/

/-- `t` has all classes of `s` as they are, and maybe more. -/
structure Includes (s t : Registry cfg × Allocator) : Prop where
  size_le : s.1.size ≤ t.1.size
  agree : Hierarchy.Agree s.1.size s.1.hierarchy t.1.hierarchy

/-- No call changes a class that is declared. -/
theorem includes_of_run {s t : Registry cfg × Allocator} (hrun : Run s t) : Includes s t := by
  have hself : Includes s s := ⟨Nat.le_refl _, fun _ _ => rfl⟩
  refine hrun.invariant (fun hs hstep => Step.keeps ?_ ?_ ?_ hs hstep) hself
  · intro reg alloc next _ hreg
    exact ⟨hreg.size_le, hreg.agree⟩
  · rintro reg alloc d fresh - ⟨hle, hagree⟩
    refine ⟨Nat.le_trans hle ?_, ?_⟩
    · rw [size_push]
      exact Nat.le_succ _
    · intro r hr
      have hr' : r < reg.size := Nat.lt_of_lt_of_le hr hle
      have hnew := Hierarchy.agree_push reg.hierarchy fresh r hr'
      exact hnew.trans (hagree r hr)
  · rintro reg next alloc r σ _ source hr hpublish ⟨hle, hagree⟩
    have hsame := hierarchy_of_publish hpublish
    have hsize : next.size = reg.size := congrArg Hierarchy.size hsame
    refine ⟨hsize ▸ hle, ?_⟩
    dsimp only
    rw [hsame]
    exact hagree

/-- The supertypes that a declaration names are the direct supertypes of its class, in
    whatever becomes of the registry. -/
theorem direct_of_run {reg next : Registry cfg} {d : Declaration reg.size}
    {alloc alloc' : Allocator} {later : Registry cfg × Allocator} (hok : (reg.declare d alloc).outcome = .ok next)
    (hrun : Run (next, alloc') later) (s : Nat) :
    later.1.hierarchy.Direct reg.size s ↔ d.superclass = some s ∨ s ∈ d.listed := by
  obtain ⟨fresh, hdraft, rfl⟩ := Logged.outcome_map_eq_ok_iff.1 hok
  have hlast : reg.size < (reg.push fresh).size := by
    rw [size_push]
    exact Nat.lt_succ_self _
  have hdeclare : (reg.hierarchy.declare d alloc).outcome = .ok (reg.push fresh).hierarchy :=
    Logged.outcome_map_eq_ok_iff.2 ⟨fresh, hdraft, rfl⟩
  unfold Hierarchy.Direct
  rw [(includes_of_run hrun).agree reg.size hlast]
  exact (Hierarchy.direct_of_declare hdeclare).1 s

/-! ### A crowded hierarchy in use -/

theorem inUse_declareNext {s : Registry cfg × Allocator} (hs : InUse s.1 s.2)
    (d : Declaration s.1.size) : InUse (declareNext s d).1 (declareNext s d).2 :=
  hs.run ((Run.refl s).tail (.declare _ _ d))

theorem inUse_plugins (n : Nat) : InUse (plugins n).1 (plugins n).2 := by
  induction n with
  | zero => exact inUse_empty
  | succ n ih => exact inUse_declareNext ih _

theorem inUse_dialog : InUse dialog.1 dialog.2 := by
  have hwidget : InUse widget.1 widget.2 := inUse_declareNext (inUse_plugins 5) _
  have hpanel : InUse panel.1 panel.2 := inUse_declareNext hwidget _
  exact inUse_declareNext hpanel _

end Supertypes.Registry
