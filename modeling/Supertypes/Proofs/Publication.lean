/-
  Supertypes/Proofs/Publication.lean
  ==================================
  **A table is published once and stays right.**

  The table of a class after a history is the one it had before or, failing that, the table
  of the first attempt that came to one (`table?_of_history`).  One call does that
  (`table?_of_step`), and the calls of a history do it one after another.

  An attempt comes to a table whenever the configuration can be used.  So the attempts that
  fail are those for a class that has its table, and all attempts under a configuration that
  cannot be used; they stop before anything is drawn.  A successful one fills one cell and
  leaves the hierarchy and all other cells alone.  The table in the cell holds the
  supertypes of its class, and since these never change, verification finds no defect from
  then on (`Sound.verify_eq_clean`).
-/
import Supertypes.Proofs.Subtyping
import Supertypes.Registry.Run

namespace Supertypes.Registry

variable {cfg : Config} {reg : Registry cfg} {alloc : Allocator} {r : Nat}
  {t : Table cfg Member} {σ : Type} [SeedSource σ] {source : σ}

/-! ### Attempts that fail -/

/-- A class that has its table gets no other, and nothing is drawn. -/
theorem publish_of_isSet (hset : (reg.cell r).isSet = true) (source : σ) :
    reg.publish r source = .stop (.alreadyPublished (reg.name r)) source := by
  rw [publish, if_pos hset]

/-- A configuration that cannot be used is found out before anything is drawn. -/
theorem publish_of_check {fault : Fault} (hcheck : cfg.check = .error fault)
    (hset : (reg.cell r).isSet = false) (source : σ) :
    reg.publish r source = .stop fault source := by
  have hbuild : reg.build r source = .stop fault source := by
    unfold build
    rw [hcheck]
  rw [publish, hset, hbuild]
  rfl

omit [SeedSource σ] in
theorem hasSecondary_of_isSet_eq_false (hset : (reg.cell r).isSet = false) (b : Nat) :
    reg.hasSecondary r b = .ok (decide (r = b) || reg.hierarchy.scanSecondary r b) := by
  have htable : reg.table? r = none := by
    rw [table?, isSet_eq_false_iff.1 hset]
    rfl
  unfold hasSecondary
  by_cases hrb : r = b
  · simp [hrb]
  · simp [hrb, htable]

/-! ### One attempt -/

theorem firstBuilt_singleton (q : Nat) (a : Attempt cfg) :
    firstBuilt q [a] = if a.ref = q then a.built.toOption else none := by
  unfold firstBuilt
  rw [List.findSome?_singleton]

omit [SeedSource σ] in
theorem isSet_eq_isSome (reg : Registry cfg) (r : Nat) :
    (reg.cell r).isSet = (reg.table? r).isSome := rfl

/-- A publication fills one cell with what was built, and changes nothing else. -/
theorem frame_of_publish {next : Registry cfg} (hr : r < reg.size)
    (hpublish : (reg.publish r source).outcome = .ok next) :
    next.hierarchy = reg.hierarchy ∧ ∃ t, (reg.build r source).outcome = .ok t ∧
      ∀ q, next.table? q = if q = r then some t else reg.table? q := by
  obtain ⟨-, t, hbuild, -, hinstall⟩ := outcome_publish_eq_ok_iff.1 hpublish
  refine ⟨hierarchy_of_install hinstall, t, hbuild, ?_⟩
  intro q
  rw [table?, cell_of_install hinstall hr]
  split
  · rfl
  · rfl

/-- An attempt gives its class the table that was built, unless there is one. -/
theorem table?_of_attempt (hdecl : reg.hierarchy.Declared) (hr : r < reg.size) (source : σ)
    (q : Nat) : ((reg.publish r source).after reg).table? q =
      (reg.table? q).or (firstBuilt q [reg.attempt r source]) := by
  rw [firstBuilt_singleton]
  cases hset : (reg.cell r).isSet with
  | true =>
    rw [publish_of_isSet hset, Logged.after_of_error rfl]
    by_cases hqr : r = q
    · rw [isSet_eq_isSome, hqr] at hset
      obtain ⟨t, ht⟩ := Option.isSome_iff_exists.1 hset
      rw [ht, Option.some_or]
    · rw [attempt, if_neg hqr, Option.or_none]
  | false =>
    cases houtcome : (reg.publish r source).outcome with
    | error fault =>
      -- a build that came to a table would have been published
      have hnone : (reg.build r source).outcome.toOption = none := by
        cases hbuild : (reg.build r source).outcome with
        | error fault => rfl
        | ok t =>
          obtain ⟨next, hnext⟩ := exists_publish_of_build hdecl hr hset hbuild
          rw [houtcome] at hnext
          cases hnext
      rw [Logged.after_of_error houtcome, attempt, hnone, ite_self, Option.or_none]
    | ok next =>
      obtain ⟨-, t, hbuild, htables⟩ := frame_of_publish hr houtcome
      rw [Logged.after_of_ok houtcome, htables, attempt, hbuild]
      by_cases hqr : q = r
      · have hnone : reg.table? q = none := by
          rw [isSet_eq_isSome, Option.isSome_eq_false_iff, Option.isNone_iff_eq_none] at hset
          rw [hqr, hset]
        rw [if_pos hqr, if_pos hqr.symm, hnone, Option.none_or]
        rfl
      · rw [if_neg hqr, if_neg (Ne.symm hqr), Option.or_none]

/-! ### One call -/

omit [SeedSource σ] in
theorem table?_push (reg : Registry cfg) (fresh : reg.hierarchy.Fresh) (q : Nat) :
    (reg.push fresh).table? q = reg.table? q := by
  rw [table?, cell_push]
  rfl

omit [SeedSource σ] in
/-- A new class whose table cannot be published leaves no trace in the tables. -/
theorem table?_of_create {d : Declaration reg.size} {extended : Registry cfg}
    (hdeclare : (reg.declare d alloc).outcome = .ok extended) (q : Nat) :
    ((reg.create d alloc).after reg).table? q =
      ((extended.publish reg.size (reg.declare d alloc).source).after extended).table? q := by
  have hcreate : (reg.create d alloc).outcome =
      (extended.publish reg.size (reg.declare d alloc).source).outcome.mapError Failure.faulted := by
    rw [create, Logged.bind_of_ok hdeclare]
    rfl
  cases hpublish : (extended.publish reg.size (reg.declare d alloc).source).outcome with
  | error fault =>
    obtain ⟨fresh, -, rfl⟩ := Logged.outcome_map_eq_ok_iff.1 hdeclare
    rw [hpublish] at hcreate
    rw [Logged.after_of_error hpublish, Logged.after_of_error hcreate, table?_push]
  | ok next =>
    rw [hpublish] at hcreate
    rw [Logged.after_of_ok hpublish, Logged.after_of_ok hcreate]

/-- The attempt was made for a declared class. -/
structure Attempt.Genuine (a : Attempt cfg) : Prop where
  declared : a.registry.hierarchy.Declared
  ref_lt : a.ref < a.registry.size
  built_by : ∃ (σ : Type) (_ : SeedSource σ) (source : σ),
    a.built = (a.registry.build a.ref source).outcome

theorem genuine_attempt (hdecl : reg.hierarchy.Declared) (hr : r < reg.size) (source : σ) :
    (reg.attempt r source).Genuine :=
  ⟨hdecl, hr, σ, _, source, rfl⟩

/-- An attempt comes to a table exactly if the configuration can be used. -/
theorem Attempt.Genuine.built_iff {a : Attempt cfg} (ha : a.Genuine)
    (hfew : (a.registry.expected a.ref).length < UInt32.size) :
    (∃ t, a.built = .ok t) ↔ cfg.check = .ok () := by
  obtain ⟨σ, _, source, hbuilt⟩ := ha.built_by
  rw [hbuilt]
  constructor
  · rintro ⟨t, hbuild⟩
    exact (build_eq_ok_iff.1 hbuild).1
  · intro hcheck
    exact exists_build ha.declared hcheck ha.ref_lt hfew source

section

variable {s u : Registry cfg × Allocator} {now attempts : List (Attempt cfg)}
  {taken : List Issue}

theorem table?_of_step (hs : Sound s) (hstep : Step s now taken u) :
    (∀ q, u.1.table? q = (s.1.table? q).or (firstBuilt q now)) ∧ ∀ a ∈ now, a.Genuine := by
  -- a call that attempts nothing leaves the tables
  have hsilent : (∀ q, s.1.table? q = (s.1.table? q).or (firstBuilt q ([] : List (Attempt cfg)))) ∧
      ∀ a ∈ ([] : List (Attempt cfg)), a.Genuine :=
    ⟨fun _ => Option.or_none.symm, List.forall_mem_nil _⟩
  cases hstep with
  | declare reg alloc d =>
    refine ⟨?_, hsilent.2⟩
    intro q
    rcases reg.after_declare_cases d alloc with hsame | ⟨fresh, -, hpush⟩
    · rw [hsame]
      exact hsilent.1 q
    · rw [hpush, table?_push]
      exact hsilent.1 q
  | create reg alloc d =>
    cases houtcome : (reg.declare d alloc).outcome with
    | error failure =>
      have hcreate : (reg.create d alloc).outcome = .error failure := by
        rw [create, Logged.bind_of_error houtcome]
      have hnow : reg.createAttempts d alloc = [] := by
        rw [createAttempts, houtcome]
      rw [hnow, Logged.after_of_error hcreate]
      exact hsilent
    | ok extended =>
      have hnow : reg.createAttempts d alloc =
          [extended.attempt reg.size (reg.declare d alloc).source] := by
        rw [createAttempts, houtcome]
      have hcreated := table?_of_create houtcome
      obtain ⟨fresh, hdraft, rfl⟩ := Logged.outcome_map_eq_ok_iff.1 houtcome
      have hdecl : (reg.push fresh).hierarchy.Declared := (hs.push hdraft).declared
      have hlast : reg.size < (reg.push fresh).size := by
        rw [size_push]
        exact Nat.lt_succ_self _
      rw [hnow]
      refine ⟨?_, List.forall_mem_singleton.2 (genuine_attempt hdecl hlast _)⟩
      intro q
      rw [hcreated, table?_of_attempt hdecl hlast, table?_push]
  | publish reg alloc r =>
    exact ⟨table?_of_attempt hs.declared r.isLt alloc,
      List.forall_mem_singleton.2 (genuine_attempt hs.declared r.isLt alloc)⟩
  | publishWith reg alloc r source =>
    exact ⟨table?_of_attempt hs.declared r.isLt source,
      List.forall_mem_singleton.2 (genuine_attempt hs.declared r.isLt source)⟩
  | ask => exact hsilent
  | verify => exact hsilent
  | drawSeed => exact hsilent
  | drawCode => exact hsilent
  | drawId => exact hsilent

/-! ### Whole histories -/

theorem firstBuilt_append (q : Nat) (before now : List (Attempt cfg)) :
    firstBuilt q (before ++ now) = (firstBuilt q before).or (firstBuilt q now) :=
  List.findSome?_append

theorem table?_of_history (hs : Sound s) (history : History s attempts u) :
    (∀ q, u.1.table? q = (s.1.table? q).or (firstBuilt q attempts)) ∧ ∀ a ∈ attempts, a.Genuine := by
  obtain ⟨issues, trace⟩ := history
  induction trace with
  | start => exact ⟨fun _ => Option.or_none.symm, List.forall_mem_nil _⟩
  | next trace hstep ih =>
    obtain ⟨hbefore, hgenuine⟩ := ih
    obtain ⟨hnow, hgenuine'⟩ := table?_of_step (sound_of_run ⟨_, _, trace⟩ hs) hstep
    constructor
    · intro q
      rw [hnow, hbefore, firstBuilt_append, Option.or_assoc]
    · intro a ha
      rcases List.mem_append.1 ha with ha | ha
      · exact hgenuine a ha
      · exact hgenuine' a ha

end

/-! ### Verification of published tables -/

omit [SeedSource σ] in
/-- A published table has what the hierarchy asks for and nothing else. -/
theorem Sound.verify_eq_clean (hs : Sound (reg, alloc)) (hr : r < reg.size)
    (htable : reg.table? r = some t) : reg.verify r = .ok .clean := by
  have hholds : t.Holds (reg.expected r) := hs.holds hr htable
  obtain ⟨report, hverify, hok⟩ := hholds.passes_verify (nodup_expected hs.declared hr)
  have hclean : report = .clean := by
    simpa [Report.isOk] using hok
  have hmissing : (reg.expected r).countP (fun x => !t.scan x) = 0 := by
    rw [List.countP_eq_zero]
    intro x hx
    simp [hholds.scan_iff_mem.2 hx]
  have hunexpected : t.members.countP (fun x => !(reg.expected r).contains x) = 0 := by
    rw [List.countP_eq_zero]
    intro x hx
    simp [hholds.members_perm.mem_iff.1 hx]
  have hcontents : compareContents (reg.expected r) t = .clean := by
    rw [compareContents, hmissing, hunexpected]
    rfl
  unfold verify
  rw [htable]
  simp only [hverify, hcontents, hclean, Report.add_clean]

/-! ### Set once -/

/-- However a registry is used, the table of a class is the one it has had or that of the
    first attempt to publish one under a configuration that can be used.  An attempt for a
    class with a table, or under a configuration that cannot be used, stops before anything
    is drawn and changes nothing.  A successful attempt leaves the hierarchy and all other
    tables as they are, and from then on the table stays and verifies without a defect. -/
theorem tables_published_once {s u : Registry cfg × Allocator} {attempts : List (Attempt cfg)}
    (huse : InUse s.1 s.2) (history : History s attempts u)
    (hfew : ∀ a ∈ attempts, (a.registry.expected a.ref).length < UInt32.size) :
    (∀ r, u.1.table? r = (s.1.table? r).or (firstBuilt r attempts)) ∧
    (∀ a ∈ attempts, (∃ t, a.built = .ok t) ↔ cfg.check = .ok ()) ∧
    ∀ (r : Fin u.1.size) (σ : Type) [SeedSource σ] (source : σ),
      ((u.1.cell r).isSet = true →
        u.1.publish r source = .stop (.alreadyPublished (u.1.name r)) source ∧
          (u.1.publish r source).after u.1 = u.1) ∧
      (∀ fault, cfg.check = .error fault → (u.1.cell r).isSet = false →
        u.1.publish r source = .stop fault source ∧ (u.1.publish r source).after u.1 = u.1 ∧
          ∀ b, u.1.hasSecondary r b =
            .ok (decide (r.val = b) || u.1.hierarchy.scanSecondary r b)) ∧
      ∀ next, (u.1.publish r source).outcome = .ok next →
        next.hierarchy = u.1.hierarchy ∧
        (∃ t, (u.1.build r source).outcome = .ok t ∧
          ∀ q, next.table? q = if q = r then some t else u.1.table? q) ∧
        ∀ (alloc : Allocator) (later : Registry cfg × Allocator), Run u (next, alloc) →
          Run (next, alloc) later →
            later.1.table? r = next.table? r ∧ later.1.verify r = .ok .clean := by
  have hs : Sound s := sound_of_inUse huse
  obtain ⟨htables, hgenuine⟩ := table?_of_history hs history
  refine ⟨htables, fun a ha => (hgenuine a ha).built_iff (hfew a ha), ?_⟩
  intro r σ _ source
  refine ⟨?_, ?_, ?_⟩
  · intro hset
    rw [publish_of_isSet hset]
    exact ⟨rfl, Logged.after_of_error rfl⟩
  · intro fault hcheck hset
    rw [publish_of_check hcheck hset]
    exact ⟨rfl, Logged.after_of_error rfl, hasSecondary_of_isSet_eq_false hset⟩
  · intro next hpublish
    obtain ⟨hsame, t, hbuild, hnext⟩ := frame_of_publish r.isLt hpublish
    refine ⟨hsame, ⟨t, hbuild, hnext⟩, ?_⟩
    intro alloc later hrun hlater
    have hsound : Sound (next, alloc) := sound_of_run hrun (sound_of_run history.run hs)
    have hsound' : Sound later := sound_of_run hlater hsound
    have hr : r.val < later.1.size := by
      have hle := (includes_of_run (hrun.trans hlater)).size_le
      exact Nat.lt_of_lt_of_le r.isLt hle
    obtain ⟨more, history⟩ := hlater
    have htable : later.1.table? r = some t := by
      rw [(table?_of_history hsound history).1, hnext, if_pos rfl, Option.some_or]
    refine ⟨by rw [htable, hnext, if_pos rfl], ?_⟩
    exact Sound.verify_eq_clean hsound' hr htable

/-- One class above an interface, under a configuration without a primary array. -/
def stuck : Registry { primaryLimit := 0 } × Allocator :=
  let readable := declareNext (.empty, default) ⟨"Readable", .ofInterface []⟩
  declareNext readable ⟨"File", .ofClass none [⟨0, by decide⟩]⟩

theorem inUse_stuck : InUse stuck.1 stuck.2 :=
  inUse_declareNext (inUse_declareNext inUse_empty _) _

/-- The crowded class has the table of its only attempt, which verifies, and is refused
    another one.  The class that cannot have a table goes on without. -/
theorem published_once_on_desktop :
    (∃ t, firstBuilt 7 [dialog.1.attempt 7 dialog.2] = some t ∧ desktop.1.table? 7 = some t) ∧
    desktop.1.publish 7 desktop.2 = .stop (.alreadyPublished "Dialog") desktop.2 ∧
    desktop.1.verify 7 = .ok .clean ∧
    stuck.1.publish 1 stuck.2 = .stop .zeroPrimaryLimit stuck.2 ∧
    (stuck.1.publish 1 stuck.2).after stuck.1 = stuck.1 ∧
    stuck.1.hasSecondary 1 0 = .ok true := by
  have hlast : 7 < dialog.1.size := by decide +kernel
  have hlast' : 7 < desktop.1.size := by decide +kernel
  have hunset : (dialog.1.cell 7).isSet = false := by decide +kernel
  have hset : (desktop.1.cell 7).isSet = true := by decide +kernel
  have hname : desktop.1.name 7 = "Dialog" := by decide +kernel
  refine ⟨?_, ?_, ?_, ?_⟩
  · obtain ⟨htables, -⟩ := tables_published_once inUse_dialog history_desktop
      (List.forall_mem_singleton.2 (by decide +kernel))
    have hnone : dialog.1.table? 7 = none := by
      rw [table?, isSet_eq_false_iff.1 hunset]
      rfl
    have htable := htables 7
    rw [hnone, Option.none_or] at htable
    rw [isSet_eq_isSome] at hset
    obtain ⟨t, ht⟩ := Option.isSome_iff_exists.1 hset
    exact ⟨t, htable.symm.trans ht, ht⟩
  · obtain ⟨-, -, hcalls⟩ := tables_published_once inUse_desktop ⟨_, .start _⟩
      (List.forall_mem_nil _)
    rw [← hname]
    exact ((hcalls ⟨7, hlast'⟩ Allocator desktop.2).1 hset).1
  · have hcheck : cramped.check = .ok () := by decide
    obtain ⟨t, hbuild⟩ := exists_build declared_dialog hcheck hlast (by decide +kernel) dialog.2
    obtain ⟨next, hpublish⟩ := exists_publish_of_build declared_dialog hlast hunset hbuild
    have hafter : (dialog.1.publish 7 dialog.2).after dialog.1 = next :=
      Logged.after_of_ok hpublish
    have hfirst : Run dialog (next, (dialog.1.publish 7 dialog.2).source) := by
      rw [← hafter]
      exact (Run.refl dialog).tail (.publish _ _ ⟨7, hlast⟩)
    have hsecond : Run (next, (dialog.1.publish 7 dialog.2).source) desktop := by
      rw [← hafter]
      exact (Run.refl _).tail (.declare _ _ _)
    obtain ⟨-, -, hcalls⟩ := tables_published_once inUse_dialog ⟨_, .start _⟩
      (List.forall_mem_nil _)
    obtain ⟨-, -, hlater⟩ := (hcalls ⟨7, hlast⟩ Allocator dialog.2).2.2 next hpublish
    exact (hlater _ desktop hfirst hsecond).2
  · have hcheck : ({ primaryLimit := 0 } : Config).check = .error .zeroPrimaryLimit := rfl
    have hempty : (stuck.1.cell 1).isSet = false := by decide +kernel
    have hscan : stuck.1.hierarchy.scanSecondary 1 0 = true := by decide +kernel
    obtain ⟨-, -, hcalls⟩ := tables_published_once inUse_stuck ⟨_, .start _⟩
      (List.forall_mem_nil _)
    obtain ⟨hstop, hafter, hanswers⟩ :=
      (hcalls ⟨1, by decide +kernel⟩ Allocator stuck.2).2.1 _ hcheck hempty
    refine ⟨hstop, hafter, ?_⟩
    rw [hanswers 0, hscan, Bool.or_true]

end Supertypes.Registry
