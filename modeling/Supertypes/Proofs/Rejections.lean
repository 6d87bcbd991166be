/-
  Supertypes/Proofs/Rejections.lean
  =================================
  **What is left of a declaration that is rejected.**

  The check comes before everything else, also if a table is asked for, so a rejected
  declaration has taken nothing and left nothing.  A declaration that passes fails only
  for want of identities, and it takes one identity and one hash code.
-/
import Supertypes.Proofs.Building
import Supertypes.Proofs.Checking

namespace Supertypes

namespace Hierarchy

variable {cfg : Config} {h : Hierarchy cfg}

/-! ### Drafts -/

theorem draft_of_objection {d : Declaration h.size} {e : DeclareError} (he : h.Objection d e)
    (alloc : Allocator) : h.draft d alloc = .stop (.rejected e) alloc := by
  unfold draft
  rw [check_eq_error_iff.2 he]

theorem outcome_draft_eq_rejected_iff {d : Declaration h.size} {alloc : Allocator}
    {e : DeclareError} :
    (h.draft d alloc).outcome = .error (.rejected e) ↔ h.Objection d e := by
  constructor
  · intro houtcome
    rcases h.check_cases d with ⟨hok, -⟩ | ⟨e', -, he'⟩
    · unfold draft at houtcome
      rw [hok] at houtcome
      cases hid : alloc.nextId with
      | error fault =>
        rw [hid] at houtcome
        cases houtcome
      | ok issued =>
        rw [hid] at houtcome
        cases houtcome
    · rw [draft_of_objection he'] at houtcome
      cases houtcome
      exact he'
  · intro he
    rw [draft_of_objection he]
    rfl

/-- A declaration without objections is drafted as long as there are identities. -/
theorem exists_draft {d : Declaration h.size} {alloc : Allocator} (hnone : ∀ e, ¬ h.Objection d e)
    (hroom : alloc.serial + 1 < UInt64.size) :
    ∃ fresh, (h.draft d alloc).outcome = .ok fresh := by
  unfold draft
  rw [check_eq_ok_iff.2 hnone, Allocator.nextId_eq_ok hroom]
  exact ⟨_, rfl⟩

end Hierarchy

namespace Registry

variable {cfg : Config} {reg : Registry cfg} {alloc : Allocator} {d : Declaration reg.size}

/-! ### Declarations and classes with tables -/

theorem declare_of_objection {e : DeclareError} (he : reg.hierarchy.Objection d e)
    (alloc : Allocator) : reg.declare d alloc = .stop (.rejected e) alloc := by
  rw [declare, Hierarchy.draft_of_objection he]
  rfl

theorem create_of_objection {e : DeclareError} (he : reg.hierarchy.Objection d e)
    (alloc : Allocator) : reg.create d alloc = .stop (.rejected e) alloc := by
  rw [create, declare_of_objection he]
  rfl

theorem outcome_declare_eq_rejected_iff {e : DeclareError} :
    (reg.declare d alloc).outcome = .error (.rejected e) ↔ reg.hierarchy.Objection d e :=
  Logged.outcome_map_eq_error_iff.trans Hierarchy.outcome_draft_eq_rejected_iff

/-- A table that cannot be built is no reason to reject the declaration. -/
theorem outcome_create_eq_rejected_iff {e : DeclareError} :
    (reg.create d alloc).outcome = .error (.rejected e) ↔ reg.hierarchy.Objection d e := by
  constructor
  · intro houtcome
    rw [create] at houtcome
    cases hdeclare : (reg.declare d alloc).outcome with
    | error failure =>
      rw [Logged.bind_of_error hdeclare] at houtcome
      cases houtcome
      exact outcome_declare_eq_rejected_iff.1 hdeclare
    | ok extended =>
      rw [Logged.bind_of_ok hdeclare] at houtcome
      obtain ⟨fault, -, hfault⟩ := Logged.outcome_mapError_eq_error_iff.1 houtcome
      cases hfault
  · intro he
    rw [create_of_objection he]
    rfl

/-- A declaration that succeeds adds one class with the next identity and the hash code that
    follows, and takes nothing else. -/
theorem of_declare_eq_ok {next : Registry cfg} (hok : (reg.declare d alloc).outcome = .ok next) :
    ∃ id named, alloc.nextId = .ok (id, named) ∧ (reg.declare d alloc).source = named.nextCode.2 ∧
      next.size = reg.size + 1 ∧ (next.hierarchy.descriptor reg.size).id = id ∧
      (next.hierarchy.descriptor reg.size).code = named.nextCode.1 ∧
      (∀ r < reg.size, next.hierarchy.descriptor r = reg.hierarchy.descriptor r) ∧
      ∀ r, next.cell r = reg.cell r := by
  obtain ⟨fresh, hdraft, rfl⟩ := Logged.outcome_map_eq_ok_iff.1 hok
  rcases reg.hierarchy.draft_cases d alloc with ⟨failure, hstop⟩ | ⟨-, id, named, hid, hdrawn⟩
  · rw [hstop] at hdraft
    cases hdraft
  · rw [hdrawn] at hdraft
    cases hdraft
    have hself : (reg.push (reg.hierarchy.describe d id named.nextCode.1)).hierarchy.descriptor
        reg.size = reg.hierarchy.fields d id named.nextCode.1 :=
      Hierarchy.descriptor_push_self _ _
    refine ⟨id, named, hid, ?_, size_push _ _, ?_, ?_, ?_, cell_push _ _⟩
    · exact congrArg Logged.source hdrawn
    · rw [hself]
      exact reg.hierarchy.fields_id d id _
    · rw [hself]
      exact reg.hierarchy.fields_code d id _
    · exact Hierarchy.agree_push reg.hierarchy _

/-- A declared class gets its table unless there are too many candidates to be counted. -/
theorem exists_create {extended : Registry cfg} (hdecl : reg.hierarchy.Declared)
    (hcheck : cfg.check = .ok ()) (hdeclare : (reg.declare d alloc).outcome = .ok extended)
    (hfew : (extended.expected reg.size).length < UInt32.size) :
    ∃ next, (reg.create d alloc).outcome = .ok next := by
  have hextended := declared_of_declare hdecl hdeclare
  obtain ⟨id, named, -, -, hsize, -, -, -, hcells⟩ := of_declare_eq_ok hdeclare
  have hlast : reg.size < extended.size := by
    rw [hsize]
    exact Nat.lt_succ_self _
  have hset : (extended.cell reg.size).isSet = false :=
    isSet_eq_false_iff.2 ((hcells reg.size).trans (cell_of_size_le (Nat.le_refl _)))
  obtain ⟨t, hbuild⟩ := exists_build hextended hcheck hlast hfew (reg.declare d alloc).source
  obtain ⟨next, hpublish⟩ := exists_publish_of_build hextended hlast hset hbuild
  refine ⟨next, ?_⟩
  rw [create, Logged.bind_of_ok hdeclare]
  exact Logged.outcome_mapError_eq_ok_iff.2 hpublish

/-- A declaration, with or without a table, is rejected for its objection and for nothing else.
    There is one exactly if the superclass is an interface or an entry of the list is faulty,
    and the first of these decides.  A rejected declaration takes nothing from the allocator
    and leaves the registry as it was; one that succeeds takes an identity and a hash code. -/
theorem rejections_exact (reg : Registry cfg) (d : Declaration reg.size) (alloc : Allocator) :
    (∀ e, (reg.declare d alloc).outcome = .error (.rejected e) ↔ reg.hierarchy.Objection d e) ∧
      (∀ e, (reg.create d alloc).outcome = .error (.rejected e) ↔ reg.hierarchy.Objection d e) ∧
      (∀ name parent, reg.hierarchy.Objection d (.interfaceSuperclass name parent) ↔
        ∃ p, d.superclass = some p ∧ (reg.hierarchy.descriptor p).kind = .interface ∧
          name = d.name ∧ parent = reg.name p) ∧
      ((∃ e, reg.hierarchy.Objection d e) ↔
        (∃ p, d.superclass = some p ∧ (reg.hierarchy.descriptor p).kind = .interface) ∨
          ∃ k, reg.hierarchy.Faulty d.listed k) ∧
      (∀ e, reg.hierarchy.Objection d e →
        reg.declare d alloc = .stop (.rejected e) alloc ∧
          reg.create d alloc = .stop (.rejected e) alloc ∧
          (reg.declare d alloc).after reg = reg ∧ (reg.create d alloc).after reg = reg) ∧
      ((∀ e, ¬ reg.hierarchy.Objection d e) → alloc.serial + 1 < UInt64.size →
        ∃ next, (reg.declare d alloc).outcome = .ok next ∧
          (reg.hierarchy.Declared → cfg.check = .ok () →
            (next.expected reg.size).length < UInt32.size →
            ∃ published, (reg.create d alloc).outcome = .ok published)) ∧
      ∀ next, (reg.declare d alloc).outcome = .ok next →
        ∃ id named, alloc.nextId = .ok (id, named) ∧
          (reg.declare d alloc).source = named.nextCode.2 ∧
          next.size = reg.size + 1 ∧ (next.hierarchy.descriptor reg.size).id = id ∧
          (next.hierarchy.descriptor reg.size).code = named.nextCode.1 ∧
          (∀ r < reg.size, next.hierarchy.descriptor r = reg.hierarchy.descriptor r) ∧
          ∀ r, next.cell r = reg.cell r := by
  refine ⟨fun _ => outcome_declare_eq_rejected_iff, fun _ => outcome_create_eq_rejected_iff,
    fun _ _ => Hierarchy.objection_interfaceSuperclass_iff, Hierarchy.exists_objection_iff,
    ?_, ?_, fun _ => of_declare_eq_ok⟩
  · intro e he
    have hdeclare := declare_of_objection he alloc
    have hcreate := create_of_objection he alloc
    refine ⟨hdeclare, hcreate, ?_, ?_⟩
    · rw [hdeclare]
      rfl
    · rw [hcreate]
      rfl
  · intro hnone hroom
    obtain ⟨fresh, hdraft⟩ := Hierarchy.exists_draft hnone hroom
    have hok : (reg.declare d alloc).outcome = .ok (reg.push fresh) :=
      Logged.outcome_map_eq_ok_iff.2 ⟨fresh, hdraft, rfl⟩
    exact ⟨_, hok, fun hdecl hcheck hfew => exists_create hdecl hcheck hok hfew⟩

def shape : Registry {} × Allocator := declareNext (.empty, default) ⟨"Shape", .ofInterface []⟩

/-- A class that implements it. -/
def circle : Registry {} × Allocator :=
  declareNext shape ⟨"Circle", .ofClass none [⟨0, by decide⟩]⟩

theorem declared_circle : circle.1.hierarchy.Declared :=
  declared_declareNext (declared_declareNext .empty _) _

/-- A class that lists an interface, a class, and the interface again. -/
def blob : Declaration circle.1.size :=
  ⟨"Blob", .ofClass none [⟨0, by decide⟩, ⟨1, by decide⟩, ⟨0, by decide⟩]⟩

/-- The class in the list is found before the repetition behind it, and a list without the two
    is accepted. -/
theorem rejections_of_blob :
    circle.1.create blob circle.2 = .stop (.rejected (.notAnInterface "Blob" "Circle")) circle.2 ∧
      ∃ next, (circle.1.create ⟨"Blob", .ofClass none [⟨0, by decide⟩]⟩ circle.2).outcome =
        .ok next := by
  have hobjection : circle.1.hierarchy.Objection blob (.notAnInterface "Blob" "Circle") := by
    refine .firstFault ?_ ⟨1, 1, ⟨⟨1, rfl, Or.inl rfl⟩, ?_⟩, rfl, rfl⟩
    · rintro p ⟨⟩
    · rintro k ⟨i, hi, hfault⟩
      refine Nat.pos_of_ne_zero ?_
      rintro rfl
      cases hi
      rcases hfault with hclass | ⟨j, hj, -⟩
      · cases hclass
      · cases hj
  obtain ⟨-, -, -, -, hrejected, -, -⟩ := rejections_exact circle.1 blob circle.2
  obtain ⟨hdeclare, -, -, -, -, haccepted, -⟩ :=
    rejections_exact circle.1 ⟨"Blob", .ofClass none [⟨0, by decide⟩]⟩ circle.2
  have hok : (circle.1.declare ⟨"Blob", .ofClass none [⟨0, by decide⟩]⟩ circle.2).outcome =
      .ok _ := rfl
  obtain ⟨next, hnext, hcreate⟩ := haccepted
    (fun e he => by rw [(hdeclare e).2 he] at hok; cases hok) (by decide)
  refine ⟨(hrejected _ hobjection).2.1, hcreate declared_circle rfl ?_⟩
  cases hok.symm.trans hnext
  decide

end Registry

end Supertypes
