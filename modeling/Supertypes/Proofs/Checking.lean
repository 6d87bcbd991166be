/-
  Supertypes/Proofs/Checking.lean
  ===============================
  **Which declarations pass the check.**

  A declaration is rejected for its superclass or for the first entry of its list that cannot
  stand there (`Hierarchy.Objection`).  The list is checked in one pass with the identities met
  so far; the induction keeps what was read before the rest, in which nothing is faulty, so
  that the entry at which the pass stops is the first of the whole list
  (`checkInterfaces_cases`).

  There is at most one objection, and the check finds it if there is one
  (`check_eq_error_iff`, `check_eq_ok_iff`).
-/
import Mathlib.Order.Bounds.Basic
import Mathlib.Order.Nat
import Supertypes.Hierarchy.Declare

namespace Supertypes

namespace Hierarchy

variable {cfg : Config}

/-! ### Objections -/

/-- The entry at a position is a class, or its identity is that of an earlier entry. -/
def Faulty (h : Hierarchy cfg) (listed : List Nat) (k : Nat) : Prop :=
  ∃ i, listed[k]? = some i ∧ ((h.descriptor i).kind = .plainClass ∨
    ∃ j < k, ∃ e, listed[j]? = some e ∧ (h.descriptor e).id = (h.descriptor i).id)

/-- What is said against a faulty entry: an interface can only be faulty by repetition. -/
def complaint (h : Hierarchy cfg) (name : String) (i : Nat) : DeclareError :=
  match (h.descriptor i).kind with
  | .plainClass => .notAnInterface name (h.descriptor i).name
  | .interface => .duplicateInterface name (h.descriptor i).name

/-- The complaint about the first faulty entry. -/
def FirstFault (h : Hierarchy cfg) (name : String) (listed : List Nat) (e : DeclareError) : Prop :=
  ∃ k i, IsLeast {k | h.Faulty listed k} k ∧ listed[k]? = some i ∧ e = h.complaint name i

/-- Why a declaration cannot be accepted.  The superclass comes before the list. -/
inductive Objection (h : Hierarchy cfg) (d : Declaration h.size) : DeclareError → Prop where
  | interfaceSuperclass {p : Nat} : d.superclass = some p →
      (h.descriptor p).kind = .interface →
      Objection h d (.interfaceSuperclass d.name (h.descriptor p).name)
  | firstFault {e : DeclareError} :
      (∀ p, d.superclass = some p → (h.descriptor p).kind = .plainClass) →
      h.FirstFault d.name d.listed e → Objection h d e

variable {h : Hierarchy cfg}

theorem FirstFault.unique {name : String} {listed : List Nat} {e e' : DeclareError}
    (he : h.FirstFault name listed e) (he' : h.FirstFault name listed e') : e = e' := by
  obtain ⟨k, i, hleast, hi, rfl⟩ := he
  obtain ⟨k', i', hleast', hi', rfl⟩ := he'
  rw [hleast.unique hleast', hi'] at hi
  rw [Option.some.inj hi]

theorem exists_firstFault_iff {name : String} {listed : List Nat} :
    (∃ e, h.FirstFault name listed e) ↔ ∃ k, h.Faulty listed k := by
  classical
  constructor
  · rintro ⟨e, k, i, hleast, -⟩
    exact ⟨k, hleast.1⟩
  · intro hfaulty
    obtain ⟨i, hi, -⟩ := Nat.find_spec hfaulty
    exact ⟨_, Nat.find hfaulty, i, Nat.isLeast_find hfaulty, hi, rfl⟩

/-- An entry is faulty by itself or for what was read before it. -/
theorem faulty_length_iff {before rest : List Nat} {i : Nat} :
    h.Faulty (before ++ i :: rest) before.length ↔ (h.descriptor i).kind = .plainClass ∨
      ∃ e ∈ before, (h.descriptor e).id = (h.descriptor i).id := by
  have hentry : (before ++ i :: rest)[before.length]? = some i := by simp
  have hearlier : (∃ j < before.length, ∃ e, (before ++ i :: rest)[j]? = some e ∧
      (h.descriptor e).id = (h.descriptor i).id) ↔
      ∃ e ∈ before, (h.descriptor e).id = (h.descriptor i).id := by
    constructor
    · rintro ⟨j, hj, e, he, hid⟩
      rw [List.getElem?_append_left hj] at he
      exact ⟨e, List.mem_of_getElem? he, hid⟩
    · rintro ⟨e, he, hid⟩
      obtain ⟨j, hj, rfl⟩ := List.getElem_of_mem he
      exact ⟨j, hj, _, by rw [List.getElem?_append_left hj, List.getElem?_eq_getElem hj], hid⟩
  unfold Faulty
  rw [hentry, ← hearlier]
  simp only [Option.some.injEq, exists_eq_left']

/-! ### Checking a list -/

/-- The rest of a list is checked with the identities of what was read before.  Either nothing
    is faulty or the pass stops at the first faulty entry of the whole list. -/
theorem checkInterfaces_cases (name : String) {seen : List ClassId} {before rest : List Nat}
    (hseen : ∀ id, id ∈ seen ↔ ∃ e ∈ before, (h.descriptor e).id = id)
    (hclean : ∀ k < before.length, ¬ h.Faulty (before ++ rest) k) :
    h.checkInterfaces name seen rest = .ok () ∧ (∀ k, ¬ h.Faulty (before ++ rest) k) ∨
      ∃ e, h.checkInterfaces name seen rest = .error e ∧ h.FirstFault name (before ++ rest) e := by
  induction rest generalizing seen before with
  | nil =>
    refine Or.inl ⟨rfl, ?_⟩
    rintro k ⟨i, hi, hfault⟩
    have hk : k < before.length := by
      rw [List.append_nil] at hi
      exact (List.getElem?_eq_some_iff.1 hi).1
    exact hclean k hk ⟨i, hi, hfault⟩
  | cons i rest ih =>
    have hentry : (before ++ i :: rest)[before.length]? = some i := by simp
    have hfirst : h.Faulty (before ++ i :: rest) before.length →
        h.FirstFault name (before ++ i :: rest) (h.complaint name i) := by
      intro hfaulty
      refine ⟨before.length, i, ⟨hfaulty, ?_⟩, hentry, rfl⟩
      intro k hk
      exact Nat.le_of_not_lt fun hlt => hclean k hlt hk
    simp only [checkInterfaces, Descriptor.isInterface_eq_false_iff]
    cases hkind : (h.descriptor i).kind with
    | plainClass =>
      have hcomplaint : h.complaint name i = .notAnInterface name (h.descriptor i).name := by
        rw [complaint, hkind]
      exact Or.inr ⟨_, if_pos rfl, hcomplaint ▸ hfirst (faulty_length_iff.2 (Or.inl hkind))⟩
    | interface =>
      have hcomplaint : h.complaint name i = .duplicateInterface name (h.descriptor i).name := by
        rw [complaint, hkind]
      rw [if_neg (by decide)]
      by_cases hid : (h.descriptor i).id ∈ seen
      · exact Or.inr ⟨_, if_pos hid,
          hcomplaint ▸ hfirst (faulty_length_iff.2 (Or.inr ((hseen _).1 hid)))⟩
      · -- the entry is read, and the pass goes on behind it
        have hsound : ¬ h.Faulty (before ++ i :: rest) before.length := by
          rw [faulty_length_iff, hkind, ← hseen]
          rintro (hclass | hmem)
          · cases hclass
          · exact hid hmem
        have hsplit : before ++ i :: rest = (before ++ [i]) ++ rest := by simp
        rw [if_neg hid]
        rw [hsplit] at hclean hsound ⊢
        apply ih
        · intro id
          rw [List.mem_cons, hseen]
          simp only [List.mem_append, List.mem_singleton]
          constructor
          · rintro (rfl | ⟨e, he, rfl⟩)
            · exact ⟨i, Or.inr rfl, rfl⟩
            · exact ⟨e, Or.inl he, rfl⟩
          · rintro ⟨e, he | rfl, rfl⟩
            · exact Or.inr ⟨e, he, rfl⟩
            · exact Or.inl rfl
        · intro k hk
          rw [List.length_append, List.length_singleton] at hk
          rcases Nat.lt_succ_iff_lt_or_eq.1 hk with hlt | rfl
          · exact hclean k hlt
          · exact hsound

theorem checkInterfaces_nil_cases (h : Hierarchy cfg) (name : String) (listed : List Nat) :
    h.checkInterfaces name [] listed = .ok () ∧ (∀ k, ¬ h.Faulty listed k) ∨
      ∃ e, h.checkInterfaces name [] listed = .error e ∧ h.FirstFault name listed e := by
  have hcases := @checkInterfaces_cases cfg h name [] [] listed (by simp) (by simp)
  rwa [List.nil_append] at hcases

/-! ### Checking a declaration -/

/-- A declaration is checked by its superclass and then by its list. -/
theorem check_eq (h : Hierarchy cfg) (d : Declaration h.size) : h.check d =
    match d.superclass with
    | none => h.checkInterfaces d.name [] d.listed
    | some p =>
      if (h.descriptor p).isInterface then
        .error (.interfaceSuperclass d.name (h.descriptor p).name)
      else h.checkInterfaces d.name [] d.listed := by
  obtain ⟨name, heritage⟩ := d
  cases heritage with
  | ofInterface listed => rfl
  | ofClass parent listed =>
    cases parent with
    | none => rfl
    | some p => rfl

/-- The check accepts a declaration or finds an objection to it. -/
theorem check_cases (h : Hierarchy cfg) (d : Declaration h.size) :
    h.check d = .ok () ∧ (∀ e, ¬ h.Objection d e) ∨ ∃ e, h.check d = .error e ∧ h.Objection d e := by
  rw [check_eq]
  have hlist : (∀ p, d.superclass = some p → (h.descriptor p).kind = .plainClass) →
      h.checkInterfaces d.name [] d.listed = .ok () ∧ (∀ e, ¬ h.Objection d e) ∨
        ∃ e, h.checkInterfaces d.name [] d.listed = .error e ∧ h.Objection d e := by
    intro hclass
    rcases h.checkInterfaces_nil_cases d.name d.listed with ⟨hok, hsound⟩ | ⟨e, herror, hfault⟩
    · refine Or.inl ⟨hok, ?_⟩
      intro e he
      cases he with
      | interfaceSuperclass hp hkind =>
        rw [hclass _ hp] at hkind
        cases hkind
      | firstFault _ hfault =>
        obtain ⟨k, hk⟩ := exists_firstFault_iff.1 ⟨_, hfault⟩
        exact hsound k hk
    · exact Or.inr ⟨e, herror, .firstFault hclass hfault⟩
  cases hp : d.superclass with
  | none => exact hlist fun p hp' => absurd (hp.symm.trans hp') (by simp)
  | some p =>
    cases hkind : (h.descriptor p).kind with
    | interface =>
      exact Or.inr ⟨_, if_pos (Descriptor.isInterface_eq_true_iff.2 hkind),
        .interfaceSuperclass hp hkind⟩
    | plainClass =>
      have hclass : ¬ (h.descriptor p).isInterface = true := by
        rw [Descriptor.isInterface_eq_true_iff, hkind]
        decide
      simp only [if_neg hclass]
      apply hlist
      intro q hq
      rwa [← Option.some.inj (hp.symm.trans hq)]

theorem Objection.unique {d : Declaration h.size} {e e' : DeclareError} (he : h.Objection d e)
    (he' : h.Objection d e') : e = e' := by
  cases he with
  | interfaceSuperclass hp hkind =>
    cases he' with
    | interfaceSuperclass hp' _ =>
      rw [Option.some.inj (hp.symm.trans hp')]
    | firstFault hclass _ =>
      rw [hclass _ hp] at hkind
      cases hkind
  | firstFault hclass hfault =>
    cases he' with
    | interfaceSuperclass hp hkind =>
      rw [hclass _ hp] at hkind
      cases hkind
    | firstFault _ hfault' => exact hfault.unique hfault'

theorem check_eq_error_iff {d : Declaration h.size} {e : DeclareError} :
    h.check d = .error e ↔ h.Objection d e := by
  rcases h.check_cases d with ⟨hok, hnone⟩ | ⟨e', herror, he'⟩
  · rw [hok]
    exact iff_of_false (by simp) (hnone e)
  · rw [herror, Except.error.injEq]
    constructor
    · rintro rfl
      exact he'
    · exact he'.unique

theorem check_eq_ok_iff {d : Declaration h.size} :
    h.check d = .ok () ↔ ∀ e, ¬ h.Objection d e := by
  rcases h.check_cases d with ⟨hok, hnone⟩ | ⟨e, herror, he⟩
  · exact iff_of_true hok hnone
  · rw [herror]
    exact iff_of_false (by simp) fun hnone => hnone e he

/-- There is an objection to an interface as superclass and to any faulty entry. -/
theorem exists_objection_iff {d : Declaration h.size} : (∃ e, h.Objection d e) ↔
    (∃ p, d.superclass = some p ∧ (h.descriptor p).kind = .interface) ∨
      ∃ k, h.Faulty d.listed k := by
  constructor
  · rintro ⟨e, he⟩
    cases he with
    | interfaceSuperclass hp hkind => exact Or.inl ⟨_, hp, hkind⟩
    | firstFault _ hfault => exact Or.inr (exists_firstFault_iff.1 ⟨_, hfault⟩)
  · intro hfault
    by_cases hparent : ∃ p, d.superclass = some p ∧ (h.descriptor p).kind = .interface
    · obtain ⟨p, hp, hkind⟩ := hparent
      exact ⟨_, .interfaceSuperclass hp hkind⟩
    · obtain ⟨e, he⟩ := exists_firstFault_iff.2 (hfault.resolve_left hparent)
      refine ⟨e, .firstFault ?_ he⟩
      intro p hp
      cases hkind : (h.descriptor p).kind with
      | plainClass => rfl
      | interface => exact absurd ⟨p, hp, hkind⟩ hparent

/-- The list gives no reason to complain about the superclass. -/
theorem objection_interfaceSuperclass_iff {d : Declaration h.size} {name parent : String} :
    h.Objection d (.interfaceSuperclass name parent) ↔
      ∃ p, d.superclass = some p ∧ (h.descriptor p).kind = .interface ∧
        name = d.name ∧ parent = (h.descriptor p).name := by
  constructor
  · intro he
    cases he with
    | interfaceSuperclass hp hkind => exact ⟨_, hp, hkind, rfl, rfl⟩
    | firstFault _ hfault =>
      obtain ⟨_, i, -, -, hcomplaint⟩ := hfault
      unfold complaint at hcomplaint
      split at hcomplaint <;> cases hcomplaint
  · rintro ⟨p, hp, hkind, rfl, rfl⟩
    exact .interfaceSuperclass hp hkind

/-- A declaration that passes has a class as its superclass and lists interfaces only. -/
theorem kinds_of_check {d : Declaration h.size} (hok : h.check d = .ok ()) :
    (∀ p, d.superclass = some p → (h.descriptor p).kind = .plainClass) ∧
      ∀ i ∈ d.listed, (h.descriptor i).kind = .interface := by
  have hsound := mt exists_objection_iff.2 (not_exists.2 (check_eq_ok_iff.1 hok))
  rw [not_or] at hsound
  constructor
  · intro p hp
    cases hkind : (h.descriptor p).kind with
    | plainClass => rfl
    | interface => exact absurd ⟨p, hp, hkind⟩ hsound.1
  · intro i hi
    obtain ⟨k, hk⟩ := List.mem_iff_getElem?.1 hi
    cases hkind : (h.descriptor i).kind with
    | plainClass => exact absurd ⟨k, i, hk, Or.inl hkind⟩ hsound.2
    | interface => rfl

end Hierarchy

end Supertypes
