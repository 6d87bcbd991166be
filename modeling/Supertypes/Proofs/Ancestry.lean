/-
  Supertypes/Proofs/Ancestry.lean
  ===============================
  **What a declared hierarchy looks like.**

  A descriptor is computed when it is declared, from descriptors that never change
  again.  So the equations of the declaration (`Derived`) hold of it in the finished
  hierarchy as well, and every class of a declared hierarchy is derived
  (`derived_of_declared`).  Its edges are those to the supertypes that were named
  (`direct_of_declare`).  Everything else about ancestry follows from the equations
  by induction on positions, because they lead to earlier classes.

  Two sorts of facts are kept apart.  Some hold whatever the identities are: a list of
  interfaces has interfaces only, no identity comes twice in it, and depth counts
  superclasses.  The others need that different classes have different identities
  (`Identified`): then removing repeated identities removes repeated classes only, so
  that the list of interfaces has every interface that is reached, and an identity in
  a primary array names one class.
-/
import Supertypes.Hierarchy.Reach
import Supertypes.Proofs.Checking

namespace Supertypes.Hierarchy

variable {cfg : Config}

/-! ### The equations of a declaration -/

/-- The interfaces that a class takes over from its superclass. -/
def inherited (h : Hierarchy cfg) (d : Descriptor) : List Nat :=
  match d.parent with
  | none => []
  | some p => (h.descriptor p).allInterfaces

/-- The primary array that a class takes over from its superclass. -/
def inheritedIds (h : Hierarchy cfg) (d : Descriptor) : Array ClassId :=
  match d.parent with
  | none => #[]
  | some p => (h.descriptor p).primarySupers

/-- The fields agree with those of the supertypes, as a declaration makes them. -/
structure Derived (h : Hierarchy cfg) (d : Descriptor) : Prop where
  parent_kind : ∀ p, d.parent = some p → (h.descriptor p).kind = .plainClass
  listed_kind : ∀ i ∈ d.interfaces, (h.descriptor i).kind = .interface
  parent_of_interface : d.kind = .interface → d.parent = none
  depth_root : d.parent = none → d.depth = 0
  depth_child : ∀ p, d.parent = some p → d.depth = (h.descriptor p).depth + 1
  primary_of_interface : d.kind = .interface → d.primarySupers = #[]
  primary_of_class : d.kind = .plainClass → d.primarySupers =
    if d.depth < cfg.primaryLimit then (h.inheritedIds d).push d.id else h.inheritedIds d
  united : d.allInterfaces = h.uniteInterfaces (h.inherited d) d.interfaces

/-! ### New descriptors -/

/-- An accepted declaration is described by its equations. -/
theorem derived_fields {h : Hierarchy cfg} {d : Declaration h.size} (hok : h.check d = .ok ())
    (id : ClassId) (code : UInt32) : h.Derived (h.fields d id code) := by
  obtain ⟨hparent, hlisted⟩ := kinds_of_check hok
  rw [← h.fields_parent d id code] at hparent
  rw [← h.fields_interfaces d id code] at hlisted
  obtain ⟨name, heritage⟩ := d
  cases heritage with
  | ofClass parent listed =>
    cases parent with
    | none =>
      refine ⟨hparent, hlisted, ?_, fun _ => rfl, ?_, ?_, fun _ => rfl, rfl⟩
      · rintro ⟨⟩
      · rintro p ⟨⟩
      · rintro ⟨⟩
    | some q =>
      refine ⟨hparent, hlisted, ?_, ?_, ?_, ?_, fun _ => rfl, rfl⟩
      · rintro ⟨⟩
      · rintro ⟨⟩
      · rintro p ⟨⟩
        rfl
      · rintro ⟨⟩
  | ofInterface listed =>
    refine ⟨hparent, hlisted, fun _ => rfl, fun _ => rfl, ?_, fun _ => rfl, ?_, rfl⟩
    · rintro p ⟨⟩
    · rintro ⟨⟩

/-- A draft fails and draws nothing, or it is an accepted declaration that draws an identity
    and then a hash code. -/
theorem draft_cases (h : Hierarchy cfg) (d : Declaration h.size) (alloc : Allocator) :
    (∃ failure, h.draft d alloc = .stop failure alloc) ∨
      h.check d = .ok () ∧ ∃ id named, alloc.nextId = .ok (id, named) ∧
        h.draft d alloc =
          { outcome := .ok (h.describe d id named.nextCode.1)
            source := named.nextCode.2
            drawn := 1 } := by
  unfold draft
  cases hcheck : h.check d with
  | error error => exact Or.inl ⟨_, rfl⟩
  | ok =>
    cases hid : alloc.nextId with
    | error fault => exact Or.inl ⟨_, rfl⟩
    | ok issued => exact Or.inr ⟨rfl, issued.1, issued.2, rfl, rfl⟩

/-- A draft that succeeds is an accepted declaration with the next identity. -/
theorem draft_eq_ok {h : Hierarchy cfg} {d : Declaration h.size} {alloc : Allocator}
    {fresh : h.Fresh} (hok : (h.draft d alloc).outcome = .ok fresh) :
    h.check d = .ok () ∧ ∃ code, fresh = h.describe d ⟨alloc.serial + 1⟩ code ∧
      (h.draft d alloc).source.serial = alloc.serial + 1 := by
  rcases draft_cases h d alloc with ⟨failure, hdraft⟩ | ⟨hcheck, id, named, hid, hdraft⟩
  · rw [hdraft] at hok
    cases hok
  · obtain ⟨rfl, rfl⟩ := Allocator.of_nextId_eq_ok hid
    rw [hdraft] at hok ⊢
    cases hok
    exact ⟨hcheck, _, rfl, rfl⟩

theorem derived_of_draft {h : Hierarchy cfg} {d : Declaration h.size} {alloc : Allocator}
    {fresh : h.Fresh} (hok : (h.draft d alloc).outcome = .ok fresh) : h.Derived fresh.val := by
  obtain ⟨hcheck, code, rfl, -⟩ := draft_eq_ok hok
  exact derived_fields hcheck _ code

/-! ### Hierarchies that begin alike -/

/-- The first classes of two hierarchies are the same. -/
def Agree (n : Nat) (h next : Hierarchy cfg) : Prop :=
  ∀ s, s < n → next.descriptor s = h.descriptor s

theorem agree_push (h : Hierarchy cfg) (d : h.Fresh) : Agree h.size h (h.push d) :=
  fun _ hs => h.descriptor_push_of_lt d hs

/-- A new class has edges to the supertypes that its declaration names and to no others, and
    the edges between the other classes stay. -/
theorem direct_of_declare {h next : Hierarchy cfg} {d : Declaration h.size} {alloc : Allocator}
    (hok : (h.declare d alloc).outcome = .ok next) :
    (∀ s, next.Direct h.size s ↔ d.superclass = some s ∨ s ∈ d.listed) ∧
      ∀ r < h.size, ∀ s, next.Direct r s ↔ h.Direct r s := by
  obtain ⟨fresh, hdraft, rfl⟩ := Logged.outcome_map_eq_ok_iff.1 hok
  obtain ⟨-, code, rfl, -⟩ := draft_eq_ok hdraft
  constructor
  · intro s
    unfold Direct
    rw [descriptor_push_self]
    simp only [describe, fields_parent, fields_interfaces]
  · intro r hr s
    unfold Direct
    rw [agree_push h _ r hr]

section

variable {h next : Hierarchy cfg} {n : Nat} (hagree : Agree n h next)
include hagree

theorem Agree.uniteInterfaces {inherited listed : List Nat} (hinherited : ∀ i ∈ inherited, i < n)
    (hlisted : ∀ i ∈ listed, i < n) :
    next.uniteInterfaces inherited listed = h.uniteInterfaces inherited listed := by
  have hunited : (listed.flatMap fun i => (next.descriptor i).allInterfaces ++ [i]) =
      listed.flatMap fun i => (h.descriptor i).allInterfaces ++ [i] := by
    rw [List.flatMap_def, List.flatMap_def]
    apply congrArg
    apply List.map_congr_left
    intro i hi
    rw [hagree i (hlisted i hi)]
  unfold Hierarchy.uniteInterfaces
  rw [hunited]
  apply distinctBy_congr
  intro i hi
  rw [hagree i (lt_of_mem_parts hinherited hlisted i hi)]

/-- Later declarations leave the equations of a class as they are. -/
theorem Agree.derived {d : Descriptor} (hmentions : ∀ s ∈ d.mentions, s < n) (hd : h.Derived d) :
    next.Derived d := by
  have hparent : ∀ p, d.parent = some p → next.descriptor p = h.descriptor p := by
    intro p hp
    exact hagree p (hmentions p (by simp [Descriptor.mentions, hp]))
  have hlisted : ∀ i ∈ d.interfaces, i < n := by
    intro i hi
    exact hmentions i (by simp [Descriptor.mentions, hi])
  have hinherited : next.inherited d = h.inherited d := by
    unfold inherited
    cases hp : d.parent with
    | none => rfl
    | some p => simp only [hparent p hp]
  have hids : next.inheritedIds d = h.inheritedIds d := by
    unfold inheritedIds
    cases hp : d.parent with
    | none => rfl
    | some p => simp only [hparent p hp]
  have hbelow : ∀ i ∈ h.inherited d, i < n := by
    intro i hi
    unfold inherited at hi
    cases hp : d.parent with
    | none =>
      rw [hp] at hi
      exact absurd hi List.not_mem_nil
    | some p =>
      rw [hp] at hi
      have hlt : p < n := hmentions p (by simp [Descriptor.mentions, hp])
      exact Nat.lt_trans (lt_of_mem_allInterfaces hi) hlt
  refine ⟨?_, ?_, hd.parent_of_interface, hd.depth_root, ?_, hd.primary_of_interface, ?_, ?_⟩
  · intro p hp
    rw [hparent p hp]
    exact hd.parent_kind p hp
  · intro i hi
    rw [hagree i (hlisted i hi)]
    exact hd.listed_kind i hi
  · intro p hp
    rw [hparent p hp]
    exact hd.depth_child p hp
  · rw [hids]
    exact hd.primary_of_class
  · rw [hinherited, hagree.uniteInterfaces hbelow hlisted]
    exact hd.united

end

/-! ### Declared hierarchies -/

/-- Every class of a declared hierarchy is derived from its supertypes. -/
theorem derived_of_declared {h : Hierarchy cfg} (hdecl : h.Declared) {r : Nat} (hr : r < h.size) :
    h.Derived (h.descriptor r) := by
  induction hdecl generalizing r with
  | empty => exact absurd hr (Nat.not_lt_zero r)
  | @declare h next d alloc _ hok ih =>
    obtain ⟨fresh, hdraft, rfl⟩ := Logged.outcome_map_eq_ok_iff.1 hok
    have hagree := agree_push h fresh
    rw [size_push] at hr
    by_cases hlast : r = h.size
    · rw [hlast, descriptor_push_self]
      exact hagree.derived fresh.property (derived_of_draft hdraft)
    · have hbefore : r < h.size := by omega
      rw [hagree r hbefore]
      refine hagree.derived ?_ (ih hbefore)
      intro s hs
      exact Nat.lt_trans (lt_of_mem_mentions hs) hbefore

end Supertypes.Hierarchy
