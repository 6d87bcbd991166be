/-
  Supertypes/Hierarchy/Declare.lean
  =================================
  **Declaring classes and interfaces.**

  A declaration names its supertypes among the classes that exist already.  It is
  rejected if the superclass is an interface, or if the list of interfaces holds a class
  or holds an interface twice; nothing is drawn then.  Otherwise it draws an identity and
  a hash code, and its descriptor is derived from those of its supertypes: the primary
  array of the superclass is extended if there is room, and the interfaces of all
  supertypes are united.
-/
import Supertypes.Hierarchy.Basic
import Supertypes.Logged

namespace Supertypes

/-! ### Declarations and why they fail -/

/-- The supertypes that a declaration names, among `n` classes. -/
inductive Heritage (n : Nat) where
  | ofClass (parent : Option (Fin n)) (interfaces : List (Fin n))
  | ofInterface (interfaces : List (Fin n))
deriving DecidableEq, Repr

structure Declaration (n : Nat) where
  name : String
  heritage : Heritage n
deriving DecidableEq, Repr

namespace Declaration

variable {n : Nat}

def root (name : String) : Declaration n := ⟨name, .ofClass none []⟩

def superclass (d : Declaration n) : Option Nat :=
  match d.heritage with
  | .ofClass parent _ => parent.map Fin.val
  | .ofInterface _ => none

/-- The interfaces that are listed, in order. -/
def listed (d : Declaration n) : List Nat :=
  match d.heritage with
  | .ofClass _ interfaces => interfaces.map Fin.val
  | .ofInterface interfaces => interfaces.map Fin.val

end Declaration

/-- Why a declaration is rejected.  Each reason has the declared name and the name of the
    supertype at fault. -/
inductive DeclareError where
  | interfaceSuperclass (name parent : String)
  | notAnInterface (name entry : String)
  | duplicateInterface (name entry : String)
deriving DecidableEq, Repr

def DeclareError.message : DeclareError → String
  | interfaceSuperclass name parent =>
    "class `" ++ name ++ "` cannot extend `" ++ parent ++ "`: it is an interface"
  | notAnInterface name entry =>
    "class `" ++ name ++ "` lists `" ++ entry ++ "` as an interface, but it is a class"
  | duplicateInterface name entry =>
    "class `" ++ name ++ "` declares interface `" ++ entry ++ "` more than once"

/-- Why nothing came of a declaration: it was rejected, or something broke. -/
inductive Failure where
  | rejected (error : DeclareError)
  | faulted (fault : Fault)
deriving DecidableEq, Repr

def Failure.message : Failure → String
  | rejected error => error.message
  | faulted fault => fault.message

namespace Hierarchy

variable {cfg : Config}

/-! ### Checking -/

/-- Checks a list of interfaces from left to right, given the identities met so far. -/
def checkInterfaces (h : Hierarchy cfg) (name : String) :
    List ClassId → List Nat → Except DeclareError Unit
  | _, [] => .ok ()
  | seen, i :: rest =>
    let entry := h.descriptor i
    if entry.isInterface = false then .error (.notAnInterface name entry.name)
    else if entry.id ∈ seen then .error (.duplicateInterface name entry.name)
    else h.checkInterfaces name (entry.id :: seen) rest

/-- Checks a declaration: the superclass first, then the interfaces. -/
def check (h : Hierarchy cfg) (d : Declaration h.size) : Except DeclareError Unit :=
  match d.heritage with
  | .ofInterface interfaces => h.checkInterfaces d.name [] (interfaces.map Fin.val)
  | .ofClass none interfaces => h.checkInterfaces d.name [] (interfaces.map Fin.val)
  | .ofClass (some p) interfaces =>
    let parent := h.descriptor p
    if parent.isInterface then .error (.interfaceSuperclass d.name parent.name)
    else h.checkInterfaces d.name [] (interfaces.map Fin.val)

/-! ### Describing -/

/-- Inherited interfaces, followed by listed ones; each comes after the interfaces that
    it extends, and none comes twice. -/
def uniteInterfaces (h : Hierarchy cfg) (inherited listed : List Nat) : List Nat :=
  distinctBy (fun i => (h.descriptor i).id) []
    (inherited ++ listed.flatMap fun i => (h.descriptor i).allInterfaces ++ [i])

def describeClass (h : Hierarchy cfg) (name : String) (parent : Option Nat)
    (interfaces : List Nat) (id : ClassId) (code : UInt32) : Descriptor :=
  let above := parent.map h.descriptor
  let depth := (above.map fun d => d.depth + 1).getD 0
  let inheritedIds := (above.map Descriptor.primarySupers).getD #[]
  let inherited := (above.map Descriptor.allInterfaces).getD []
  { id, name, code, depth, parent, interfaces
    kind := .plainClass
    primarySupers := if depth < cfg.primaryLimit then inheritedIds.push id else inheritedIds
    allInterfaces := h.uniteInterfaces inherited interfaces }

def describeInterface (h : Hierarchy cfg) (name : String) (interfaces : List Nat)
    (id : ClassId) (code : UInt32) : Descriptor where
  id := id
  name := name
  kind := .interface
  code := code
  depth := 0
  parent := none
  primarySupers := #[]
  interfaces := interfaces
  allInterfaces := h.uniteInterfaces [] interfaces

/-- The fields of a declaration, given an identity and a hash code. -/
def fields (h : Hierarchy cfg) (d : Declaration h.size) (id : ClassId) (code : UInt32) :
    Descriptor :=
  match d.heritage with
  | .ofClass parent interfaces =>
    h.describeClass d.name (parent.map Fin.val) (interfaces.map Fin.val) id code
  | .ofInterface interfaces => h.describeInterface d.name (interfaces.map Fin.val) id code

@[simp] theorem fields_id (h : Hierarchy cfg) (d : Declaration h.size) (id : ClassId)
    (code : UInt32) : (h.fields d id code).id = id := by
  unfold fields
  split <;> rfl

@[simp] theorem fields_code (h : Hierarchy cfg) (d : Declaration h.size) (id : ClassId)
    (code : UInt32) : (h.fields d id code).code = code := by
  unfold fields
  split <;> rfl

/-- The supertypes of a descriptor are the ones that were named. -/
@[simp] theorem fields_parent (h : Hierarchy cfg) (d : Declaration h.size) (id : ClassId)
    (code : UInt32) : (h.fields d id code).parent = d.superclass := by
  obtain ⟨name, heritage⟩ := d
  cases heritage <;> rfl

@[simp] theorem fields_interfaces (h : Hierarchy cfg) (d : Declaration h.size) (id : ClassId)
    (code : UInt32) : (h.fields d id code).interfaces = d.listed := by
  obtain ⟨name, heritage⟩ := d
  cases heritage <;> rfl

theorem lt_of_mem_allInterfaces {h : Hierarchy cfg} {r i : Nat}
    (hi : i ∈ (h.descriptor r).allInterfaces) : i < r :=
  lt_of_mem_mentions (h := h) (r := r) (by simp [Descriptor.mentions, hi])

/-- An interface is declared before everything that extends it, so uniting brings in
    nothing later than what is united. -/
theorem lt_of_mem_parts {h : Hierarchy cfg} {inherited listed : List Nat} {bound : Nat}
    (hinherited : ∀ i ∈ inherited, i < bound) (hlisted : ∀ i ∈ listed, i < bound) :
    ∀ i ∈ inherited ++ listed.flatMap fun j => (h.descriptor j).allInterfaces ++ [j],
      i < bound := by
  intro i hi
  simp only [List.mem_append, List.mem_flatMap, List.mem_singleton] at hi
  rcases hi with hi | ⟨j, hj, hi | rfl⟩
  · exact hinherited i hi
  · exact Nat.lt_trans (lt_of_mem_allInterfaces hi) (hlisted j hj)
  · exact hlisted i hj

theorem uniteInterfaces_lt {h : Hierarchy cfg} {inherited listed : List Nat} {bound : Nat}
    (hinherited : ∀ i ∈ inherited, i < bound) (hlisted : ∀ i ∈ listed, i < bound) :
    ∀ i ∈ h.uniteInterfaces inherited listed, i < bound := by
  intro i hi
  exact lt_of_mem_parts hinherited hlisted i ((distinctBy_sublist _ _).mem hi)

/-- The classes that a declaration names exist. -/
theorem lt_of_mem_vals {n : Nat} (named : List (Fin n)) : ∀ i ∈ named.map Fin.val, i < n := by
  intro i hi
  obtain ⟨x, -, rfl⟩ := List.mem_map.1 hi
  exact x.isLt

theorem mentions_fields_lt (h : Hierarchy cfg) (d : Declaration h.size) (id : ClassId)
    (code : UInt32) : ∀ s ∈ (h.fields d id code).mentions, s < h.size := by
  intro s hs
  unfold fields at hs
  split at hs
  · rename_i parent interfaces hd
    simp only [Descriptor.mentions, describeClass, List.mem_append] at hs
    rcases hs with (hs | hs) | hs
    · cases parent with
      | none => simp at hs
      | some p =>
        simp only [Option.map_some, Option.toList_some, List.mem_singleton] at hs
        exact hs ▸ p.isLt
    · exact lt_of_mem_vals _ s hs
    · refine uniteInterfaces_lt ?_ (lt_of_mem_vals _) s hs
      intro i hi
      cases parent with
      | none => simp at hi
      | some p =>
        simp only [Option.map_some, Option.getD_some] at hi
        exact Nat.lt_trans (lt_of_mem_allInterfaces hi) p.isLt
  · rename_i interfaces hd
    simp only [Descriptor.mentions, describeInterface, Option.toList_none, List.nil_append,
      List.mem_append] at hs
    rcases hs with hs | hs
    · exact lt_of_mem_vals _ s hs
    · exact uniteInterfaces_lt (by simp) (lt_of_mem_vals _) s hs

/-! ### Declaring -/

/-- The descriptors that can come next in a hierarchy. -/
def Fresh (h : Hierarchy cfg) : Type := { d : Descriptor // ∀ s ∈ d.mentions, s < h.size }

/-- The descriptor of a declaration with an identity and a hash code. -/
def describe (h : Hierarchy cfg) (d : Declaration h.size) (id : ClassId) (code : UInt32) :
    h.Fresh :=
  ⟨h.fields d id code, h.mentions_fields_lt d id code⟩

/-- Checks a declaration, draws an identity and a hash code, and describes it. -/
def draft (h : Hierarchy cfg) (d : Declaration h.size) (alloc : Allocator) :
    Logged Failure Allocator h.Fresh :=
  match h.check d with
  | .error error => .stop (.rejected error) alloc
  | .ok () =>
    match alloc.nextId with
    | .error fault => .stop (.faulted fault) alloc
    | .ok (id, named) =>
      { outcome := .ok (h.describe d id named.nextCode.1)
        source := named.nextCode.2
        drawn := 1 }

def push (h : Hierarchy cfg) (d : h.Fresh) : Hierarchy cfg where
  descriptors := h.descriptors.push d.val
  mentions_lt := by
    intro r e he s hs
    rw [Array.getElem?_push] at he
    split at he
    · rename_i hr
      cases he
      exact hr ▸ d.property s hs
    · exact h.mentions_lt r e he s hs

/-- Declares a class or an interface: it gets the position after all others. -/
def declare (h : Hierarchy cfg) (d : Declaration h.size) (alloc : Allocator) :
    Logged Failure Allocator (Hierarchy cfg) :=
  (h.draft d alloc).map h.push

@[simp] theorem size_push (h : Hierarchy cfg) (d : h.Fresh) : (h.push d).size = h.size + 1 := by
  simp [push, size]

@[simp] theorem descriptor_push_self (h : Hierarchy cfg) (d : h.Fresh) :
    (h.push d).descriptor h.size = d.val := by
  simp [push, size, descriptor, Array.getD_eq_getD_getElem?]

theorem descriptor_push_of_lt (h : Hierarchy cfg) (d : h.Fresh) {r : Nat} (hr : r < h.size) :
    (h.push d).descriptor r = h.descriptor r := by
  have hne : r ≠ h.descriptors.size := Nat.ne_of_lt hr
  simp [push, descriptor, Array.getD_eq_getD_getElem?, Array.getElem?_push, hne]

end Hierarchy

end Supertypes
