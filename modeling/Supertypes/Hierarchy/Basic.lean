/-
  Supertypes/Hierarchy/Basic.lean
  ===============================
  **Classes, interfaces and their supertypes.**

  A hierarchy is a sequence of descriptors in the order of their declaration, and a
  class is named by its position.  A descriptor mentions only classes declared before
  it, so chains of superclasses end; the type carries that fact.

  Supertypes are of two sorts.  The superclasses of small depth are *primary*: they are
  kept in an array, where one comparison finds them.  All interfaces, and the
  superclasses that overflow the array, are *secondary*; they are the candidates for the
  lookup table of a class.
-/
import Supertypes.Allocator
import Supertypes.Distinct
import Supertypes.SlotIndex
import Supertypes.Text.Quoted

namespace Supertypes

inductive Kind where
  /-- A class, which may extend one other class. -/
  | plainClass
  /-- An interface, which is never a primary supertype. -/
  | interface
deriving DecidableEq, Repr

def Kind.text : Kind → String
  | plainClass => "Class"
  | interface => "Interface"

/-- What a declaration fixes about a class or an interface. -/
structure Descriptor where
  id : ClassId
  name : String
  kind : Kind
  code : UInt32
  /-- The number of superclasses. -/
  depth : Nat
  parent : Option Nat
  /-- The identities of the first superclasses, root first, with its own if it fits. -/
  primarySupers : Array ClassId
  /-- The interfaces listed in the declaration. -/
  interfaces : List Nat
  /-- The interfaces implemented directly or indirectly. -/
  allInterfaces : List Nat
deriving DecidableEq, Repr

namespace Descriptor

def isInterface (d : Descriptor) : Bool := d.kind == .interface

theorem isInterface_eq_true_iff {d : Descriptor} : d.isInterface = true ↔ d.kind = .interface :=
  beq_iff_eq

theorem isInterface_eq_false_iff {d : Descriptor} : d.isInterface = false ↔ d.kind = .plainClass := by
  unfold isInterface
  cases d.kind with
  | plainClass => exact iff_of_true rfl rfl
  | interface => exact iff_of_false (by decide) (by decide)

/-- The other classes that a descriptor names. -/
def mentions (d : Descriptor) : List Nat := d.parent.toList ++ d.interfaces ++ d.allInterfaces

/-- The descriptor of a position where nothing is declared. -/
def blank : Descriptor where
  id := ⟨0⟩
  name := ""
  kind := .plainClass
  code := 0
  depth := 0
  parent := none
  primarySupers := #[]
  interfaces := []
  allInterfaces := []

def text (d : Descriptor) : String :=
  Text.Record.compact
    { name := "Class"
      fields :=
        [("id", d.id.text), ("name", Text.quoted d.name), ("kind", d.kind.text),
          ("hash_code", Text.hexHalf d.code), ("depth", toString d.depth)]
      openEnded := true }

end Descriptor

/-- Descriptors in the order of declaration; each mentions earlier ones only. -/
structure Hierarchy (cfg : Config) where
  descriptors : Array Descriptor
  mentions_lt : ∀ (r : Nat) (d : Descriptor), descriptors[r]? = some d → ∀ s ∈ d.mentions, s < r

namespace Hierarchy

variable {cfg : Config}

def empty : Hierarchy cfg where
  descriptors := #[]
  mentions_lt := by simp

def size (h : Hierarchy cfg) : Nat := h.descriptors.size

def descriptor (h : Hierarchy cfg) (r : Nat) : Descriptor := h.descriptors.getD r .blank

theorem lt_of_mem_mentions {h : Hierarchy cfg} {r s : Nat}
    (hs : s ∈ (h.descriptor r).mentions) : s < r := by
  unfold descriptor at hs
  rw [Array.getD_eq_getD_getElem?] at hs
  cases hd : h.descriptors[r]? with
  | none =>
    rw [hd] at hs
    exact absurd hs List.not_mem_nil
  | some d =>
    rw [hd] at hs
    exact h.mentions_lt r d hd s hs

/-! ### Superclasses -/

/-- Up to a number of superclasses, nearest first. -/
def chain (h : Hierarchy cfg) : Nat → Nat → List Nat
  | 0, _ => []
  | steps + 1, r =>
    match (h.descriptor r).parent with
    | none => []
    | some p => p :: h.chain steps p

/-- All superclasses, nearest first.  Each is declared before the one it is the
    superclass of, so there are no more of them than earlier declarations. -/
def supers (h : Hierarchy cfg) (r : Nat) : List Nat := h.chain r r

theorem parent_lt {h : Hierarchy cfg} {r p : Nat} (hp : (h.descriptor r).parent = some p) :
    p < r :=
  lt_of_mem_mentions (h := h) (r := r) (by simp [Descriptor.mentions, hp])

/-- More steps than earlier declarations find nothing more. -/
theorem chain_eq_supers {h : Hierarchy cfg} {steps : Nat} {r : Nat} (hr : r ≤ steps) :
    h.chain steps r = h.supers r := by
  have general : ∀ (n m : Nat) (r : Nat), r ≤ n → r ≤ m → h.chain n r = h.chain m r := by
    intro n
    induction n with
    | zero =>
      intro m r hn hm
      have : r = 0 := by omega
      subst this
      cases m with
      | zero => rfl
      | succ m =>
        unfold chain
        cases hp : (h.descriptor 0).parent with
        | none => rfl
        | some p => exact absurd (parent_lt hp) (Nat.not_lt_zero p)
    | succ n ih =>
      intro m r hn hm
      cases m with
      | zero =>
        have : r = 0 := by omega
        subst this
        unfold chain
        cases hp : (h.descriptor 0).parent with
        | none => rfl
        | some p => exact absurd (parent_lt hp) (Nat.not_lt_zero p)
      | succ m =>
        unfold chain
        cases hp : (h.descriptor r).parent with
        | none => rfl
        | some p =>
          have := parent_lt hp
          simp only [ih m p (by omega) (by omega)]
  exact general steps r r hr (Nat.le_refl r)

theorem supers_eq (h : Hierarchy cfg) (r : Nat) :
    h.supers r =
      match (h.descriptor r).parent with
      | none => []
      | some p => p :: h.supers p := by
  rw [← chain_eq_supers (Nat.le_succ r), chain]
  cases hp : (h.descriptor r).parent with
  | none => rfl
  | some p => simp only [chain_eq_supers (Nat.le_of_lt (parent_lt hp))]

def isSubclass (h : Hierarchy cfg) (a b : Nat) : Bool := a == b || (h.supers a).contains b

/-! ### Primary supertypes -/

/-- Whether a class fits into the primary arrays of its subclasses. -/
def canBePrimary (h : Hierarchy cfg) (r : Nat) : Bool :=
  (h.descriptor r).kind == .plainClass && decide ((h.descriptor r).depth < cfg.primaryLimit)

def primarySuper? (h : Hierarchy cfg) (r : Nat) (depth : Nat) : Option ClassId :=
  (h.descriptor r).primarySupers[depth]?

/-! ### Secondary supertypes -/

/-- The superclasses that do not fit into the primary array, nearest first. -/
def overflowSupers (h : Hierarchy cfg) (r : Nat) : List Nat :=
  (h.supers r).takeWhile fun s => !h.canBePrimary s

/-- Looks for `b` among the overflowed superclasses and the interfaces of `a`. -/
def scanSecondary (h : Hierarchy cfg) (a b : Nat) : Bool :=
  (h.overflowSupers a).contains b || (h.descriptor a).allInterfaces.contains b

/-- The secondary supertypes of a class, in two groups. -/
structure Candidates where
  /-- Overflowed superclasses, nearest first. -/
  primaries : List Nat
  secondaries : List Nat
deriving DecidableEq, Repr

/-- What the table of a class has to hold.  A superclass whose identity is already taken
    is left out. -/
def candidates (h : Hierarchy cfg) (r : Nat) : Candidates :=
  let interfaces := (h.descriptor r).allInterfaces
  let taken := interfaces.map fun i => (h.descriptor i).id
  { primaries := distinctBy (fun s => (h.descriptor s).id) taken (h.overflowSupers r)
    secondaries := interfaces }

/-! ### Members of tables -/

end Hierarchy

/-- A class as it is stored in tables: its name and its hash code. -/
structure Member where
  ref : Nat
  code : UInt32
deriving DecidableEq, Repr

instance : Coded Member := ⟨Member.code⟩

namespace Hierarchy

variable {cfg : Config}

def member (h : Hierarchy cfg) (r : Nat) : Member := ⟨r, (h.descriptor r).code⟩

end Hierarchy

end Supertypes
