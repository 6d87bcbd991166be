/-
  Supertypes/Hierarchy/Reach.lean
  ===============================
  **The subtype relation that the declarations mean.**

  A declaration draws an edge from the new class to its superclass and to each interface
  that it lists.  `Reaches a b` says that `b` is found from `a` along such edges; it is
  what the subtype tests answer, said without arrays, lists of interfaces or tables.
  Edges lead to earlier declarations, so nothing reaches a later one.
-/
import Supertypes.Hierarchy.Declare

namespace Supertypes.Hierarchy

variable {cfg : Config}

/-- `b` is the superclass of `a` or one of the interfaces that `a` lists. -/
def Direct (h : Hierarchy cfg) (a b : Nat) : Prop :=
  (h.descriptor a).parent = some b ∨ b ∈ (h.descriptor a).interfaces

/-- `b` is `a` or found from `a` along edges. -/
inductive Reaches (h : Hierarchy cfg) : Nat → Nat → Prop where
  | refl (a : Nat) : Reaches h a a
  | step {a b c : Nat} : h.Direct a b → Reaches h b c → Reaches h a c

/-- `b` is found from `a` along one or more superclass edges. -/
inductive Extends (h : Hierarchy cfg) : Nat → Nat → Prop where
  | parent {a b : Nat} : (h.descriptor a).parent = some b → Extends h a b
  | step {a b c : Nat} : (h.descriptor a).parent = some b → Extends h b c → Extends h a c

/-- The hierarchies that declarations make, whatever they draw from. -/
inductive Declared : Hierarchy cfg → Prop where
  | empty : Declared .empty
  | declare {h next : Hierarchy cfg} {d : Declaration h.size} {alloc : Allocator} :
      Declared h → (h.declare d alloc).outcome = .ok next → Declared next

/-! ### Edges and paths -/

variable {h : Hierarchy cfg}

theorem Direct.lt {a b : Nat} (hab : h.Direct a b) : b < a := by
  rcases hab with hp | hi
  · exact parent_lt hp
  · exact lt_of_mem_mentions (h := h) (r := a) (by simp [Descriptor.mentions, hi])

theorem Direct.reaches {a b : Nat} (hab : h.Direct a b) : h.Reaches a b :=
  .step hab (.refl b)

theorem Reaches.trans {a b c : Nat} (hab : h.Reaches a b) (hbc : h.Reaches b c) :
    h.Reaches a c := by
  induction hab with
  | refl => exact hbc
  | step hd _ ih => exact .step hd (ih hbc)

theorem Reaches.le {a b : Nat} (hab : h.Reaches a b) : b ≤ a := by
  induction hab with
  | refl => exact Nat.le_refl _
  | step hd _ ih => exact Nat.le_trans ih (Nat.le_of_lt hd.lt)

theorem Reaches.antisymm {a b : Nat} (hab : h.Reaches a b) (hba : h.Reaches b a) : a = b :=
  Nat.le_antisymm hba.le hab.le

theorem Extends.reaches {a b : Nat} (hab : h.Extends a b) : h.Reaches a b := by
  induction hab with
  | parent hp => exact Direct.reaches (.inl hp)
  | step hp _ ih => exact .step (.inl hp) ih

theorem Extends.lt {a b : Nat} (hab : h.Extends a b) : b < a := by
  induction hab with
  | parent hp => exact parent_lt hp
  | step hp _ ih => exact Nat.lt_trans ih (parent_lt hp)

theorem mem_supers_iff {a b : Nat} : b ∈ h.supers a ↔ h.Extends a b := by
  constructor
  · intro hb
    induction a using Nat.strongRecOn with
    | ind a ih =>
      rw [supers_eq] at hb
      cases hp : (h.descriptor a).parent with
      | none =>
        rw [hp] at hb
        exact absurd hb List.not_mem_nil
      | some p =>
        rw [hp] at hb
        rcases List.mem_cons.1 hb with rfl | hb
        · exact .parent hp
        · exact .step hp (ih p (parent_lt hp) hb)
  · intro hab
    induction hab with
    | parent hp => rw [supers_eq, hp]; exact List.mem_cons_self
    | step hp _ ih => rw [supers_eq, hp]; exact List.mem_cons_of_mem _ ih

end Supertypes.Hierarchy
