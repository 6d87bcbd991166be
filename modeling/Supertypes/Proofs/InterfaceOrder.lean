/-
  Supertypes/Proofs/InterfaceOrder.lean
  =====================================
  **The order of interfaces.**

  The list of interfaces of a class is put together from the lists of its supertypes, and
  of an interface that occurs more than once the first occurrence is kept.  In the list
  that results every interface comes after the interfaces that it extends
  (`inOrder_allInterfaces`).

  The order is kept because a list is always taken over whole.  In each of the parts an
  interface follows what it extends, so the same holds of the parts one after another, and
  leaving out what was met before changes nothing about what has been met (`InOrder.distinctBy`).
  The part of the superclass comes first and repeats nothing, so it stays as it is.
-/
import Supertypes.Proofs.Contents

namespace Supertypes

namespace Hierarchy

variable {cfg : Config} {h : Hierarchy cfg} {met met' xs ys : List Nat}

/-! ### Lists in order -/

/-- Each interface of the list extends only interfaces that were met before: earlier ones of
    the list, or some from before the list. -/
def InOrder (h : Hierarchy cfg) : List Nat → List Nat → Prop
  | _, [] => True
  | met, i :: rest => (∀ j ∈ (h.descriptor i).allInterfaces, j ∈ met) ∧ h.InOrder (i :: met) rest

theorem InOrder.mono (hxs : h.InOrder met xs) (hsub : met ⊆ met') : h.InOrder met' xs := by
  induction xs generalizing met met' with
  | nil => trivial
  | cons i rest ih =>
    refine ⟨fun j hj => hsub (hxs.1 j hj), ih hxs.2 ?_⟩
    exact List.cons_subset_cons i hsub

theorem InOrder.append (hxs : h.InOrder met xs) (hys : h.InOrder met ys) :
    h.InOrder met (xs ++ ys) := by
  induction xs generalizing met with
  | nil => exact hys
  | cons i rest ih =>
    exact ⟨hxs.1, ih hxs.2 (hys.mono (List.subset_cons_self i met))⟩

/-- An interface may come last if the list has all that it extends. -/
theorem InOrder.concat {i : Nat} (hxs : h.InOrder met xs)
    (hi : ∀ j ∈ (h.descriptor i).allInterfaces, j ∈ met ∨ j ∈ xs) :
    h.InOrder met (xs ++ [i]) := by
  induction xs generalizing met with
  | nil =>
    refine ⟨?_, trivial⟩
    intro j hj
    exact (hi j hj).resolve_right List.not_mem_nil
  | cons k rest ih =>
    refine ⟨hxs.1, ih hxs.2 ?_⟩
    intro j hj
    rcases hi j hj with hmet | hmem
    · exact Or.inl (List.mem_cons_of_mem k hmet)
    · rcases List.mem_cons.1 hmem with rfl | hmem
      · exact Or.inl List.mem_cons_self
      · exact Or.inr hmem

theorem InOrder.flatMap {f : Nat → List Nat} (hf : ∀ x ∈ xs, h.InOrder met (f x)) :
    h.InOrder met (xs.flatMap f) := by
  induction xs with
  | nil => trivial
  | cons x xs ih =>
    rw [List.forall_mem_cons] at hf
    rw [List.flatMap_cons]
    exact hf.1.append (ih hf.2)

/-- Items may be left out that were met before. -/
theorem InOrder.distinctBy {key : Nat → ClassId} {seen : List ClassId} (hxs : h.InOrder met xs)
    (hsub : met ⊆ met') (hseen : ∀ x ∈ xs, key x ∈ seen → x ∈ met')
    (hinj : ∀ x ∈ xs, ∀ y ∈ xs, key x = key y → x = y) :
    h.InOrder met' (distinctBy key seen xs) := by
  induction xs generalizing met met' seen with
  | nil => trivial
  | cons i rest ih =>
    rw [List.forall_mem_cons] at hseen
    have hinj' : ∀ x ∈ rest, ∀ y ∈ rest, key x = key y → x = y := fun x hx y hy =>
      hinj x (List.mem_cons_of_mem i hx) y (List.mem_cons_of_mem i hy)
    simp only [Supertypes.distinctBy]
    split
    · rename_i hi
      refine ih hxs.2 ?_ hseen.2 hinj'
      exact List.cons_subset.2 ⟨hseen.1 hi, hsub⟩
    · refine ⟨fun j hj => hsub (hxs.1 j hj), ih hxs.2 (List.cons_subset_cons i hsub) ?_ hinj'⟩
      intro x hx hkey
      rcases List.mem_cons.1 hkey with heq | hkey
      · have hsame : x = i := hinj x (List.mem_cons_of_mem i hx) i List.mem_cons_self heq
        exact hsame ▸ List.mem_cons_self
      · exact List.mem_cons_of_mem i (hseen.2 x hx hkey)

/-- Wherever the list is cut, an interface has all that it extends before it. -/
theorem InOrder.mem_before {before after : List Nat} {i j : Nat}
    (hxs : h.InOrder met (before ++ i :: after)) (hj : j ∈ (h.descriptor i).allInterfaces) :
    j ∈ met ∨ j ∈ before := by
  induction before generalizing met with
  | nil => exact Or.inl (hxs.1 j hj)
  | cons k rest ih =>
    rcases ih hxs.2 with hmem | hmem
    · rcases List.mem_cons.1 hmem with rfl | hmet
      · exact Or.inr List.mem_cons_self
      · exact Or.inl hmet
    · exact Or.inr (List.mem_cons_of_mem k hmem)

/-! ### Interfaces of a declared class -/

/-- What is reached along one edge or more is what is reached besides the class itself. -/
theorem reaches_ne_iff {a b : Nat} : h.Reaches a b ∧ b ≠ a ↔ ∃ c, h.Direct a c ∧ h.Reaches c b := by
  constructor
  · rintro ⟨hab, hne⟩
    cases hab with
    | refl => exact absurd rfl hne
    | step hac hcb => exact ⟨_, hac, hcb⟩
  · rintro ⟨c, hac, hcb⟩
    exact ⟨.step hac hcb, Nat.ne_of_lt (Nat.lt_of_le_of_lt hcb.le hac.lt)⟩

section

variable (hdecl : h.Declared)
include hdecl

theorem inOrder_allInterfaces (hids : h.Identified) {a : Nat} (ha : a < h.size) :
    h.InOrder [] (h.descriptor a).allInterfaces := by
  induction a using Nat.strongRecOn with
  | ind a ih =>
    have hbelow : ∀ {c : Nat}, h.Direct a c → h.InOrder [] (h.descriptor c).allInterfaces :=
      fun hac => ih _ hac.lt (Nat.lt_trans hac.lt ha)
    have hinherited : h.InOrder [] (h.inherited (h.descriptor a)) := by
      unfold inherited
      cases hp : (h.descriptor a).parent with
      | none => trivial
      | some p => exact hbelow (.inl hp)
    have hlisted : h.InOrder [] ((h.descriptor a).interfaces.flatMap fun i =>
        (h.descriptor i).allInterfaces ++ [i]) := by
      apply InOrder.flatMap
      intro i hi
      exact (hbelow (.inr hi)).concat fun j hj => Or.inr hj
    rw [(derived_of_declared hdecl ha).united]
    refine (hinherited.append hlisted).distinctBy (List.Subset.refl _) ?_ ?_
    · intro x _ hx
      exact absurd hx List.not_mem_nil
    · -- everything in the parts was declared before, and identities tell it apart
      have hbefore : ∀ i ∈ h.inherited (h.descriptor a), i < h.size := fun _ hi =>
        Nat.lt_trans (lt_of_mem_inherited hi) ha
      have hnamed : ∀ i ∈ (h.descriptor a).interfaces, i < h.size := fun _ hi =>
        Nat.lt_trans (Direct.lt (h := h) (.inr hi)) ha
      have hbound := lt_of_mem_parts (h := h) hbefore hnamed
      intro x hx y hy
      exact hids x y (hbound x hx) (hbound y hy)

/-- The list of a class goes on where that of its superclass ends. -/
theorem parent_allInterfaces_prefix {a p : Nat} (ha : a < h.size)
    (hp : (h.descriptor a).parent = some p) :
    (h.descriptor p).allInterfaces <+: (h.descriptor a).allInterfaces := by
  have hinherited : h.inherited (h.descriptor a) = (h.descriptor p).allInterfaces := by
    rw [inherited, hp]
  have hnodup := nodup_allInterfaces hdecl (Nat.lt_trans (parent_lt hp) ha)
  have hkept : Supertypes.distinctBy (fun i => (h.descriptor i).id) []
      (h.descriptor p).allInterfaces = (h.descriptor p).allInterfaces :=
    distinctBy_eq_self (fun _ _ => List.not_mem_nil) hnodup
  rw [(derived_of_declared hdecl ha).united, uniteInterfaces, hinherited]
  calc (h.descriptor p).allInterfaces
      = Supertypes.distinctBy (fun i => (h.descriptor i).id) []
          (h.descriptor p).allInterfaces := hkept.symm
    _ <+: _ := distinctBy_prefix_append _ _ _

end

end Hierarchy

namespace Registry

/-! ### A small library -/

/-- One interface extends another. -/
def streams : Registry {} × Allocator :=
  let readable := declareNext (.empty, default) ⟨"Readable", .ofInterface []⟩
  declareNext readable ⟨"Seekable", .ofInterface [⟨0, by decide⟩]⟩

def file : Registry {} × Allocator :=
  declareNext streams ⟨"File", .ofClass none [⟨1, by decide⟩]⟩

/-- A class that inherits an interface and lists another one that it would inherit too. -/
def journal : Registry {} × Allocator :=
  let closeable := declareNext file ⟨"Closeable", .ofInterface []⟩
  declareNext closeable ⟨"Journal", .ofClass (some ⟨2, by decide⟩) [⟨3, by decide⟩, ⟨0, by decide⟩]⟩

theorem inUse_journal : InUse journal.1 journal.2 := by
  have hstreams : InUse streams.1 streams.2 := inUse_declareNext (inUse_declareNext inUse_empty _) _
  have hfile : InUse file.1 file.2 := inUse_declareNext hstreams _
  exact inUse_declareNext (inUse_declareNext hfile _) _

/-! ### Registries in use -/

variable {cfg : Config} {reg : Registry cfg} {alloc : Allocator}

/-- The list of interfaces of a class has the interfaces that are reached from it along one
    edge or more, each of them once and after all that it extends, and the list of the
    superclass comes first. -/
theorem interfaces_in_order (huse : InUse reg alloc) (a : Fin reg.size) :
    (∀ i, i ∈ (reg.hierarchy.descriptor a).allInterfaces ↔
      (reg.hierarchy.descriptor i).kind = .interface ∧
        ∃ c, reg.hierarchy.Direct a c ∧ reg.hierarchy.Reaches c i) ∧
    a.val ∉ (reg.hierarchy.descriptor a).allInterfaces ∧
    (reg.hierarchy.descriptor a).allInterfaces.Nodup ∧
    (∀ before i after, (reg.hierarchy.descriptor a).allInterfaces = before ++ i :: after →
      ∀ j ∈ (reg.hierarchy.descriptor i).allInterfaces, j ∈ before) ∧
    ∀ p, (reg.hierarchy.descriptor a).parent = some p →
      (reg.hierarchy.descriptor p).allInterfaces <+: (reg.hierarchy.descriptor a).allInterfaces := by
  have hs := sound_of_inUse huse
  have hdecl : reg.hierarchy.Declared := hs.declared
  have hids : reg.hierarchy.Identified := hs.identified
  have ha : a.val < reg.hierarchy.size := a.isLt
  refine ⟨?_, ?_, (Hierarchy.nodup_allInterfaces hdecl ha).of_map _, ?_, ?_⟩
  · intro i
    rw [Hierarchy.mem_allInterfaces_iff hdecl hids ha, Hierarchy.reaches_ne_iff]
  · intro hself
    exact Nat.lt_irrefl _ (Hierarchy.lt_of_mem_allInterfaces hself)
  · intro before i after hsplit j hj
    have horder := Hierarchy.inOrder_allInterfaces hdecl hids ha
    rw [hsplit] at horder
    exact (horder.mem_before hj).resolve_left List.not_mem_nil
  · intro p hp
    exact Hierarchy.parent_allInterfaces_prefix hdecl ha hp

theorem interfaces_of_journal : InUse journal.1 journal.2 ∧
    (journal.1.hierarchy.descriptor 2).allInterfaces <+:
      (journal.1.hierarchy.descriptor 4).allInterfaces ∧
    (journal.1.hierarchy.descriptor 4).allInterfaces.Nodup ∧
    ∀ before after, (journal.1.hierarchy.descriptor 4).allInterfaces = before ++ 1 :: after →
      0 ∈ before := by
  have hfile : (journal.1.hierarchy.descriptor 4).parent = some 2 := by decide +kernel
  have hreadable : 0 ∈ (journal.1.hierarchy.descriptor 1).allInterfaces := by decide +kernel
  obtain ⟨-, -, hnodup, horder, hparent⟩ :=
    interfaces_in_order inUse_journal ⟨4, by decide +kernel⟩
  refine ⟨inUse_journal, hparent 2 hfile, hnodup, ?_⟩
  intro before after hsplit
  exact horder before 1 after hsplit 0 hreadable

end Registry

end Supertypes
