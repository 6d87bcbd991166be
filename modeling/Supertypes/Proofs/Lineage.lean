/-
  Supertypes/Proofs/Lineage.lean
  ==============================
  **The line from a root to a class.**

  A line of classes begins at a class without a superclass, and each class of it is the
  superclass of the next (`Lineage`).  Every class has one line and no other, its superclasses
  in reverse and then itself (`lineage_iff`).

  The line is cut at the primary limit.  What is before the cut is the primary array, and
  what is behind it, short of the class itself, overflows (`Lineage.primarySupers_eq`,
  `Lineage.overflowSupers_eq`).  Both follow the line down, one class at a time: a
  declaration extends what it inherits by one entry of one of the two.
-/
import Supertypes.Proofs.Contents

namespace Supertypes

namespace Hierarchy

variable {cfg : Config} {h : Hierarchy cfg} {a : Nat} {path : List Nat}

/-- The classes from a root down to a class, each the superclass of the next. -/
inductive Lineage (h : Hierarchy cfg) : Nat → List Nat → Prop where
  | root {a : Nat} : (h.descriptor a).parent = none → Lineage h a [a]
  | child {a p : Nat} {path : List Nat} : (h.descriptor a).parent = some p → Lineage h p path →
      Lineage h a (path ++ [a])

theorem lineage_iff : h.Lineage a path ↔ path = (h.supers a).reverse ++ [a] := by
  constructor
  · intro hpath
    induction hpath with
    | root hp =>
      rw [supers_eq, hp]
      rfl
    | child hp _ ih =>
      rw [supers_eq, hp, List.reverse_cons, ih]
  · rintro rfl
    induction a using Nat.strongRecOn with
    | ind a ih =>
      rw [supers_eq]
      cases hp : (h.descriptor a).parent with
      | none => exact .root hp
      | some p =>
        rw [List.reverse_cons]
        exact .child hp (ih p (parent_lt hp))

section

variable (hdecl : h.Declared)
include hdecl

theorem Lineage.length_eq (hpath : h.Lineage a path) (ha : a < h.size) :
    path.length = (h.descriptor a).depth + 1 := by
  rw [lineage_iff.1 hpath, List.length_append, List.length_reverse, length_supers hdecl ha,
    List.length_singleton]

/-- The primary array has the identities of the line up to the limit. -/
theorem Lineage.primarySupers_eq (hpath : h.Lineage a path) (ha : a < h.size)
    (hclass : (h.descriptor a).kind = .plainClass) :
    (h.descriptor a).primarySupers.toList =
      (path.take cfg.primaryLimit).map fun s => (h.descriptor s).id := by
  induction hpath with
  | @root a hp =>
    have hd := derived_of_declared hdecl ha
    have hinherited : h.inheritedIds (h.descriptor a) = #[] := by rw [inheritedIds, hp]
    rw [hd.primary_of_class hclass, hinherited, hd.depth_root hp]
    split
    · rename_i hlimit
      rw [List.take_of_length_le hlimit]
      rfl
    · rename_i hlimit
      rw [Nat.eq_zero_of_not_pos hlimit]
      rfl
  | @child a p path hp hpath ih =>
    have hd := derived_of_declared hdecl ha
    have hbefore : p < h.size := Nat.lt_trans (parent_lt hp) ha
    have hinherited : h.inheritedIds (h.descriptor a) = (h.descriptor p).primarySupers := by
      rw [inheritedIds, hp]
    have hlength : path.length = (h.descriptor a).depth := by
      rw [hpath.length_eq hdecl hbefore, hd.depth_child p hp]
    have hparent := ih hbefore (hd.parent_kind p hp)
    rw [hd.primary_of_class hclass, hinherited, List.take_append, hlength]
    split
    · -- there is room for the class itself
      rename_i hfits
      have hself : [a].take (cfg.primaryLimit - (h.descriptor a).depth) = [a] :=
        List.take_of_length_le (by rw [List.length_singleton]; omega)
      rw [Array.toList_push, hparent, hself, List.map_append]
      rfl
    · rename_i hfull
      have hself : cfg.primaryLimit - (h.descriptor a).depth = 0 := by omega
      rw [hparent, hself, List.take_zero, List.append_nil]

/-- The overflow is the line from the limit on without the class itself, read upwards. -/
theorem Lineage.overflowSupers_eq (hpath : h.Lineage a path) (ha : a < h.size) :
    h.overflowSupers a = (path.dropLast.drop cfg.primaryLimit).reverse := by
  induction hpath with
  | @root a hp =>
    have hnone : h.supers a = [] := by rw [supers_eq, hp]
    rw [overflowSupers, hnone, List.takeWhile_nil, List.dropLast_singleton, List.drop_nil,
      List.reverse_nil]
  | @child a p path hp hpath ih =>
    have hbefore : p < h.size := Nat.lt_trans (parent_lt hp) ha
    have hsupers : h.supers a = p :: h.supers p := by rw [supers_eq, hp]
    have hprimary := canBePrimary_of_extends hdecl ha (.parent hp)
    have hlength := length_supers hdecl hbefore
    have hrest := ih hbefore
    rw [lineage_iff.1 hpath, List.dropLast_concat] at hrest
    rw [List.dropLast_concat, lineage_iff.1 hpath, List.drop_append, List.length_reverse, hlength,
      List.reverse_append, ← hrest, overflowSupers, hsupers, List.takeWhile_cons, hprimary]
    by_cases hfits : (h.descriptor p).depth < cfg.primaryLimit
    · -- above a class that fits nothing overflows
      have hself : [p].drop (cfg.primaryLimit - (h.descriptor p).depth) = [] :=
        List.drop_eq_nil_of_le (by rw [List.length_singleton]; omega)
      have hnone : h.overflowSupers p = [] := by
        rw [← List.length_eq_zero_iff, length_overflowSupers hdecl hbefore]
        omega
      rw [hself, hnone]
      simp [hfits]
    · have hself : cfg.primaryLimit - (h.descriptor p).depth = 0 := by omega
      rw [hself, List.drop_zero, List.reverse_singleton, overflowSupers]
      simp [hfits]

end

theorem isSubclass_iff {b : Nat} : h.isSubclass a b = true ↔ b = a ∨ h.Extends a b := by
  rw [isSubclass, Bool.or_eq_true, beq_iff_eq, List.contains_iff_mem, mem_supers_iff, eq_comm]

end Hierarchy

namespace Registry

variable {cfg : Config} {reg : Registry cfg} {alloc : Allocator}

/-- A class has one line from a root, as long as its depth says.  The primary array is the
    line up to the limit, and what lies between the limit and the class overflows, nearest
    first.  So one comparison in the array tells whether a class of small depth is a
    superclass.  The array of an interface is empty, and the comparison never succeeds. -/
theorem superclasses_by_depth (huse : InUse reg alloc) :
    (∀ a : Fin reg.size, (∃ path, reg.hierarchy.Lineage a path) ∧
      ∀ path, reg.hierarchy.Lineage a path →
        path.length = (reg.hierarchy.descriptor a).depth + 1 ∧
        reg.hierarchy.overflowSupers a =
          ((path.take (reg.hierarchy.descriptor a).depth).drop cfg.primaryLimit).reverse ∧
        ((reg.hierarchy.descriptor a).kind = .plainClass →
          (reg.hierarchy.descriptor a).primarySupers.size =
            min ((reg.hierarchy.descriptor a).depth + 1) cfg.primaryLimit ∧
          ∀ (k : Nat) (hk : k < (reg.hierarchy.descriptor a).primarySupers.size),
            ∃ c, path[k]? = some c ∧
              (reg.hierarchy.descriptor a).primarySupers[k] = (reg.hierarchy.descriptor c).id)) ∧
    (∀ a b : Fin reg.size, (reg.hierarchy.descriptor b).kind = .plainClass →
      (reg.hierarchy.descriptor b).depth < cfg.primaryLimit →
      (reg.hierarchy.primarySuper? a (reg.hierarchy.descriptor b).depth ==
        some (reg.hierarchy.descriptor b).id) = reg.hierarchy.isSubclass a b) ∧
    ∀ a b : Fin reg.size, (reg.hierarchy.descriptor a).kind = .interface →
      (reg.hierarchy.descriptor a).primarySupers = #[] ∧
      (reg.hierarchy.primarySuper? a (reg.hierarchy.descriptor b).depth ==
        some (reg.hierarchy.descriptor b).id) = false := by
  have hs := sound_of_inUse huse
  have hdecl : reg.hierarchy.Declared := hs.declared
  have hids : reg.hierarchy.Identified := hs.identified
  refine ⟨?_, ?_, ?_⟩
  · intro a
    have ha : a.val < reg.hierarchy.size := a.isLt
    refine ⟨⟨_, Hierarchy.lineage_iff.2 rfl⟩, ?_⟩
    intro path hpath
    have hlength := hpath.length_eq hdecl ha
    refine ⟨hlength, ?_, ?_⟩
    · rw [hpath.overflowSupers_eq hdecl ha, List.dropLast_eq_take, hlength, Nat.add_sub_cancel]
    · intro hclass
      have hsize := (Hierarchy.size_primarySupers hdecl ha hclass).2
      refine ⟨hsize, ?_⟩
      intro k hk
      have hinside : k < path.length := by omega
      have hlimit : k < cfg.primaryLimit := by omega
      refine ⟨path[k], List.getElem?_eq_getElem hinside, ?_⟩
      have hentry : (reg.hierarchy.descriptor a).primarySupers.toList[k]? =
          some (reg.hierarchy.descriptor path[k]).id := by
        rw [hpath.primarySupers_eq hdecl ha hclass, List.getElem?_map,
          List.getElem?_take_of_lt hlimit, List.getElem?_eq_getElem hinside]
        rfl
      rw [Array.getElem?_toList, Array.getElem?_eq_getElem hk] at hentry
      exact Option.some.inj hentry
  · intro a b hclass hdepth
    have hone := Hierarchy.primarySuper?_iff hdecl hids a.isLt b.isLt hclass hdepth
    rw [Bool.eq_iff_iff, beq_iff_eq, Hierarchy.isSubclass_iff]
    exact hone
  · intro a b hinterface
    have hd := Hierarchy.derived_of_declared hdecl a.isLt
    have hempty := hd.primary_of_interface hinterface
    refine ⟨hempty, ?_⟩
    rw [Hierarchy.primarySuper?, hempty]
    rfl

/-- The line of the dialog has three classes, of which one fits and one overflows. -/
theorem superclasses_of_dialog_by_depth : InUse dialog.1 dialog.2 ∧
    dialog.1.hierarchy.Lineage 7 [5, 6, 7] ∧
    (dialog.1.hierarchy.descriptor 7).primarySupers.size = 1 ∧
    dialog.1.hierarchy.overflowSupers 7 = [6] ∧
    (dialog.1.hierarchy.primarySuper? 7 0 == some (dialog.1.hierarchy.descriptor 5).id) =
      dialog.1.hierarchy.isSubclass 7 5 := by
  obtain ⟨hlines, hcompared, -⟩ := superclasses_by_depth inUse_dialog
  have hpath : dialog.1.hierarchy.Lineage 7 [5, 6, 7] :=
    .child (by decide +kernel : _ = some 6)
      (.child (by decide +kernel : _ = some 5) (.root (by decide +kernel)))
  have hdepth : (dialog.1.hierarchy.descriptor 7).depth = 2 := by decide +kernel
  have hroot : (dialog.1.hierarchy.descriptor 5).depth = 0 := by decide +kernel
  obtain ⟨-, hseven⟩ := hlines ⟨7, by decide +kernel⟩
  obtain ⟨-, hoverflow, harray⟩ := hseven _ hpath
  obtain ⟨hsize, -⟩ := harray (by decide +kernel)
  have hfive := hcompared ⟨7, by decide +kernel⟩ ⟨5, by decide +kernel⟩ (by decide +kernel)
    (by decide +kernel)
  dsimp only at hsize hoverflow hfive
  rw [hdepth] at hsize hoverflow
  rw [hroot] at hfive
  exact ⟨inUse_dialog, hpath, hsize, hoverflow, hfive⟩

end Registry

end Supertypes
