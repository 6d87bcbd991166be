/-
  Supertypes/Proofs/Contents.lean
  ===============================
  **What is in a table that was built, and where.**

  A class has secondary supertypes of two sorts, superclasses beyond the primary array
  and interfaces.  They are collected without repetition, packed in two groups, and what
  the first packing displaced may be packed again.  Nothing is lost and nothing is stored
  twice on the way (`zones_of_built_table`): the members of the table are the secondary
  supertypes, each in one cell of one zone (`Table.Partitioned`).

  The tags of the table are exact as well (`tags_of_built_table`), and the first search
  has counted the tagged cells of the primary zone.
-/
import Mathlib.Data.Set.Card
import Supertypes.Proofs.Use

namespace Supertypes

/-! ### Zones as a partition -/

namespace Table

variable {cfg : Config} {α : Type} [DecidableEq α]

/-- The zones make up the storage, the tail has no gaps, and a member has one cell. -/
structure Partitioned (t : Table cfg α) : Prop where
  zones : t.primaryZone ++ t.secondaryZone ++ t.tailZone = t.storage.toList
  primary_length : t.primaryZone.length = t.primary.size
  secondary_length : t.secondaryZone.length = t.secondary.size
  tail_occupied : ∀ e ∈ t.tailZone, e.resident ≠ none
  one_cell : ∀ x ∈ t.members,
    (t.primaryZone.countP fun e => e.holds x) + (t.secondaryZone.countP fun e => e.holds x) +
      (t.tailZone.countP fun e => e.holds x) = 1

/-- Cells that hold an element are counted zone by zone. -/
theorem countP_zones (t : Table cfg α) (x : α) :
    (t.primaryZone.countP fun e => e.holds x) + (t.secondaryZone.countP fun e => e.holds x) +
      (t.tailZone.countP fun e => e.holds x) = t.members.count x := by
  rw [← List.countP_append, ← List.countP_append, t.zones_append, members, List.count_filterMap]
  rfl

theorem partitioned_of_nodup {t : Table cfg α} (hnodup : t.members.Nodup)
    (htail : ∀ e ∈ t.tailZone, e.resident ≠ none) : t.Partitioned := by
  refine ⟨t.zones_append, ?_, ?_, htail, ?_⟩
  · rw [primaryZone_eq_ofFn, List.length_ofFn]
  · rw [secondaryZone_eq_ofFn, List.length_ofFn]
  · intro x hx
    rw [t.countP_zones x]
    exact List.count_eq_one_of_mem hnodup hx

end Table

namespace Registry

variable {cfg : Config} {reg : Registry cfg} {alloc : Allocator} {σ : Type} [SeedSource σ]
  {source : σ} {r : Nat} {t : Table cfg Member}

/-! ### Members -/

theorem length_expected (hdecl : reg.hierarchy.Declared) (hids : reg.hierarchy.Identified)
    (hr : r < reg.size) : (reg.expected r).length =
      (reg.hierarchy.descriptor r).allInterfaces.length +
        ((reg.hierarchy.descriptor r).depth - cfg.primaryLimit) := by
  rw [expected_eq, List.length_map, List.length_append,
    Hierarchy.primaries_of_candidates hdecl hids hr, Hierarchy.length_overflowSupers hdecl hr,
    Nat.add_comm]
  rfl

theorem ncard_interfaces (hdecl : reg.hierarchy.Declared) (hids : reg.hierarchy.Identified)
    (hr : r < reg.size) :
    Set.ncard {s | (reg.hierarchy.descriptor s).kind = .interface ∧ reg.hierarchy.Reaches r s ∧
      s ≠ r} = (reg.hierarchy.descriptor r).allInterfaces.length := by
  have hset : {s | (reg.hierarchy.descriptor s).kind = .interface ∧ reg.hierarchy.Reaches r s ∧
      s ≠ r} = ((reg.hierarchy.descriptor r).allInterfaces.toFinset : Set Nat) := by
    ext s
    rw [Set.mem_ofPred_eq, List.coe_toFinset, Set.mem_ofPred_eq,
      Hierarchy.mem_allInterfaces_iff hdecl hids hr]
  have hnodup : (reg.hierarchy.descriptor r).allInterfaces.Nodup :=
    (Hierarchy.nodup_allInterfaces hdecl hr).of_map _
  rw [hset, Set.ncard_coe_finset, List.toFinset_card_of_nodup hnodup]

theorem eq_member_of_mem_expected {x : Member} (hx : x ∈ reg.expected r) :
    x = reg.member x.ref := by
  rw [expected_eq, List.mem_map] at hx
  obtain ⟨s, -, rfl⟩ := hx
  rfl

theorem member_mem_expected_iff_secondary (hdecl : reg.hierarchy.Declared)
    (hids : reg.hierarchy.Identified) (hr : r < reg.size) {s : Nat} :
    reg.member s ∈ reg.expected r ↔
      reg.hierarchy.Extends r s ∧ cfg.primaryLimit ≤ (reg.hierarchy.descriptor s).depth ∨
        (reg.hierarchy.descriptor s).kind = .interface ∧ reg.hierarchy.Reaches r s ∧ s ≠ r := by
  rw [member_mem_expected_iff, Hierarchy.mem_candidates_iff hdecl hids hr,
    Hierarchy.scanSecondary_iff hdecl hids hr]

/-! ### Built tables -/

theorem partitioned_of_build (hdecl : reg.hierarchy.Declared) (hr : r < reg.size)
    (hbuild : (reg.build r source).outcome = .ok t) : t.Partitioned := by
  obtain ⟨l, -, -, hrealizes⟩ := layout_of_build hbuild
  have hnodup := (holds_of_build hbuild).nodup_members (nodup_expected hdecl hr)
  exact Table.partitioned_of_nodup hnodup hrealizes.tail_occupied

/-- The table of a class holds the superclasses that overflow the primary array and the
    interfaces, and holds each of them once.  The class itself and the superclasses that
    fit are not stored. -/
theorem zones_of_built_table (huse : InUse reg alloc) (hcheck : cfg.check = .ok ())
    (r : Fin reg.size) (source : σ) :
    ((reg.expected r).length < UInt32.size → ∃ t, (reg.build r source).outcome = .ok t) ∧
      ∀ t, (reg.build r source).outcome = .ok t → t.Partitioned ∧
        (∀ x : Member, x ∈ t.members ↔ ∃ s, x = reg.member s ∧
          (reg.hierarchy.Extends r s ∧ cfg.primaryLimit ≤ (reg.hierarchy.descriptor s).depth ∨
            (reg.hierarchy.descriptor s).kind = .interface ∧ reg.hierarchy.Reaches r s ∧
              s ≠ r)) ∧
        reg.member r ∉ t.members ∧
        (∀ s, reg.hierarchy.Extends r s → (reg.hierarchy.descriptor s).depth < cfg.primaryLimit →
          reg.member s ∉ t.members) ∧
        t.length = Set.ncard {s | (reg.hierarchy.descriptor s).kind = .interface ∧
            reg.hierarchy.Reaches r s ∧ s ≠ r} +
          ((reg.hierarchy.descriptor r).depth - cfg.primaryLimit) := by
  have hs := sound_of_inUse huse
  have hdecl : reg.hierarchy.Declared := hs.declared
  have hids : reg.hierarchy.Identified := hs.identified
  refine ⟨fun hfew => exists_build hdecl hcheck r.isLt hfew source, ?_⟩
  intro t hbuild
  have hperm := (holds_of_build hbuild).members_perm
  have hmember : ∀ s, reg.member s ∈ t.members ↔
      (reg.hierarchy.Extends r s ∧ cfg.primaryLimit ≤ (reg.hierarchy.descriptor s).depth ∨
        (reg.hierarchy.descriptor s).kind = .interface ∧ reg.hierarchy.Reaches r s ∧ s ≠ r) := by
    intro s
    rw [hperm.mem_iff, member_mem_expected_iff_secondary hdecl hids r.isLt]
  refine ⟨partitioned_of_build hdecl r.isLt hbuild, ?_, ?_, ?_, ?_⟩
  · intro x
    constructor
    · intro hx
      have heq := eq_member_of_mem_expected (hperm.mem_iff.1 hx)
      exact ⟨x.ref, heq, (hmember x.ref).1 (heq ▸ hx)⟩
    · rintro ⟨s, rfl, hs⟩
      exact (hmember s).2 hs
  · rw [hmember]
    rintro (⟨hext, -⟩ | ⟨-, -, hne⟩)
    · exact absurd hext.lt (Nat.lt_irrefl _)
    · exact hne rfl
  · intro s hext hdepth
    rw [hmember]
    rintro (⟨-, hlimit⟩ | ⟨hkind, -, -⟩)
    · exact absurd hdepth (Nat.not_lt.2 hlimit)
    · rw [hext.kind hdecl r.isLt] at hkind
      cases hkind
  · rw [ncard_interfaces hdecl hids r.isLt, ← length_expected hdecl hids r.isLt]
    exact hperm.length_eq

omit [SeedSource σ] in
theorem zones_of_dialog_table : ∃ t, (dialog.1.build 7 dialog.2).outcome = .ok t ∧ t.Partitioned ∧
    dialog.1.member 6 ∈ t.members ∧ dialog.1.member 7 ∉ t.members ∧
      dialog.1.member 5 ∉ t.members := by
  obtain ⟨hexists, hzones⟩ :=
    zones_of_built_table inUse_dialog (by decide) ⟨7, by decide +kernel⟩ dialog.2
  obtain ⟨t, hbuild⟩ := hexists (by decide +kernel)
  obtain ⟨hpartitioned, hmembers, hself, hfits, -⟩ := hzones t hbuild
  have hpanel : (dialog.1.hierarchy.descriptor 7).parent = some 6 := by decide +kernel
  have hwidget : (dialog.1.hierarchy.descriptor 6).parent = some 5 := by decide +kernel
  refine ⟨t, hbuild, hpartitioned, (hmembers _).2 ⟨6, rfl, Or.inl ⟨.parent hpanel, ?_⟩⟩, hself,
    hfits 5 (.step hpanel (.parent hwidget)) ?_⟩
  · decide +kernel
  · decide +kernel

/-- Tags say what overflowed and nothing else, and in the primary zone there are as many
    as the first search counted. -/
theorem tags_of_built_table (hdecl : reg.hierarchy.Declared) (hcheck : cfg.check = .ok ())
    (hr : r < reg.size) (source : σ) :
    ((reg.expected r).length < UInt32.size → ∃ t, (reg.build r source).outcome = .ok t) ∧
      ∀ t, (reg.build r source).outcome = .ok t → t.Composed ∧ t.Exact ∧
        (∀ x ∈ t.members, x = reg.member x.ref) ∧
        ∃ p, (search cfg (reg.candidateGroups r) source).packing = .ok p ∧
          (t.primaryZone.countP fun e => decide (e.tag ≠ .none)) = p.conflicts := by
  refine ⟨fun hfew => exists_build hdecl hcheck hr hfew source, ?_⟩
  intro t hbuild
  obtain ⟨l, harrange, hfits, hrealizes⟩ := layout_of_build hbuild
  refine ⟨hrealizes.composed hfits, hrealizes.exact hfits, ?_, l.primary,
    (Layout.arrange_cases harrange).1, hrealizes.tagged_count hfits⟩
  intro x hx
  exact eq_member_of_mem_expected ((holds_of_build hbuild).members_perm.mem_iff.1 hx)

omit [SeedSource σ] in
theorem tags_of_dialog_table : ∃ t, (dialog.1.build 7 dialog.2).outcome = .ok t ∧ t.Exact ∧
    ∃ p, (search cramped (dialog.1.candidateGroups 7) dialog.2).packing = .ok p ∧
      (t.primaryZone.countP fun e => decide (e.tag ≠ .none)) = p.conflicts := by
  have hlast : 7 < dialog.1.size := by decide +kernel
  obtain ⟨hexists, htags⟩ := tags_of_built_table declared_dialog (by decide) hlast dialog.2
  obtain ⟨t, hbuild⟩ := hexists (by decide +kernel)
  obtain ⟨-, hexact, -, hcount⟩ := htags t hbuild
  exact ⟨t, hbuild, hexact, hcount⟩

end Registry

end Supertypes
