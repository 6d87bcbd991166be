/-
  Supertypes/Proofs/Precedence.lean
  =================================
  **Overflowed superclasses come before interfaces.**

  A slot goes to the first element that belongs there, so whoever does not get the natural
  slot comes after the one who does (`Placed.resident_before`).  This says something of
  tables because the candidates are listed in an order: the superclasses that overflow the
  primary array come first, the nearest one first, and depth falls along them
  (`pairwise_outranks_expected`).

  The order survives the first packing.  What it displaces is handed to the second one as
  a part of the candidates in their order (`Placed.tail_sublist`), whatever groups they
  were in.  So the same is true of the slots of the second zone and of the tail.
-/
import Supertypes.Proofs.Zones

namespace Supertypes

/-! ### First come, first served -/

theorem laterBy_sublist {α κ : Type} [DecidableEq κ] (key : α → κ) (seen : List κ) (xs : List α) :
    (laterBy key seen xs).Sublist xs := by
  induction xs generalizing seen with
  | nil => exact List.Sublist.refl _
  | cons x xs ih =>
    rw [laterBy]
    split
    · exact (ih seen).cons_cons x
    · exact (ih (key x :: seen)).cons x

namespace Placed

variable {cap : Capacity} {α : Type} [Coded α] {sizing : Sizing} {es : List α} {p : Packing cap α}
  (hp : Placed sizing es p)
include hp

/-- The tail keeps the order of the elements. -/
theorem tail_sublist : p.tail.toList.Sublist es := by
  by_cases hzero : p.seed.size = 0
  · rw [hp.plain hzero]
  · rw [hp.tail hzero]
    exact laterBy_sublist _ _ _

/-- An element without a slot comes after the one that resides in its natural slot. -/
theorem resident_before {R : α → α → Prop} (hes : es.Pairwise R) {x : α} (hx : x ∈ es)
    (hout : x ∉ p.residentList) (hi : home sizing p.seed x < p.seed.size) :
    ∃ y, p.slots[home sizing p.seed x].resident = some y ∧ R y x := by
  obtain ⟨y, hy⟩ := hp.exists_resident hx hi
  refine ⟨y, hy, ?_⟩
  have hfirst := hp.resident _ hi
  rw [hy, eq_comm, List.find?_eq_some_iff_append] at hfirst
  obtain ⟨-, before, after, rfl, hothers⟩ := hfirst
  -- what stands before the resident belongs to other slots, and `x` belongs to this one
  have hafter : x ∈ after := by
    rcases List.mem_append.1 hx with hbefore | hmem
    · exact absurd (hothers x hbefore) (by simp)
    · rcases List.mem_cons.1 hmem with rfl | hafter
      · exact absurd (p.mem_residentList hy) hout
      · exact hafter
  obtain ⟨-, hrest, -⟩ := List.pairwise_append.1 hes
  exact (List.pairwise_cons.1 hrest).1 x hafter

end Placed

namespace Layout.Realizes

variable {cfg : Config} {α : Type} [Coded α] [DecidableEq α] {l : Layout cfg α} {t : Table cfg α}
  {es : List α} {R : α → α → Prop} (hr : l.Realizes t) (hl : l.Fits es) (hes : es.Pairwise R)
include hr hl hes

/-! ### The two zones of a table -/

theorem primaryCell_before (hzone : t.primary.isEmpty = false) {x : α} (hx : x ∈ es)
    (hout : (t.primaryZone.any fun e => e.holds x) = false) :
    ∃ i y, naturalSlot cfg.sizing x t.primary = .ok i ∧
      (t.primaryCell i).resident = some y ∧ R y x := by
  have hne : t.primary.size ≠ 0 := by
    rwa [← Bool.not_eq_true, Seed.isEmpty_iff] at hzone
  have hseed : t.primary.Composed cfg.sizing := hr.primary ▸ hl.primary_seed
  have hnot : x ∉ l.primary.residentList := by
    rw [← hr.primary_eq, ← Table.any_holds_iff, hout]
    decide
  have hi : home cfg.sizing l.primary.seed x < l.primary.seed.size :=
    home_lt hl.primary_seed (hr.primary ▸ hne) x
  obtain ⟨y, hy, hbefore⟩ := hl.primary.resident_before hes hx hnot hi
  refine ⟨_, y, naturalSlot_eq_ok hseed hne x, ?_, hbefore⟩
  rw [hr.primaryCell_eq _ (by simpa only [hr.primary] using hi)]
  simpa only [hr.primary] using hy

theorem secondaryCell_before (hnodup : es.Nodup) (hzone : t.secondary.isEmpty = false) {x : α}
    (hx : (t.tailZone.any fun e => e.holds x) = true) :
    ∃ j y, naturalSlot cfg.sizing x t.secondary = .ok j ∧
      (t.secondaryCell j).resident = some y ∧ R y x := by
  have hne : t.secondary.size ≠ 0 := by
    rwa [← Bool.not_eq_true, Seed.isEmpty_iff] at hzone
  have hseed : t.secondary.Composed cfg.sizing := hr.secondary ▸ hl.secondary_seed
  have htail : x ∈ l.secondary.tail.toList := by
    rwa [Table.any_holds_iff, hr.tail_eq] at hx
  have hoverflow := hl.primary.tail_sublist
  have hnot : x ∉ l.secondary.residentList := by
    obtain ⟨-, -, hapart⟩ := List.nodup_append.1 (hl.secondary.nodup (hnodup.sublist hoverflow))
    exact fun hmem => hapart x hmem x htail rfl
  have hj : home cfg.sizing l.secondary.seed x < l.secondary.seed.size :=
    home_lt hl.secondary_seed (hr.secondary ▸ hne) x
  obtain ⟨y, hy, hbefore⟩ := hl.secondary.resident_before (hes.sublist hoverflow)
    (hl.secondary.mem_of_mem_tail htail) hnot hj
  refine ⟨_, y, naturalSlot_eq_ok hseed hne x, ?_, hbefore⟩
  rw [hr.secondaryCell_eq _ (by simpa only [hr.secondary] using hj)]
  simpa only [hr.secondary] using hy

end Layout.Realizes

namespace Hierarchy

variable {cfg : Config} {h : Hierarchy cfg}

/-! ### Depth along the superclasses -/

/-- A superclass for which the primary array has no room. -/
def Overflows (h : Hierarchy cfg) (a b : Nat) : Prop :=
  h.Extends a b ∧ cfg.primaryLimit ≤ (h.descriptor b).depth

section

variable (hdecl : h.Declared)
include hdecl

theorem pairwise_depth_supers {a : Nat} (ha : a < h.size) :
    (h.supers a).Pairwise fun b c => (h.descriptor c).depth < (h.descriptor b).depth := by
  induction a using Nat.strongRecOn with
  | ind a ih =>
    rw [supers_eq]
    cases hp : (h.descriptor a).parent with
    | none => exact List.Pairwise.nil
    | some p =>
      have hlt := parent_lt hp
      have hsize := Nat.lt_trans hlt ha
      refine List.pairwise_cons.2 ⟨?_, ih p hlt hsize⟩
      intro c hc
      exact (mem_supers_iff.1 hc).depth_lt hdecl hsize

theorem pairwise_depth_overflowSupers {a : Nat} (ha : a < h.size) :
    (h.overflowSupers a).Pairwise fun b c => (h.descriptor c).depth < (h.descriptor b).depth :=
  (pairwise_depth_supers hdecl ha).sublist (List.takeWhile_sublist _)

theorem not_overflows_of_mem_allInterfaces {a b : Nat} (ha : a < h.size)
    (hb : b ∈ (h.descriptor a).allInterfaces) : ¬ h.Overflows a b := by
  rintro ⟨hext, -⟩
  have hkind := kind_of_mem_allInterfaces hdecl ha hb
  rw [hext.kind hdecl ha] at hkind
  cases hkind

end

end Hierarchy

namespace Registry

variable {cfg : Config} {reg : Registry cfg}

/-! ### The order of the candidates -/

/-- The member is an overflowed superclass of the class, and a deeper one than another. -/
def Outranks (reg : Registry cfg) (r p : Nat) (y : Member) : Prop :=
  ∃ q, reg.hierarchy.Overflows r q ∧ y = reg.member q ∧
    (reg.hierarchy.descriptor p).depth < (reg.hierarchy.descriptor q).depth

/-- Before an overflowed superclass there are only deeper ones. -/
theorem pairwise_outranks_expected (hdecl : reg.hierarchy.Declared)
    (hids : reg.hierarchy.Identified) {r : Nat} (hr : r < reg.size) :
    (reg.expected r).Pairwise fun y x =>
      reg.hierarchy.Overflows r x.ref → reg.Outranks r x.ref y := by
  have hinterface : ∀ i ∈ (reg.hierarchy.candidates r).secondaries,
      ¬ reg.hierarchy.Overflows r i := fun i hi =>
    Hierarchy.not_overflows_of_mem_allInterfaces hdecl hr hi
  rw [expected_eq, List.pairwise_map, List.pairwise_append,
    Hierarchy.primaries_of_candidates hdecl hids hr]
  -- nothing is asked of what precedes an interface
  refine ⟨?_, ?_, ?_⟩
  · apply List.Pairwise.imp_of_mem ?_ (Hierarchy.pairwise_depth_overflowSupers hdecl hr)
    intro q p hq _ hdepth _
    exact ⟨q, (Hierarchy.mem_overflowSupers_iff hdecl hr).1 hq, rfl, hdepth⟩
  · apply List.pairwise_of_forall_mem_list
    intro _ _ i hi hoverflows
    exact absurd hoverflows (hinterface i hi)
  · intro _ _ i hi hoverflows
    exact absurd hoverflows (hinterface i hi)

/-! ### Built tables -/

variable {alloc : Allocator} {σ : Type} [SeedSource σ] {source : σ} {r : Nat}
  {t : Table cfg Member}

/-- The tail is a part of the superclasses, and behind it a part of the interfaces. -/
theorem tailZone_of_build (hdecl : reg.hierarchy.Declared) (hids : reg.hierarchy.Identified)
    (hr : r < reg.size) (hbuild : (reg.build r source).outcome = .ok t) :
    ∃ supers interfaces : List Nat,
      t.tailZone.map Entry.resident =
        (supers ++ interfaces).map (fun s => some (reg.member s)) ∧
      supers.Sublist (reg.hierarchy.overflowSupers r) ∧
      interfaces.Sublist (reg.hierarchy.descriptor r).allInterfaces := by
  obtain ⟨l, -, hfits, hrealizes⟩ := layout_of_build hbuild
  have htail : l.tail.toList.Sublist (reg.expected r) :=
    hfits.secondary.tail_sublist.trans hfits.primary.tail_sublist
  rw [expected_eq, List.sublist_map_iff] at htail
  obtain ⟨kept, hkept, hmembers⟩ := htail
  obtain ⟨supers, interfaces, rfl, hsupers, hinterfaces⟩ := List.sublist_append_iff.1 hkept
  rw [Hierarchy.primaries_of_candidates hdecl hids hr] at hsupers
  refine ⟨supers, interfaces, ?_, hsupers, hinterfaces⟩
  rw [hrealizes.tail_residents, hmembers, List.map_map]
  rfl

/-- In both slot zones an overflowed superclass gives way to a deeper one only, never to an
    interface.  In the tail the superclasses come first, the deepest one first, and behind
    them the interfaces in their order. -/
theorem precedence_of_built_table (huse : InUse reg alloc) (hcheck : cfg.check = .ok ())
    (r : Fin reg.size) (source : σ) :
    ((reg.expected r).length < UInt32.size → ∃ t, (reg.build r source).outcome = .ok t) ∧
      ∀ t, (reg.build r source).outcome = .ok t →
        (∀ p, reg.hierarchy.Overflows r p → t.primary.isEmpty = false →
          (t.primaryZone.any fun e => e.holds (reg.member p)) = false →
          ∃ i y, naturalSlot cfg.sizing (reg.member p) t.primary = .ok i ∧
            (t.primaryCell i).resident = some y ∧ reg.Outranks r p y) ∧
        (∀ p, reg.hierarchy.Overflows r p → t.secondary.isEmpty = false →
          (t.tailZone.any fun e => e.holds (reg.member p)) = true →
          ∃ j y, naturalSlot cfg.sizing (reg.member p) t.secondary = .ok j ∧
            (t.secondaryCell j).resident = some y ∧ reg.Outranks r p y) ∧
        ∃ supers interfaces : List Nat,
          t.tailZone.map Entry.resident =
            (supers ++ interfaces).map (fun s => some (reg.member s)) ∧
          (∀ s ∈ supers, reg.hierarchy.Overflows r s) ∧
          (supers.Pairwise fun p q =>
            (reg.hierarchy.descriptor q).depth < (reg.hierarchy.descriptor p).depth) ∧
          interfaces.Sublist (reg.hierarchy.descriptor r).allInterfaces := by
  have hs := sound_of_inUse huse
  have hdecl : reg.hierarchy.Declared := hs.declared
  have hids : reg.hierarchy.Identified := hs.identified
  refine ⟨fun hfew => exists_build hdecl hcheck r.isLt hfew source, ?_⟩
  intro t hbuild
  obtain ⟨l, -, hfits, hrealizes⟩ := layout_of_build hbuild
  have hnodup := nodup_expected hdecl r.isLt
  have horder := pairwise_outranks_expected hdecl hids r.isLt
  refine ⟨?_, ?_, ?_⟩
  · intro p hp hzone hout
    have hlisted : reg.member p ∈ reg.expected r :=
      (member_mem_expected_iff_secondary hdecl hids r.isLt).2 (Or.inl hp)
    obtain ⟨i, y, hi, hy, hbefore⟩ := hrealizes.primaryCell_before hfits horder hzone hlisted hout
    exact ⟨i, y, hi, hy, hbefore hp⟩
  · intro p hp hzone htail
    obtain ⟨j, y, hj, hy, hbefore⟩ :=
      hrealizes.secondaryCell_before hfits horder hnodup hzone htail
    exact ⟨j, y, hj, hy, hbefore hp⟩
  · obtain ⟨supers, interfaces, hzone, hsupers, hinterfaces⟩ :=
      tailZone_of_build hdecl hids r.isLt hbuild
    refine ⟨supers, interfaces, hzone, ?_, ?_, hinterfaces⟩
    · intro s hs
      exact (Hierarchy.mem_overflowSupers_iff hdecl r.isLt).1 (hsupers.mem hs)
    · exact (Hierarchy.pairwise_depth_overflowSupers hdecl r.isLt).sublist hsupers

/-! ### A tall hierarchy -/

/-- Declares a subclass of the class that was declared last. -/
def deepen (s : Registry cramped × Allocator) : Registry cramped × Allocator :=
  if hsome : 0 < s.1.size then
    declareNext s ⟨"Layer", .ofClass (some ⟨s.1.size - 1, Nat.sub_one_lt_of_lt hsome⟩) []⟩
  else s

/-- One class on top of the other, the first one with an interface. -/
def layers : Nat → Registry cramped × Allocator
  | 0 => declareNext (plugins 1) ⟨"Layer", .ofClass none (List.finRange (plugins 1).1.size)⟩
  | n + 1 => deepen (layers n)

theorem inUse_layers (n : Nat) : InUse (layers n).1 (layers n).2 := by
  induction n with
  | zero => exact inUse_declareNext (inUse_plugins 1) _
  | succ n ih =>
    rw [layers, deepen]
    split
    · exact inUse_declareNext ih _
    · exact ih

omit [SeedSource σ] in
/-- Five superclasses are too many for four slots.  The one that is left to the tail meets
    deeper ones in both zones. -/
theorem precedence_of_layers_table :
    ∃ t, ((layers 6).1.build 7 (layers 6).2).outcome = .ok t ∧
      (layers 6).1.hierarchy.Overflows 7 2 ∧
      (t.tailZone.any fun e => e.holds ((layers 6).1.member 2)) = true ∧
      (∃ i y, naturalSlot cramped.sizing ((layers 6).1.member 2) t.primary = .ok i ∧
        (t.primaryCell i).resident = some y ∧ (layers 6).1.Outranks 7 2 y) ∧
      ∃ j y, naturalSlot cramped.sizing ((layers 6).1.member 2) t.secondary = .ok j ∧
        (t.secondaryCell j).resident = some y ∧ (layers 6).1.Outranks 7 2 y := by
  have hdecl : (layers 6).1.hierarchy.Declared := (sound_of_inUse (inUse_layers 6)).declared
  have hlast : 7 < (layers 6).1.size := by decide +kernel
  have hoverflows : (layers 6).1.hierarchy.Overflows 7 2 :=
    (Hierarchy.mem_overflowSupers_iff hdecl hlast).1 (by decide +kernel)
  have hfew : ((layers 6).1.expected 7).length < UInt32.size := by decide +kernel
  obtain ⟨hexists, hprecedes⟩ :=
    precedence_of_built_table (inUse_layers 6) (by decide) ⟨7, hlast⟩ (layers 6).2
  obtain ⟨t, hbuild⟩ := hexists hfew
  obtain ⟨hprimary, hsecondary, -⟩ := hprecedes t hbuild
  have hzones : (((layers 6).1.build 7 (layers 6).2).outcome.toOption.map fun t =>
      (t.primary.isEmpty, t.secondary.isEmpty,
        t.primaryZone.any fun e => e.holds ((layers 6).1.member 2),
        t.tailZone.any fun e => e.holds ((layers 6).1.member 2))) =
      some (false, false, false, true) := by decide +kernel
  rw [hbuild] at hzones
  obtain ⟨hfirst, hsecond, hout, htail⟩ : t.primary.isEmpty = false ∧ t.secondary.isEmpty = false ∧
      (t.primaryZone.any fun e => e.holds ((layers 6).1.member 2)) = false ∧
      (t.tailZone.any fun e => e.holds ((layers 6).1.member 2)) = true := by
    simpa [Except.toOption] using hzones
  exact ⟨t, hbuild, hoverflows, htail, hprimary 2 hoverflows hfirst hout,
    hsecondary 2 hoverflows hsecond htail⟩

end Registry

end Supertypes
