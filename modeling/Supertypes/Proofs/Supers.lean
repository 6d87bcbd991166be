/-
  Supertypes/Proofs/Supers.lean
  =============================
  **Supertypes of declared classes.**

  The three structures from which supertypes are read off, the chain of superclasses,
  the list of interfaces and the primary array, are compared with the relations that
  the declarations mean: `Extends` along superclass edges and `Reaches` along all edges.

  Depth is what connects them.  It counts superclasses, so it falls along the chain, and
  therefore the classes that overflow the primary array are the first part of the chain
  (`mem_overflowSupers_iff`), while the others stand in the array at the place that
  their depth names (`primarySuper?_eq_some_iff`).  A class is reached from another one
  along superclass edges only, because no path goes on from an interface to a class.
-/
import Supertypes.Proofs.Ancestry

namespace Supertypes.Hierarchy

variable {cfg : Config} {h : Hierarchy cfg}

/-! ### Superclasses -/

section

variable (hdecl : h.Declared)
include hdecl

theorem Extends.kind {a b : Nat} (hab : h.Extends a b) (ha : a < h.size) :
    (h.descriptor b).kind = .plainClass := by
  induction hab with
  | parent hp => exact (derived_of_declared hdecl ha).parent_kind _ hp
  | step hp _ ih => exact ih (Nat.lt_trans (parent_lt hp) ha)

theorem Extends.depth_lt {a b : Nat} (hab : h.Extends a b) (ha : a < h.size) :
    (h.descriptor b).depth < (h.descriptor a).depth := by
  induction hab with
  | parent hp =>
    have hdepth := (derived_of_declared hdecl ha).depth_child _ hp
    omega
  | step hp _ ih =>
    have hdepth := (derived_of_declared hdecl ha).depth_child _ hp
    have hlt := ih (Nat.lt_trans (parent_lt hp) ha)
    omega

/-- Depth counts superclasses. -/
theorem length_supers {a : Nat} (ha : a < h.size) :
    (h.supers a).length = (h.descriptor a).depth := by
  induction a using Nat.strongRecOn with
  | ind a ih =>
    have hd := derived_of_declared hdecl ha
    rw [supers_eq]
    cases hp : (h.descriptor a).parent with
    | none => exact (hd.depth_root hp).symm
    | some p =>
      have hlt := parent_lt hp
      simp only [List.length_cons, ih p hlt (Nat.lt_trans hlt ha)]
      exact (hd.depth_child p hp).symm

/-- A superclass overflows exactly if its depth is at least the limit. -/
theorem canBePrimary_of_extends {a b : Nat} (ha : a < h.size) (hab : h.Extends a b) :
    h.canBePrimary b = decide ((h.descriptor b).depth < cfg.primaryLimit) := by
  simp [canBePrimary, hab.kind hdecl ha]

/-- The overflow is the first part of the chain, and nothing overflows behind it. -/
theorem overflowSupers_eq_filter {a : Nat} (ha : a < h.size) :
    h.overflowSupers a =
      (h.supers a).filter fun s => decide (cfg.primaryLimit ≤ (h.descriptor s).depth) := by
  unfold overflowSupers
  induction a using Nat.strongRecOn with
  | ind a ih =>
    rw [supers_eq]
    cases hp : (h.descriptor a).parent with
    | none => rfl
    | some p =>
      have hlt := parent_lt hp
      have hprimary := canBePrimary_of_extends hdecl ha (.parent hp)
      simp only [List.takeWhile_cons, List.filter_cons, hprimary]
      by_cases hdepth : (h.descriptor p).depth < cfg.primaryLimit
      · -- above a class that fits, every class fits
        have hfits : ∀ s ∈ h.supers p, ¬ cfg.primaryLimit ≤ (h.descriptor s).depth := by
          intro s hs
          have := (mem_supers_iff.1 hs).depth_lt hdecl (Nat.lt_trans hlt ha)
          omega
        have hnone : (h.supers p).filter
            (fun s => decide (cfg.primaryLimit ≤ (h.descriptor s).depth)) = [] := by
          rw [List.filter_eq_nil_iff]
          intro s hs
          simpa using hfits s hs
        simp [hdepth, hnone, Nat.not_le.2 hdepth]
      · have hrest := ih p hlt (Nat.lt_trans hlt ha)
        simp [hdepth, hrest, Nat.le_of_not_lt hdepth]

theorem mem_overflowSupers_iff {a b : Nat} (ha : a < h.size) :
    b ∈ h.overflowSupers a ↔
      h.Extends a b ∧ cfg.primaryLimit ≤ (h.descriptor b).depth := by
  rw [overflowSupers_eq_filter hdecl ha, List.mem_filter, mem_supers_iff, decide_eq_true_iff]

/-- As many superclasses overflow as there are depths from the limit on. -/
theorem length_overflowSupers {a : Nat} (ha : a < h.size) :
    (h.overflowSupers a).length = (h.descriptor a).depth - cfg.primaryLimit := by
  unfold overflowSupers
  induction a using Nat.strongRecOn with
  | ind a ih =>
    have hd := derived_of_declared hdecl ha
    rw [supers_eq]
    cases hp : (h.descriptor a).parent with
    | none => simp [hd.depth_root hp]
    | some p =>
      have hlt := parent_lt hp
      have hprimary := canBePrimary_of_extends hdecl ha (.parent hp)
      have hrest := ih p hlt (Nat.lt_trans hlt ha)
      simp only [List.takeWhile_cons, hprimary, hd.depth_child p hp]
      by_cases hdepth : (h.descriptor p).depth < cfg.primaryLimit
      · rw [if_neg (by simp [hdepth]), List.length_nil]
        omega
      · rw [if_pos (by simp [hdepth]), List.length_cons, hrest]
        omega

/-- No path goes on from an interface to a class. -/
theorem reaches_class_iff {a b : Nat} (ha : a < h.size)
    (hb : (h.descriptor b).kind = .plainClass) : h.Reaches a b ↔ b = a ∨ h.Extends a b := by
  constructor
  · intro hab
    induction hab with
    | refl a => exact Or.inl rfl
    | @step a c b hac hcb ih =>
      right
      have hc : c < h.size := Nat.lt_trans hac.lt ha
      rcases hac with hp | hlisted
      · rcases ih hc hb with rfl | hext
        · exact .parent hp
        · exact .step hp hext
      · have hkind := (derived_of_declared hdecl ha).listed_kind c hlisted
        rcases ih hc hb with rfl | hext
        · rw [hkind] at hb
          cases hb
        · have hroot := (derived_of_declared hdecl hc).parent_of_interface hkind
          cases hext with
          | parent hp =>
            rw [hroot] at hp
            cases hp
          | step hp _ =>
            rw [hroot] at hp
            cases hp
  · rintro (rfl | hext)
    · exact .refl b
    · exact hext.reaches

end

/-! ### Interfaces -/

theorem mem_inherited_iff {d : Descriptor} {i : Nat} : i ∈ h.inherited d ↔
    ∃ p, d.parent = some p ∧ i ∈ (h.descriptor p).allInterfaces := by
  unfold inherited
  cases d.parent with
  | none => simp
  | some p => simp

theorem lt_of_mem_inherited {a i : Nat} (hi : i ∈ h.inherited (h.descriptor a)) : i < a := by
  obtain ⟨p, hp, hi⟩ := mem_inherited_iff.1 hi
  exact Nat.lt_trans (lt_of_mem_allInterfaces hi) (parent_lt hp)

theorem mem_of_mem_uniteInterfaces {inherited listed : List Nat} {i : Nat}
    (hi : i ∈ h.uniteInterfaces inherited listed) :
    i ∈ inherited ∨ ∃ j ∈ listed, i ∈ (h.descriptor j).allInterfaces ∨ i = j := by
  have hmem := (distinctBy_sublist _ _).mem hi
  simpa only [List.mem_append, List.mem_flatMap, List.mem_singleton] using hmem

section

variable (hdecl : h.Declared)
include hdecl

theorem kind_of_mem_allInterfaces {a b : Nat} (ha : a < h.size)
    (hb : b ∈ (h.descriptor a).allInterfaces) : (h.descriptor b).kind = .interface := by
  induction a using Nat.strongRecOn with
  | ind a ih =>
    have hd := derived_of_declared hdecl ha
    rw [hd.united] at hb
    rcases mem_of_mem_uniteInterfaces hb with hb | ⟨j, hj, hb | rfl⟩
    · obtain ⟨p, hp, hb⟩ := mem_inherited_iff.1 hb
      have hlt := parent_lt hp
      exact ih p hlt (Nat.lt_trans hlt ha) hb
    · have hlt : j < a := Direct.lt (h := h) (.inr hj)
      exact ih j hlt (Nat.lt_trans hlt ha) hb
    · exact hd.listed_kind b hj

theorem nodup_allInterfaces {a : Nat} (ha : a < h.size) :
    ((h.descriptor a).allInterfaces.map fun i => (h.descriptor i).id).Nodup := by
  rw [(derived_of_declared hdecl ha).united]
  exact nodup_map_distinctBy _ _

end

/-! ### Identities -/

/-- Different classes have different identities. -/
def Identified (h : Hierarchy cfg) : Prop :=
  ∀ r s, r < h.size → s < h.size → (h.descriptor r).id = (h.descriptor s).id → r = s

section

variable (hdecl : h.Declared) (hids : h.Identified)
include hids

theorem mem_uniteInterfaces_iff {inherited listed : List Nat}
    (hinherited : ∀ i ∈ inherited, i < h.size) (hlisted : ∀ i ∈ listed, i < h.size) {i : Nat} :
    i ∈ h.uniteInterfaces inherited listed ↔
      i ∈ inherited ∨ ∃ j ∈ listed, i ∈ (h.descriptor j).allInterfaces ∨ i = j := by
  have hbound := lt_of_mem_parts (h := h) hinherited hlisted
  unfold uniteInterfaces
  rw [mem_distinctBy fun x hx y hy => hids x y (hbound x hx) (hbound y hy)]
  simp only [List.mem_append, List.mem_flatMap, List.mem_singleton, List.not_mem_nil,
    not_false_eq_true, and_true]

include hdecl

theorem mem_allInterfaces_step {a b : Nat} (ha : a < h.size) :
    b ∈ (h.descriptor a).allInterfaces ↔
      (∃ c, h.Direct a c ∧ b ∈ (h.descriptor c).allInterfaces) ∨
        b ∈ (h.descriptor a).interfaces := by
  have hd := derived_of_declared hdecl ha
  have hinherited : ∀ i ∈ h.inherited (h.descriptor a), i < h.size := fun _ hi =>
    Nat.lt_trans (lt_of_mem_inherited hi) ha
  have hlisted : ∀ i ∈ (h.descriptor a).interfaces, i < h.size := fun _ hi =>
    Nat.lt_trans (Direct.lt (.inr hi)) ha
  rw [hd.united, mem_uniteInterfaces_iff hids hinherited hlisted, mem_inherited_iff]
  constructor
  · rintro (⟨p, hp, hb⟩ | ⟨j, hj, hb | rfl⟩)
    · exact Or.inl ⟨p, .inl hp, hb⟩
    · exact Or.inl ⟨j, .inr hj, hb⟩
    · exact Or.inr hj
  · rintro (⟨c, hp | hj, hb⟩ | hb)
    · exact Or.inl ⟨c, hp, hb⟩
    · exact Or.inr ⟨c, hj, Or.inl hb⟩
    · exact Or.inr ⟨b, hb, Or.inr rfl⟩

/-- The interfaces of a class are the interfaces that are reached from it. -/
theorem mem_allInterfaces_iff {a b : Nat} (ha : a < h.size) :
    b ∈ (h.descriptor a).allInterfaces ↔
      (h.descriptor b).kind = .interface ∧ h.Reaches a b ∧ b ≠ a := by
  constructor
  · intro hb
    refine ⟨kind_of_mem_allInterfaces hdecl ha hb, ?_, Nat.ne_of_lt (lt_of_mem_allInterfaces hb)⟩
    induction a using Nat.strongRecOn with
    | ind a ih =>
      rcases (mem_allInterfaces_step hdecl hids ha).1 hb with ⟨c, hac, hb⟩ | hb
      · exact .step hac (ih c hac.lt (Nat.lt_trans hac.lt ha) hb)
      · exact Direct.reaches (.inr hb)
  · rintro ⟨hkind, hab, hne⟩
    induction hab with
    | refl a => exact absurd rfl hne
    | @step a c b hac hcb ih =>
      have hc : c < h.size := Nat.lt_trans hac.lt ha
      rw [mem_allInterfaces_step hdecl hids ha]
      by_cases hbc : b = c
      · subst hbc
        rcases hac with hp | hlisted
        · -- a superclass is no interface
          have hclass := (derived_of_declared hdecl ha).parent_kind b hp
          rw [hkind] at hclass
          cases hclass
        · exact Or.inr hlisted
      · exact Or.inl ⟨c, hac, ih hc hkind hbc⟩

/-- The scan of the declarations finds the secondary supertypes. -/
theorem scanSecondary_iff {a b : Nat} (ha : a < h.size) :
    h.scanSecondary a b = true ↔
      h.Extends a b ∧ cfg.primaryLimit ≤ (h.descriptor b).depth ∨
        (h.descriptor b).kind = .interface ∧ h.Reaches a b ∧ b ≠ a := by
  rw [scanSecondary, Bool.or_eq_true, List.contains_iff_mem, List.contains_iff_mem,
    mem_overflowSupers_iff hdecl ha, mem_allInterfaces_iff hdecl hids ha]

end

/-! ### Primary arrays -/

theorem extends_iff {a b : Nat} : h.Extends a b ↔
    ∃ p, (h.descriptor a).parent = some p ∧ (b = p ∨ h.Extends p b) := by
  constructor
  · intro hab
    cases hab with
    | parent hp => exact ⟨b, hp, Or.inl rfl⟩
    | step hp hpb => exact ⟨_, hp, Or.inr hpb⟩
  · rintro ⟨p, hp, rfl | hpb⟩
    · exact .parent hp
    · exact .step hp hpb

section

variable (hdecl : h.Declared)
include hdecl

/-- The array grows with depth until it is full. -/
theorem size_primarySupers {a : Nat} (ha : a < h.size)
    (hclass : (h.descriptor a).kind = .plainClass) :
    (h.inheritedIds (h.descriptor a)).size = min (h.descriptor a).depth cfg.primaryLimit ∧
      (h.descriptor a).primarySupers.size =
        min ((h.descriptor a).depth + 1) cfg.primaryLimit := by
  induction a using Nat.strongRecOn with
  | ind a ih =>
    have hd := derived_of_declared hdecl ha
    have hinherited :
        (h.inheritedIds (h.descriptor a)).size = min (h.descriptor a).depth cfg.primaryLimit := by
      unfold inheritedIds
      cases hp : (h.descriptor a).parent with
      | none => simp [hd.depth_root hp]
      | some p =>
        have hlt := parent_lt hp
        rw [hd.depth_child p hp]
        exact (ih p hlt (Nat.lt_trans hlt ha) (hd.parent_kind p hp)).2
    refine ⟨hinherited, ?_⟩
    rw [hd.primary_of_class hclass]
    split
    · rw [Array.size_push, hinherited]
      omega
    · rw [hinherited]
      omega

/-- The array has the identities of the class and its superclasses, each at its depth. -/
theorem primarySuper?_eq_some_iff {a k : Nat} {id : ClassId} (ha : a < h.size)
    (hclass : (h.descriptor a).kind = .plainClass) :
    h.primarySuper? a k = some id ↔
      ∃ b, (b = a ∨ h.Extends a b) ∧ (h.descriptor b).depth = k ∧ k < cfg.primaryLimit ∧
        (h.descriptor b).id = id := by
  unfold primarySuper?
  induction a using Nat.strongRecOn with
  | ind a ih =>
    have hd := derived_of_declared hdecl ha
    have hinherited : (h.inheritedIds (h.descriptor a))[k]? = some id ↔
        ∃ b, h.Extends a b ∧ (h.descriptor b).depth = k ∧ k < cfg.primaryLimit ∧
          (h.descriptor b).id = id := by
      unfold inheritedIds
      cases hp : (h.descriptor a).parent with
      | none =>
        have hnone : ∀ b, ¬ h.Extends a b := by
          intro b hab
          obtain ⟨p, hp', -⟩ := extends_iff.1 hab
          rw [hp] at hp'
          cases hp'
        simp [hnone]
      | some p =>
        have hlt := parent_lt hp
        have hnext : ∀ b, h.Extends a b ↔ b = p ∨ h.Extends p b := by
          intro b
          rw [extends_iff, hp]
          simp
        simp only [hnext]
        exact ih p hlt (Nat.lt_trans hlt ha) (hd.parent_kind p hp)
    have hsize := (size_primarySupers hdecl ha hclass).1
    rw [hd.primary_of_class hclass]
    constructor
    · intro hk
      split at hk
      · rename_i hfits
        rw [Array.getElem?_push] at hk
        split at hk
        · rename_i hlast
          exact ⟨a, Or.inl rfl, by omega, by omega, Option.some.inj hk⟩
        · obtain ⟨b, hab, hrest⟩ := hinherited.1 hk
          exact ⟨b, Or.inr hab, hrest⟩
      · obtain ⟨b, hab, hrest⟩ := hinherited.1 hk
        exact ⟨b, Or.inr hab, hrest⟩
    · rintro ⟨b, rfl | hab, hdepth, hlimit, hid⟩
      · rw [if_pos (by omega), Array.getElem?_push, if_pos (by omega), hid]
      · have hentry := hinherited.2 ⟨b, hab, hdepth, hlimit, hid⟩
        have hlt := hab.depth_lt hdecl ha
        split
        · rw [Array.getElem?_push, if_neg (by omega), hentry]
        · exact hentry

/-- For a class of small depth one comparison tells whether it is a superclass. -/
theorem primarySuper?_iff (hids : h.Identified) {a b : Nat} (ha : a < h.size) (hb : b < h.size)
    (hclass : (h.descriptor b).kind = .plainClass)
    (hdepth : (h.descriptor b).depth < cfg.primaryLimit) :
    h.primarySuper? a (h.descriptor b).depth = some (h.descriptor b).id ↔
      b = a ∨ h.Extends a b := by
  cases hkind : (h.descriptor a).kind with
  | plainClass =>
    rw [primarySuper?_eq_some_iff hdecl ha hkind]
    constructor
    · rintro ⟨c, hac, -, -, hid⟩
      have hc : c < h.size := by
        rcases hac with rfl | hac
        · exact ha
        · exact Nat.lt_trans hac.lt ha
      rwa [← hids c b hc hb hid]
    · intro hab
      exact ⟨b, hab, rfl, hdepth, rfl⟩
  | interface =>
    have hd := derived_of_declared hdecl ha
    rw [primarySuper?, hd.primary_of_interface hkind]
    constructor
    · intro hentry
      simp at hentry
    · rintro (rfl | hab)
      · rw [hkind] at hclass
        cases hclass
      · obtain ⟨p, hp, -⟩ := extends_iff.1 hab
        rw [hd.parent_of_interface hkind] at hp
        cases hp

end

/-! ### Candidates -/

section

theorem nodup_supers (a : Nat) : (h.supers a).Nodup := by
  induction a using Nat.strongRecOn with
  | ind a ih =>
    rw [supers_eq]
    cases hp : (h.descriptor a).parent with
    | none => exact List.nodup_nil
    | some p =>
      refine List.nodup_cons.2 ⟨?_, ih p (parent_lt hp)⟩
      intro hmem
      exact absurd (mem_supers_iff.1 hmem).lt (Nat.lt_irrefl p)

variable (hdecl : h.Declared)
include hdecl

theorem nodup_candidates {a : Nat} (ha : a < h.size) :
    ((h.candidates a).primaries ++ (h.candidates a).secondaries).Nodup := by
  have hids : (((h.candidates a).primaries ++ (h.candidates a).secondaries).map
      fun s => (h.descriptor s).id).Nodup := by
    rw [List.map_append, List.nodup_append]
    refine ⟨nodup_map_distinctBy _ _, nodup_allInterfaces hdecl ha, ?_⟩
    rintro id hprimary _ hsecondary rfl
    exact (mem_map_distinctBy.1 hprimary).2 hsecondary
  refine List.Pairwise.of_map _ ?_ hids
  intro s t hne heq
  exact hne (congrArg (fun s => (h.descriptor s).id) heq)

omit hdecl in
theorem lt_of_mem_candidates {a b : Nat}
    (hb : b ∈ (h.candidates a).primaries ++ (h.candidates a).secondaries) : b < a := by
  rcases List.mem_append.1 hb with hb | hb
  · have hmem : b ∈ h.overflowSupers a := (distinctBy_sublist _ _).mem hb
    have hsuper : b ∈ h.supers a := (List.takeWhile_sublist _).mem hmem
    exact (mem_supers_iff.1 hsuper).lt
  · exact lt_of_mem_allInterfaces hb

/-- With identities of their own, all overflowed superclasses are candidates. -/
theorem primaries_of_candidates (hids : h.Identified) {a : Nat} (ha : a < h.size) :
    (h.candidates a).primaries = h.overflowSupers a := by
  have hsub : (h.overflowSupers a).Sublist (h.supers a) := List.takeWhile_sublist _
  have hbound : ∀ s ∈ h.overflowSupers a, s < h.size := fun s hs =>
    Nat.lt_trans (mem_supers_iff.1 (hsub.mem hs)).lt ha
  apply distinctBy_eq_self
  · -- a superclass is no interface, and so it has another identity
    intro s hs htaken
    obtain ⟨i, hi, hid⟩ := List.mem_map.1 htaken
    have hsame := hids i s (Nat.lt_trans (lt_of_mem_allInterfaces hi) ha) (hbound s hs) hid
    have hclass := (mem_supers_iff.1 (hsub.mem hs)).kind hdecl ha
    rw [← hsame, kind_of_mem_allInterfaces hdecl ha hi] at hclass
    cases hclass
  · rw [List.Nodup, List.pairwise_map]
    refine List.Pairwise.imp_of_mem ?_ ((nodup_supers a).sublist hsub)
    intro s t hs ht hne hid
    exact hne (hids s t (hbound s hs) (hbound t ht) hid)

/-- The candidates are what a scan of the declarations finds. -/
theorem mem_candidates_iff (hids : h.Identified) {a b : Nat} (ha : a < h.size) :
    b ∈ (h.candidates a).primaries ++ (h.candidates a).secondaries ↔
      h.scanSecondary a b = true := by
  rw [primaries_of_candidates hdecl hids ha, List.mem_append, scanSecondary, Bool.or_eq_true,
    List.contains_iff_mem, List.contains_iff_mem]
  rfl

end

/-! ### Later declarations -/

section

variable {next : Hierarchy cfg} {n : Nat} (hagree : Agree n h next)
include hagree

theorem Agree.overflowSupers {a : Nat} (ha : a < n) :
    next.overflowSupers a = h.overflowSupers a := by
  unfold Hierarchy.overflowSupers
  induction a using Nat.strongRecOn with
  | ind a ih =>
    rw [supers_eq, supers_eq, hagree a ha]
    cases hp : (h.descriptor a).parent with
    | none => rfl
    | some p =>
      have hlt := parent_lt hp
      have hsame : next.canBePrimary p = h.canBePrimary p := by
        unfold canBePrimary
        rw [hagree p (Nat.lt_trans hlt ha)]
      simp only [List.takeWhile_cons, hsame, ih p hlt (Nat.lt_trans hlt ha)]

theorem Agree.scanSecondary {a : Nat} (ha : a < n) (b : Nat) :
    next.scanSecondary a b = h.scanSecondary a b := by
  unfold Hierarchy.scanSecondary
  rw [hagree.overflowSupers ha, hagree a ha]

theorem Agree.candidates {a : Nat} (ha : a < n) : next.candidates a = h.candidates a := by
  have hbelow : ∀ s ∈ h.overflowSupers a, s < n := by
    intro s hs
    have hmem : s ∈ h.supers a := (List.takeWhile_sublist _).mem hs
    exact Nat.lt_trans (mem_supers_iff.1 hmem).lt ha
  have htaken : (h.descriptor a).allInterfaces.map (fun i => (next.descriptor i).id) =
      (h.descriptor a).allInterfaces.map fun i => (h.descriptor i).id := by
    apply List.map_congr_left
    intro i hi
    rw [hagree i (Nat.lt_trans (lt_of_mem_allInterfaces hi) ha)]
  unfold Hierarchy.candidates
  dsimp only
  rw [hagree a ha, hagree.overflowSupers ha, htaken]
  congr 1
  apply distinctBy_congr
  intro s hs
  rw [hagree s (hbelow s hs)]

end

end Supertypes.Hierarchy
