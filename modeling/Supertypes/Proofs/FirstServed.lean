/-
  Supertypes/Proofs/FirstServed.lean
  ==================================
  **First come, first served.**

  What the packer makes of a seed and a list of elements can be said without it.  It
  fails in one case only, when the first element of a slot comes again; otherwise the
  packing is the closed form of the list (`pack_complete`).  How the list is cut into
  groups plays no part, and a packing is perfect if no two elements share a slot.

  Packing within a limit is the same packing, looked at afterwards: it comes to nothing
  exactly if the tail is too long at the end (`packWithin_complete`).
-/
import Supertypes.Proofs.Placement

namespace Supertypes

/-- Nothing is left out exactly if all keys are new. -/
theorem laterBy_eq_nil_iff {α κ : Type} [DecidableEq κ] {key : α → κ} {seen : List κ}
    {xs : List α} :
    laterBy key seen xs = [] ↔ (∀ x ∈ xs, key x ∉ seen) ∧ (xs.map key).Nodup := by
  induction xs generalizing seen with
  | nil => simp [laterBy]
  | cons x xs ih =>
    rw [laterBy, List.forall_mem_cons, List.map_cons, List.nodup_cons]
    by_cases hx : key x ∈ seen
    · simp [hx]
    · rw [if_neg hx, ih]
      constructor
      · rintro ⟨hnew, hnodup⟩
        have hother : key x ∉ xs.map key := by
          rintro hmem
          obtain ⟨y, hy, heq⟩ := List.mem_map.1 hmem
          exact hnew y hy (heq ▸ List.mem_cons_self)
        exact ⟨⟨hx, fun y hy hseen => hnew y hy (List.mem_cons_of_mem _ hseen)⟩, hother, hnodup⟩
      · rintro ⟨⟨-, hnew⟩, hother, hnodup⟩
        refine ⟨fun y hy hseen => ?_, hnodup⟩
        rcases List.mem_cons.1 hseen with heq | hseen
        · exact hother (heq ▸ List.mem_map_of_mem hy)
        · exact hnew y hy hseen

/-! ### Two slots -/

/-- A seed of size two, mask one and no salt.  Of the codes used here, `2` belongs in the
    second slot, `0` and `1` in the first. -/
def twoSlots : Seed default := ⟨0x102⟩

theorem composed_twoSlots : twoSlots.Composed .powerOfTwo :=
  ⟨0, 2, rfl, Or.inr fun _ => ⟨1, rfl⟩⟩

/-! ### The packer -/

section

variable {cap : Capacity} {α : Type} [Coded α] {sizing : Sizing} {es : List α}
  {p : Packing cap α}

theorem Placed.residents_eq_countP (hp : Placed sizing es p) :
    p.residents = p.slots.toList.countP fun slot => slot.resident.isSome := by
  rw [hp.residents, Packing.residentList, List.length_filterMap_eq_countP]

/-- No element is displaced exactly if each has a slot of its own. -/
theorem Placed.isPerfect_iff (hp : Placed sizing es p) : p.isPerfect = true ↔
    es = [] ∨ p.seed.size ≠ 0 ∧ (es.map (home sizing p.seed)).Nodup := by
  have hempty : p.isPerfect = true ↔ p.tail.toList = [] := by
    rw [Packing.isPerfect, Array.isEmpty_iff, Array.toList_eq_nil_iff]
  rw [hempty]
  by_cases hzero : p.seed.size = 0
  · rw [hp.plain hzero]
    simp [hzero]
  · rw [hp.tail hzero, laterBy_eq_nil_iff]
    constructor
    · rintro ⟨-, hnodup⟩
      exact Or.inr ⟨hzero, hnodup⟩
    · rintro (rfl | ⟨-, hnodup⟩)
      · simp
      · exact ⟨fun _ _ => List.not_mem_nil, hnodup⟩

variable [DecidableEq α] {seed : Seed cap} {groups : List (List α)}

/-- A packing is the closed form of its elements, however they are grouped, and only an
    element that meets itself in its slot makes it fail. -/
theorem pack_complete (hseed : seed.Composed sizing)
    (hfew : groups.flatten.length < UInt32.size) :
    (seed.size ≠ 0 → ∀ x : α, ∃ i, naturalSlot sizing x seed = .ok i ∧
      home sizing seed x = i.val) ∧
    (pack sizing seed groups = .error .duplicateElement ↔
      Repeats sizing seed groups.flatten) ∧
    (¬ Repeats sizing seed groups.flatten →
      ∃ p, pack sizing seed groups = .ok p ∧ p.seed = seed ∧ Placed sizing groups.flatten p ∧
        p.residents = (p.slots.toList.countP fun slot => slot.resident.isSome) ∧
        p.length = groups.flatten.length ∧
        (p.isPerfect = true ↔ groups.flatten = [] ∨
          seed.size ≠ 0 ∧ (groups.flatten.map (home sizing seed)).Nodup)) ∧
    (∀ regrouped : List (List α), regrouped.flatten = groups.flatten →
      pack sizing seed regrouped = pack sizing seed groups) ∧
    (groups.flatten.Nodup → ¬ Repeats sizing seed groups.flatten) := by
  obtain ⟨hfails, hexists⟩ := pack_cases hseed hfew
  refine ⟨?_, ⟨?_, hfails⟩, ?_, ?_, not_repeats_of_nodup⟩
  · intro hne x
    exact ⟨_, naturalSlot_eq_ok hseed hne x, rfl⟩
  · intro herror
    by_contra hnot
    obtain ⟨p, hpack⟩ := hexists hnot
    rw [hpack] at herror
    cases herror
  · intro hnot
    obtain ⟨p, hpack⟩ := hexists hnot
    obtain ⟨rfl, hplaced⟩ := placed_of_pack hseed hpack
    exact ⟨p, hpack, rfl, hplaced, hplaced.residents_eq_countP, hplaced.length_eq,
      hplaced.isPerfect_iff⟩
  · intro regrouped hsame
    rw [pack_eq_placeAll, pack_eq_placeAll, hsame]

/-- An element that was displaced may come again, the resident of a slot may not. -/
theorem pack_complete_twoSlots :
    (∃ p, pack .powerOfTwo twoSlots [[(0 : UInt32), 1], [1, 2]] = .ok p ∧
      Placed .powerOfTwo [0, 1, 1, 2] p ∧ p.length = 4 ∧ p.isPerfect = false) ∧
    pack .powerOfTwo twoSlots [[(0 : UInt32), 1], [0]] = .error .duplicateElement := by
  constructor
  · obtain ⟨-, hfails, hexists, -⟩ := pack_complete composed_twoSlots
      (by decide : [[(0 : UInt32), 1], [1, 2]].flatten.length < UInt32.size)
    have hpacks : (pack .powerOfTwo twoSlots [[(0 : UInt32), 1], [1, 2]]).toOption.isSome = true := by
      decide +kernel
    have hfree : ¬ Repeats .powerOfTwo twoSlots [(0 : UInt32), 1, 1, 2] := by
      intro hrepeats
      rw [hfails.2 hrepeats] at hpacks
      cases hpacks
    obtain ⟨p, hpack, -, hplaced, -, hlength, hperfect⟩ := hexists hfree
    refine ⟨p, hpack, hplaced, hlength, ?_⟩
    rw [← Bool.not_eq_true, hperfect]
    decide +kernel
  · obtain ⟨-, hfails, -⟩ := pack_complete composed_twoSlots
      (by decide : [[(0 : UInt32), 1], [0]].flatten.length < UInt32.size)
    exact hfails.2 ⟨by decide, [], 0, [1, 0], rfl, by simp, by simp⟩

/-- Packing within a limit is packing, unless the tail ends up longer than the limit. -/
theorem packWithin_complete (hseed : seed.Composed sizing) (hnodup : groups.flatten.Nodup)
    (hfew : groups.flatten.length < UInt32.size) {limit : Nat}
    (hlimit : limit + 1 < UInt64.size) :
    ∃ p bounded, pack sizing seed groups = .ok p ∧
      packWithin sizing seed groups limit = .ok bounded ∧
      (bounded.isSome = true ↔ p.tail.size ≤ limit) ∧ ∀ q ∈ bounded, q = p := by
  obtain ⟨p, hpack⟩ := exists_pack hseed hnodup hfew
  refine ⟨p, _, hpack, packWithin_eq hpack hlimit, ?_, ?_⟩
  · by_cases hle : p.tail.size ≤ limit
    · simp [hle]
    · simp [hle]
  · intro q hq
    split at hq
    · exact (Option.some.inj hq).symm
    · cases hq

/-- One of three codes is displaced, which is as many as the first limit allows. -/
theorem packWithin_complete_twoSlots :
    ∃ p, pack .powerOfTwo twoSlots [[(0 : UInt32), 1], [2]] = .ok p ∧ p.tail.size = 1 ∧
      packWithin .powerOfTwo twoSlots [[(0 : UInt32), 1], [2]] 1 = .ok (some p) ∧
      packWithin .powerOfTwo twoSlots [[(0 : UInt32), 1], [2]] 0 = .ok none := by
  have hnodup : [[(0 : UInt32), 1], [2]].flatten.Nodup := by decide
  have hfew : [[(0 : UInt32), 1], [2]].flatten.length < UInt32.size := by decide
  obtain ⟨p, bounded, hpack, hbounded, hsome, hsame⟩ :=
    packWithin_complete composed_twoSlots hnodup hfew (by decide : 1 + 1 < UInt64.size)
  obtain ⟨q, abandoned, hpack', habandoned, hsome', -⟩ :=
    packWithin_complete composed_twoSlots hnodup hfew (by decide : 0 + 1 < UInt64.size)
  have htail : (pack .powerOfTwo twoSlots [[(0 : UInt32), 1], [2]]).toOption.map
      (fun p => p.tail.size) = some 1 := by decide +kernel
  rw [hpack] at hpack' htail
  cases hpack'
  have hone : p.tail.size = 1 := Option.some.inj htail
  obtain ⟨found, rfl⟩ := Option.isSome_iff_exists.1 (hsome.2 (Nat.le_of_eq hone))
  cases hsame found rfl
  have hnone : abandoned = none := by
    rw [← Option.isNone_iff_eq_none, ← Option.isSome_eq_false_iff, ← Bool.not_eq_true, hsome', hone]
    decide
  exact ⟨_, hpack, hone, hbounded, hnone ▸ habandoned⟩

end

end Supertypes
