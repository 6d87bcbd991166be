/-
  Supertypes/Proofs/Coherence.lean
  ================================
  **Tables on which the short lookup is right.**

  A lookup stops as soon as a cell or a tag says that nothing can follow.  That is right
  on a coherent table (`Table.Coherent`): residents of both slot zones sit in their
  natural slots, and whatever lost a slot left a resident and a tag there that announce
  it.  On such a table the lookup answers every question as a scan of all cells does
  (`contains_eq_scan_of_coherent`), for stored classes and for all others.

  Nothing is assumed about where the table comes from: the cells and their tags may be
  anything that the type of tables admits.
-/
import Supertypes.Proofs.Slots
import Supertypes.Table.Basic

namespace Supertypes

namespace Table

variable {cfg : Config} {α : Type}

/-! ### What the zones hold -/

theorem primaryZone_eq_ofFn (t : Table cfg α) : t.primaryZone = List.ofFn t.primaryCell := by
  have hfit := t.zones_fit
  apply List.ext_getElem
  · rw [primaryZone, List.length_take, Array.length_toList, List.length_ofFn]
    omega
  · intro k hk hk'
    simp [primaryZone, primaryCell]

theorem secondaryZone_eq_ofFn (t : Table cfg α) : t.secondaryZone = List.ofFn t.secondaryCell := by
  have hfit := t.zones_fit
  apply List.ext_getElem
  · rw [secondaryZone, List.length_take, List.length_drop, Array.length_toList, List.length_ofFn]
    omega
  · intro k hk hk'
    simp [secondaryZone, secondaryCell]

theorem mem_ofFn_resident_iff {n : Nat} {cell : Fin n → Entry α} {x : α} :
    x ∈ (List.ofFn cell).filterMap Entry.resident ↔ ∃ i, (cell i).resident = some x := by
  rw [List.mem_filterMap]
  constructor
  · rintro ⟨e, he, hx⟩
    obtain ⟨i, rfl⟩ := List.mem_ofFn.1 he
    exact ⟨i, hx⟩
  · rintro ⟨i, hi⟩
    exact ⟨cell i, List.mem_ofFn.2 ⟨i, rfl⟩, hi⟩

theorem mem_members_iff {t : Table cfg α} {x : α} :
    x ∈ t.members ↔ (∃ i, (t.primaryCell i).resident = some x) ∨
      (∃ j, (t.secondaryCell j).resident = some x) ∨
      x ∈ t.tailZone.filterMap Entry.resident := by
  rw [members, ← t.zones_append, List.filterMap_append, List.filterMap_append, List.mem_append,
    List.mem_append, primaryZone_eq_ofFn, secondaryZone_eq_ofFn, mem_ofFn_resident_iff,
    mem_ofFn_resident_iff, or_assoc]

theorem inTail_iff [DecidableEq α] {t : Table cfg α} {x : α} :
    t.inTail x = true ↔ x ∈ t.tailZone.filterMap Entry.resident := by
  rw [inTail, Array.any_iff_exists, List.mem_filterMap]
  constructor
  · rintro ⟨k, hk, hstart, -, hholds⟩
    refine ⟨t.storage[k], ?_, by simpa [Entry.holds] using hholds⟩
    rw [tailZone, List.mem_drop_iff_getElem]
    exact ⟨k - t.tailOffset, by simp; omega, by simp [Nat.add_sub_cancel' hstart]⟩
  · rintro ⟨e, he, hx⟩
    rw [tailZone, List.mem_drop_iff_getElem] at he
    obtain ⟨k, hk, rfl⟩ := he
    rw [Array.length_toList] at hk
    refine ⟨t.tailOffset + k, by omega, by omega, by omega, ?_⟩
    simpa [Entry.holds] using hx

/-! ### Coherence -/

/-- Somebody resides in the cell, and its tag makes an announcement. -/
def Announces (entry : Entry α) (announced : Conflict → Bool) : Prop :=
  entry.resident ≠ none ∧ announced entry.tag = true

variable [Coded α]

/-- Residents are where they belong, and what overflowed is announced where it belongs. -/
structure Coherent (t : Table cfg α) : Prop where
  primary_home : ∀ i x, (t.primaryCell i).resident = some x →
    naturalSlot cfg.sizing x t.primary = .ok i
  secondary_home : ∀ j x, (t.secondaryCell j).resident = some x →
    naturalSlot cfg.sizing x t.secondary = .ok j
  secondary_announced : ∀ j x, (t.secondaryCell j).resident = some x →
    ∃ i, naturalSlot cfg.sizing x t.primary = .ok i ∧
      Announces (t.primaryCell i) Conflict.secondary
  tail_announced : t.primary.size ≠ 0 → ∀ x ∈ t.tailZone.filterMap Entry.resident,
    ∃ i, naturalSlot cfg.sizing x t.primary = .ok i ∧ Announces (t.primaryCell i) Conflict.tail
  tail_announced_twice : t.secondary.size ≠ 0 → ∀ x ∈ t.tailZone.filterMap Entry.resident,
    ∃ j, naturalSlot cfg.sizing x t.secondary = .ok j ∧
      Announces (t.secondaryCell j) Conflict.tail

/-- Both seeds were composed for sizes that the strategy may have. -/
def Composed (t : Table cfg α) : Prop :=
  t.primary.Composed cfg.sizing ∧ t.secondary.Composed cfg.sizing

/-! ### Where elements can be -/

section

variable {t : Table cfg α} (hco : t.Coherent) {x : α}
include hco

/-- In the primary zone an element can only be in its natural slot. -/
theorem Coherent.primary_iff {i : Fin t.primary.size}
    (hi : naturalSlot cfg.sizing x t.primary = .ok i) :
    (∃ k, (t.primaryCell k).resident = some x) ↔ (t.primaryCell i).resident = some x := by
  constructor
  · rintro ⟨k, hk⟩
    have hslot := hco.primary_home k x hk
    rw [hi] at hslot
    rwa [Except.ok.inj hslot]
  · intro h
    exact ⟨i, h⟩

theorem Coherent.secondary_iff {j : Fin t.secondary.size}
    (hj : naturalSlot cfg.sizing x t.secondary = .ok j) :
    (∃ k, (t.secondaryCell k).resident = some x) ↔ (t.secondaryCell j).resident = some x := by
  constructor
  · rintro ⟨k, hk⟩
    have hslot := hco.secondary_home k x hk
    rw [hj] at hslot
    rwa [Except.ok.inj hslot]
  · intro h
    exact ⟨j, h⟩

/-- An element of the secondary zone is announced by its natural primary cell. -/
theorem Coherent.announced_of_secondary {i : Fin t.primary.size}
    (hi : naturalSlot cfg.sizing x t.primary = .ok i)
    (hx : ∃ j, (t.secondaryCell j).resident = some x) :
    Announces (t.primaryCell i) Conflict.secondary := by
  obtain ⟨j, hj⟩ := hx
  obtain ⟨k, hk, hannounced⟩ := hco.secondary_announced j x hj
  rw [hi] at hk
  rwa [Except.ok.inj hk]

theorem Coherent.announced_of_tail {i : Fin t.primary.size}
    (hi : naturalSlot cfg.sizing x t.primary = .ok i)
    (hx : x ∈ t.tailZone.filterMap Entry.resident) :
    Announces (t.primaryCell i) Conflict.tail := by
  have hne : t.primary.size ≠ 0 := Nat.ne_of_gt (Nat.lt_of_le_of_lt (Nat.zero_le _) i.isLt)
  obtain ⟨k, hk, hannounced⟩ := hco.tail_announced hne x hx
  rw [hi] at hk
  rwa [Except.ok.inj hk]

theorem Coherent.announced_twice_of_tail {j : Fin t.secondary.size}
    (hj : naturalSlot cfg.sizing x t.secondary = .ok j)
    (hx : x ∈ t.tailZone.filterMap Entry.resident) :
    Announces (t.secondaryCell j) Conflict.tail := by
  have hne : t.secondary.size ≠ 0 := Nat.ne_of_gt (Nat.lt_of_le_of_lt (Nat.zero_le _) j.isLt)
  obtain ⟨k, hk, hannounced⟩ := hco.tail_announced_twice hne x hx
  rw [hj] at hk
  rwa [Except.ok.inj hk]

end

/-! ### Where a lookup may stop

A lookup has six ways out before it has seen every cell that may hold an element.  Each of
them comes with the fact about the stored elements that makes it right. -/

section

variable {t : Table cfg α} (hco : t.Coherent) {x : α} {i : Fin t.primary.size}
  (hi : naturalSlot cfg.sizing x t.primary = .ok i)
include hco hi

/-- Whatever overflowed has left somebody in its slot. -/
theorem Coherent.not_mem_of_vacant (hvacant : (t.primaryCell i).resident = none) :
    x ∉ t.members := by
  rw [mem_members_iff, hco.primary_iff hi]
  rintro (h | h | h)
  · rw [hvacant] at h
    cases h
  · exact (hco.announced_of_secondary hi h).1 hvacant
  · exact (hco.announced_of_tail hi h).1 hvacant

variable (hother : (t.primaryCell i).resident ≠ some x)
include hother

theorem Coherent.mem_iff_beyond : x ∈ t.members ↔
    (∃ j, (t.secondaryCell j).resident = some x) ∨ x ∈ t.tailZone.filterMap Entry.resident := by
  rw [mem_members_iff, hco.primary_iff hi, or_iff_right hother]

theorem Coherent.not_mem_of_untagged (htag : (t.primaryCell i).tag.isEmpty = true) :
    x ∉ t.members := by
  have hnone : (t.primaryCell i).tag = .none := by simpa [Conflict.isEmpty] using htag
  rw [hco.mem_iff_beyond hi hother]
  rintro (h | h)
  · have hannounced := (hco.announced_of_secondary hi h).2
    rw [hnone] at hannounced
    cases hannounced
  · have hannounced := (hco.announced_of_tail hi h).2
    rw [hnone] at hannounced
    cases hannounced

theorem Coherent.mem_iff_of_single (hsingle : t.secondary.size = 0) : x ∈ t.members ↔
    (t.primaryCell i).tag.tail = true ∧ x ∈ t.tailZone.filterMap Entry.resident := by
  rw [hco.mem_iff_beyond hi hother]
  constructor
  · rintro (⟨j, -⟩ | h)
    · exact absurd j.isLt (by omega)
    · exact ⟨(hco.announced_of_tail hi h).2, h⟩
  · rintro ⟨-, h⟩
    exact Or.inr h

variable {j : Fin t.secondary.size} (hj : naturalSlot cfg.sizing x t.secondary = .ok j)
include hj

theorem Coherent.not_mem_of_vacant_twice (hvacant : (t.secondaryCell j).resident = none) :
    x ∉ t.members := by
  rw [hco.mem_iff_beyond hi hother, hco.secondary_iff hj]
  rintro (h | h)
  · rw [hvacant] at h
    cases h
  · exact (hco.announced_twice_of_tail hj h).1 hvacant

theorem Coherent.mem_iff_of_double (hother' : (t.secondaryCell j).resident ≠ some x) :
    x ∈ t.members ↔ ((t.primaryCell i).tag.tail = true ∧ (t.secondaryCell j).tag.tail = true) ∧
      x ∈ t.tailZone.filterMap Entry.resident := by
  rw [hco.mem_iff_beyond hi hother, hco.secondary_iff hj, or_iff_right hother']
  constructor
  · intro h
    exact ⟨⟨(hco.announced_of_tail hi h).2, (hco.announced_twice_of_tail hj h).2⟩, h⟩
  · rintro ⟨-, h⟩
    exact h

end

/-! ### Lookup and scan -/

variable [DecidableEq α]

omit [Coded α] in
theorem holds_iff {entry : Entry α} {x : α} : entry.holds x = true ↔ entry.resident = some x := by
  simp [Entry.holds]

omit [Coded α] in
theorem scan_eq_false_iff {t : Table cfg α} {x : α} : t.scan x = false ↔ x ∉ t.members := by
  rw [← scan_iff, Bool.not_eq_true]

omit [Coded α] in
theorem inTail_eq_scan {t : Table cfg α} (hzero : t.primary.size = 0) (x : α) :
    t.inTail x = t.scan x := by
  have hsecondary : t.secondary.size = 0 := t.secondary_needs_primary.resolve_left (by simp [hzero])
  rw [Bool.eq_iff_iff, inTail_iff, scan_iff, mem_members_iff]
  constructor
  · intro h
    exact Or.inr (Or.inr h)
  · rintro (⟨i, -⟩ | ⟨j, -⟩ | h)
    · exact absurd i.isLt (by omega)
    · exact absurd j.isLt (by omega)
    · exact h

/-- On a coherent table the short lookup answers as the scan of all cells does. -/
theorem contains_eq_scan_of_coherent {t : Table cfg α} (hseeds : t.Composed) (hco : t.Coherent)
    (x : α) : t.contains x = .ok (t.scan x) := by
  unfold contains
  by_cases hzero : t.primary.size = 0
  · rw [if_pos hzero, inTail_eq_scan hzero]
  rw [if_neg hzero]
  obtain ⟨i, hi⟩ : ∃ i, naturalSlot cfg.sizing x t.primary = .ok i :=
    ⟨_, naturalSlot_eq_ok hseeds.1 hzero x⟩
  simp only [hi]
  by_cases hvacant : (t.primaryCell i).resident = none
  · rw [if_pos hvacant, scan_eq_false_iff.2 (hco.not_mem_of_vacant hi hvacant)]
  rw [if_neg hvacant]
  by_cases hholds : (t.primaryCell i).holds x = true
  · have hmem : x ∈ t.members := mem_members_iff.2 (Or.inl ⟨i, holds_iff.1 hholds⟩)
    rw [if_pos hholds, scan_iff.2 hmem]
  rw [if_neg hholds]
  have hother : (t.primaryCell i).resident ≠ some x := mt holds_iff.2 hholds
  by_cases htag : (t.primaryCell i).tag.isEmpty = true
  · rw [if_pos htag, scan_eq_false_iff.2 (hco.not_mem_of_untagged hi hother htag)]
  rw [if_neg htag]
  by_cases hsingle : t.secondary.size = 0
  · rw [if_pos hsingle]
    refine congrArg Except.ok (Bool.eq_iff_iff.2 ?_)
    rw [Bool.and_eq_true, inTail_iff, scan_iff, hco.mem_iff_of_single hi hother hsingle]
  rw [if_neg hsingle]
  obtain ⟨j, hj⟩ : ∃ j, naturalSlot cfg.sizing x t.secondary = .ok j :=
    ⟨_, naturalSlot_eq_ok hseeds.2 hsingle x⟩
  simp only [hj]
  by_cases hvacant' : (t.secondaryCell j).resident = none
  · rw [if_pos hvacant', scan_eq_false_iff.2 (hco.not_mem_of_vacant_twice hi hother hj hvacant')]
  rw [if_neg hvacant']
  by_cases hholds' : (t.secondaryCell j).holds x = true
  · have hmem : x ∈ t.members := mem_members_iff.2 (Or.inr (Or.inl ⟨j, holds_iff.1 hholds'⟩))
    rw [if_pos hholds', scan_iff.2 hmem]
  rw [if_neg hholds']
  have hother' : (t.secondaryCell j).resident ≠ some x := mt holds_iff.2 hholds'
  refine congrArg Except.ok (Bool.eq_iff_iff.2 ?_)
  rw [Bool.and_eq_true, Bool.and_eq_true, inTail_iff, scan_iff,
    hco.mem_iff_of_double hi hother hj hother']

end Table

end Supertypes
