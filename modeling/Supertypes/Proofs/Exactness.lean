/-
  Supertypes/Proofs/Exactness.lean
  ================================
  **Tables whose tags say neither too little nor too much.**

  Coherence asks that whatever overflowed is announced.  A table may be coherent and
  announce elements that it does not have: lookups in it are right, but they go on where
  they could have stopped, and no verification finds that.  In an exact table
  (`Table.Exact`) a tag stands where an element overflowed and nowhere else.

  An exact table is coherent (`Exact.coherent`).  The seeds only have to be fit, so that
  everything that overflowed has a natural slot whose tag can be asked.
-/
import Supertypes.Proofs.Coherence

namespace Supertypes

theorem Conflict.ne_none_iff {t : Conflict} : t ≠ .none ↔ t.secondary = true ∨ t.tail = true := by
  obtain ⟨secondary, tail⟩ := t
  cases secondary <;> cases tail <;> decide

namespace Table

variable {cfg : Config} {α : Type}

theorem mem_storage_iff {t : Table cfg α} {entry : Entry α} : entry ∈ t.storage ↔
    (∃ i, t.primaryCell i = entry) ∨ (∃ j, t.secondaryCell j = entry) ∨ entry ∈ t.tailZone := by
  rw [← Array.mem_toList_iff, ← t.zones_append, List.mem_append, List.mem_append,
    primaryZone_eq_ofFn, secondaryZone_eq_ofFn, List.mem_ofFn, List.mem_ofFn, or_assoc]

variable [Coded α]

/-- Residents are where they belong, and a cell is tagged exactly if an element of a later
    zone belongs to it. -/
structure Exact (t : Table cfg α) : Prop where
  primary_home : ∀ i x, (t.primaryCell i).resident = some x →
    naturalSlot cfg.sizing x t.primary = .ok i
  secondary_home : ∀ j x, (t.secondaryCell j).resident = some x →
    naturalSlot cfg.sizing x t.secondary = .ok j
  primary_secondary : ∀ i, (t.primaryCell i).tag.secondary = true ↔
    ∃ j x, (t.secondaryCell j).resident = some x ∧ naturalSlot cfg.sizing x t.primary = .ok i
  primary_tail : ∀ i, (t.primaryCell i).tag.tail = true ↔
    ∃ x ∈ t.tailZone.filterMap Entry.resident, naturalSlot cfg.sizing x t.primary = .ok i
  secondary_secondary : ∀ j, (t.secondaryCell j).tag.secondary = false
  secondary_tail : ∀ j, (t.secondaryCell j).tag.tail = true ↔
    ∃ x ∈ t.tailZone.filterMap Entry.resident, naturalSlot cfg.sizing x t.secondary = .ok j
  tail_untagged : ∀ e ∈ t.tailZone, e.tag = .none
  occupied : ∀ e ∈ t.storage, e.tag ≠ .none → e.resident ≠ none

namespace Exact

variable {t : Table cfg α} (ht : t.Exact)
include ht

theorem announces {entry : Entry α} (hentry : entry ∈ t.storage) {announced : Conflict → Bool}
    (hnone : announced .none = false) (htag : announced entry.tag = true) :
    Announces entry announced := by
  refine ⟨ht.occupied entry hentry ?_, htag⟩
  intro heq
  rw [heq, hnone] at htag
  cases htag

/-- Tags that miss nothing are enough for lookups. -/
theorem coherent (hseeds : t.Composed) : t.Coherent := by
  refine ⟨ht.primary_home, ht.secondary_home, ?_, ?_, ?_⟩
  · intro j x hx
    have hne : t.primary.size ≠ 0 := t.secondary_needs_primary.resolve_right (Nat.ne_of_gt j.pos)
    have hi := naturalSlot_eq_ok hseeds.1 hne x
    have htag := (ht.primary_secondary _).2 ⟨j, x, hx, hi⟩
    exact ⟨_, hi, ht.announces (mem_storage_iff.2 (Or.inl ⟨_, rfl⟩)) rfl htag⟩
  · intro hne x hx
    have hi := naturalSlot_eq_ok hseeds.1 hne x
    have htag := (ht.primary_tail _).2 ⟨x, hx, hi⟩
    exact ⟨_, hi, ht.announces (mem_storage_iff.2 (Or.inl ⟨_, rfl⟩)) rfl htag⟩
  · intro hne x hx
    have hj := naturalSlot_eq_ok hseeds.2 hne x
    have htag := (ht.secondary_tail _).2 ⟨x, hx, hj⟩
    exact ⟨_, hj, ht.announces (mem_storage_iff.2 (Or.inr (Or.inl ⟨_, rfl⟩))) rfl htag⟩

end Exact

end Table

end Supertypes
