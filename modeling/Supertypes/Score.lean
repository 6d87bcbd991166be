/-
  Supertypes/Score.lean
  =====================
  **How good a packing is.**

  Lower is better.  An element in the tail costs every hit on it a scan, a conflicted
  slot costs every miss on it a scan, and a vacant slot costs only its space; scores
  compare in that order of concerns.
-/

namespace Supertypes

/-- The measures of a packing, most important first. -/
structure Score where
  tail : Nat
  conflicts : Nat
  vacant : Nat
deriving DecidableEq, Repr

namespace Score

def compare (s t : Score) : Ordering :=
  (Ord.compare s.tail t.tail).then
    ((Ord.compare s.conflicts t.conflicts).then (Ord.compare s.vacant t.vacant))

instance : Ord Score := ⟨compare⟩

instance : LT Score := ⟨fun s t => compare s t = .lt⟩

instance : DecidableLT Score := fun s t => inferInstanceAs (Decidable (compare s t = .lt))

instance : LE Score := ⟨fun s t => ¬ t < s⟩

instance : DecidableLE Score := fun s t => inferInstanceAs (Decidable (¬ t < s))

theorem lt_iff {s t : Score} : s < t ↔
    s.tail < t.tail ∨ s.tail = t.tail ∧
      (s.conflicts < t.conflicts ∨ s.conflicts = t.conflicts ∧ s.vacant < t.vacant) := by
  have h : s < t ↔ compare s t = .lt := Iff.rfl
  rw [h, compare, Ordering.then_eq_lt, Ordering.then_eq_lt]
  simp only [Nat.compare_eq_lt, Nat.compare_eq_eq]

theorem le_iff {s t : Score} : s ≤ t ↔
    s.tail < t.tail ∨ s.tail = t.tail ∧
      (s.conflicts < t.conflicts ∨ s.conflicts = t.conflicts ∧ s.vacant ≤ t.vacant) := by
  have h : s ≤ t ↔ ¬ t < s := Iff.rfl
  rw [h, lt_iff]
  omega

def text (s : Score) : String :=
  s!"tail={s.tail} conflicts={s.conflicts} vacant={s.vacant}"

def sort (scores : List Score) : List Score :=
  scores.mergeSort fun s t => decide (s ≤ t)

end Score

end Supertypes
