/-
  Supertypes/Distinct.lean
  ========================
  **First occurrences.**

  `distinctBy key seen xs` keeps the items of `xs` whose key is new: neither among the
  keys seen before nor the key of an earlier item.  The order stays.
-/

namespace Supertypes

/-- The items with a key that was not seen before, in order. -/
def distinctBy {α κ : Type} [DecidableEq κ] (key : α → κ) : List κ → List α → List α
  | _, [] => []
  | seen, x :: xs =>
    if key x ∈ seen then distinctBy key seen xs
    else x :: distinctBy key (key x :: seen) xs

variable {α κ : Type} [DecidableEq κ] {key : α → κ}

theorem distinctBy_sublist (seen : List κ) (xs : List α) : (distinctBy key seen xs).Sublist xs := by
  induction xs generalizing seen with
  | nil => exact List.Sublist.refl _
  | cons x xs ih =>
    unfold distinctBy
    split
    · exact (ih seen).cons x
    · exact (ih (key x :: seen)).cons_cons x

theorem mem_map_distinctBy {seen : List κ} {xs : List α} {k : κ} :
    k ∈ (distinctBy key seen xs).map key ↔ k ∈ xs.map key ∧ k ∉ seen := by
  induction xs generalizing seen with
  | nil => simp [distinctBy]
  | cons x xs ih =>
    unfold distinctBy
    split
    · rename_i hseen
      rw [ih, List.map_cons, List.mem_cons]
      constructor
      · rintro ⟨h, hk⟩
        exact ⟨.inr h, hk⟩
      · rintro ⟨rfl | h, hk⟩
        · exact absurd hseen hk
        · exact ⟨h, hk⟩
    · rename_i hseen
      simp only [List.map_cons, List.mem_cons, ih, not_or]
      constructor
      · rintro (rfl | ⟨h, -, hk⟩)
        · exact ⟨.inl rfl, hseen⟩
        · exact ⟨.inr h, hk⟩
      · rintro ⟨rfl | h, hk⟩
        · exact .inl rfl
        · by_cases hx : k = key x
          · exact .inl hx
          · exact .inr ⟨h, hx, hk⟩

theorem nodup_map_distinctBy (seen : List κ) (xs : List α) :
    ((distinctBy key seen xs).map key).Nodup := by
  induction xs generalizing seen with
  | nil => simp [distinctBy]
  | cons x xs ih =>
    unfold distinctBy
    split
    · exact ih seen
    · rw [List.map_cons, List.nodup_cons, mem_map_distinctBy]
      exact ⟨fun h => h.2 List.mem_cons_self, ih _⟩

theorem distinctBy_congr {key' : α → κ} {xs : List α} (h : ∀ x ∈ xs, key x = key' x)
    (seen : List κ) : distinctBy key seen xs = distinctBy key' seen xs := by
  induction xs generalizing seen with
  | nil => rfl
  | cons x xs ih =>
    rw [List.forall_mem_cons] at h
    unfold distinctBy
    rw [h.1, ih h.2, ih h.2]

/-- What comes later takes nothing away from what is kept of an earlier part. -/
theorem distinctBy_prefix_append (seen : List κ) (xs ys : List α) :
    distinctBy key seen xs <+: distinctBy key seen (xs ++ ys) := by
  induction xs generalizing seen with
  | nil => exact List.nil_prefix
  | cons x xs ih =>
    simp only [List.cons_append, distinctBy]
    split
    · exact ih seen
    · exact (List.prefix_cons_inj x).2 (ih (key x :: seen))

/-- Items with keys of their own are all kept. -/
theorem distinctBy_eq_self {seen : List κ} {xs : List α} (hnew : ∀ x ∈ xs, key x ∉ seen)
    (hnodup : (xs.map key).Nodup) : distinctBy key seen xs = xs := by
  induction xs generalizing seen with
  | nil => rfl
  | cons x xs ih =>
    rw [List.forall_mem_cons] at hnew
    rw [List.map_cons, List.nodup_cons] at hnodup
    unfold distinctBy
    rw [if_neg hnew.1, ih ?_ hnodup.2]
    intro y hy hseen
    rcases List.mem_cons.1 hseen with heq | hseen
    · exact hnodup.1 (heq ▸ List.mem_map_of_mem hy)
    · exact hnew.2 y hy hseen

/-- If keys identify the items, then every item is kept whose key was not seen before. -/
theorem mem_distinctBy {seen : List κ} {xs : List α}
    (hinj : ∀ x ∈ xs, ∀ y ∈ xs, key x = key y → x = y) {x : α} :
    x ∈ distinctBy key seen xs ↔ x ∈ xs ∧ key x ∉ seen := by
  constructor
  · intro hx
    have hkey : key x ∈ (distinctBy key seen xs).map key := List.mem_map_of_mem hx
    exact ⟨(distinctBy_sublist seen xs).mem hx, (mem_map_distinctBy.1 hkey).2⟩
  · rintro ⟨hx, hnew⟩
    have hkey : key x ∈ (distinctBy key seen xs).map key :=
      mem_map_distinctBy.2 ⟨List.mem_map_of_mem hx, hnew⟩
    obtain ⟨y, hy, heq⟩ := List.mem_map.1 hkey
    rwa [← hinj y ((distinctBy_sublist seen xs).mem hy) x hx heq]

end Supertypes
