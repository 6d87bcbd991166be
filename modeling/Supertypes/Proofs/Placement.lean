/-
  Supertypes/Proofs/Placement.lean
  ================================
  **What a packing looks like, said without the packer.**

  The packer places elements one after another and keeps four counts on the way.
  `Placed es p` is the closed form of its outcome for the elements `es`: the resident
  of a slot is the first element that belongs there, the tail holds all later ones in
  their order, and every count is a count of these.

  The invariant is kept by every placement (`Placed.of_place`), hence by a whole list
  (`Placed.of_placeAll`), and so it describes whatever `pack` comes to
  (`placed_of_pack`).  By the same invariant a packing fails in one case only
  (`pack_cases`): an element meets itself if it was the first at its slot and comes again
  (`Repeats`), while a slot never counts more displaced elements than there are.  So
  distinct elements can always be packed (`exists_pack`).

  Giving up early is a question of the tail alone, because the tail only grows
  (`placeWithin_eq`).
-/
import Supertypes.Distinct
import Supertypes.Packing
import Supertypes.Proofs.Slots

namespace Supertypes

/-! ### Later occurrences -/

section

variable {α κ : Type} [DecidableEq κ]

/-- The items with a key that was seen before, in order: what `distinctBy` leaves out. -/
def laterBy (key : α → κ) : List κ → List α → List α
  | _, [] => []
  | seen, x :: xs =>
    if key x ∈ seen then x :: laterBy key seen xs else laterBy key (key x :: seen) xs

theorem laterBy_concat (key : α → κ) (seen : List κ) (xs : List α) (x : α) :
    laterBy key seen (xs ++ [x]) =
      laterBy key seen xs ++ (if key x ∈ seen ∨ key x ∈ xs.map key then [x] else []) := by
  induction xs generalizing seen with
  | nil =>
    by_cases hx : key x ∈ seen
    · simp [laterBy, hx]
    · simp [laterBy, hx]
  | cons y ys ih =>
    rw [List.cons_append, laterBy, laterBy]
    by_cases hy : key y ∈ seen
    · -- a key that was seen already adds nothing to the keys seen before `x`
      have hseen : (key x ∈ seen ∨ key x ∈ (y :: ys).map key) ↔
          (key x ∈ seen ∨ key x ∈ ys.map key) := by
        rw [List.map_cons, List.mem_cons]
        constructor
        · rintro (h | h | h)
          · exact Or.inl h
          · exact Or.inl (h ▸ hy)
          · exact Or.inr h
        · rintro (h | h)
          · exact Or.inl h
          · exact Or.inr (Or.inr h)
      rw [if_pos hy, if_pos hy, ih]
      simp only [hseen, List.cons_append]
    · have hseen : (key x ∈ seen ∨ key x ∈ (y :: ys).map key) ↔
          (key x ∈ key y :: seen ∨ key x ∈ ys.map key) := by
        rw [List.map_cons, List.mem_cons, List.mem_cons, or_left_comm, or_assoc]
      rw [if_neg hy, if_neg hy, ih]
      simp only [hseen]

end

/-- Filling one empty place of a list adds one item to what the places hold. -/
theorem filterMap_set_perm {α β : Type} {f : α → Option β} {l : List α} {i : Nat} {b : α} {x : β}
    (hi : i < l.length) (hnone : f l[i] = none) (hsome : f b = some x) :
    ((l.set i b).filterMap f).Perm (x :: l.filterMap f) := by
  have hsplit : l = l.take i ++ l[i] :: l.drop (i + 1) := by
    rw [← List.drop_eq_getElem_cons hi, List.take_append_drop]
  have hold : l.filterMap f = (l.take i).filterMap f ++ (l.drop (i + 1)).filterMap f := by
    rw [hsplit, List.filterMap_append, List.filterMap_cons_none hnone]
    simp
  rw [List.set_eq_take_append_cons_drop, if_pos hi, List.filterMap_append,
    List.filterMap_cons_some hsome, hold]
  exact List.perm_middle

/-- Overwriting a place changes no reading of the list that is the same for both items. -/
theorem map_set_of_eq {α β : Type} {f : α → β} {l : List α} {i : Nat} {b : α}
    (hi : i < l.length) (heq : f b = f l[i]) : (l.set i b).map f = l.map f := by
  have hmap : i < (l.map f).length := by rwa [List.length_map]
  have hget : f l[i] = (l.map f)[i] := (List.getElem_map f).symm
  rw [List.map_set, heq, hget, List.set_getElem_self]

/-! ### The invariant -/

section

variable {cap : Capacity} {α : Type} [Coded α] {sizing : Sizing}

/-- The packing `p` is what first-come-first-served placement makes of `es`. -/
structure Placed (sizing : Sizing) (es : List α) (p : Packing cap α) : Prop where
  /-- The first element that belongs to a slot resides there. -/
  resident : ∀ (i : Nat) (hi : i < p.seed.size),
    p.slots[i].resident = es.find? fun x => home sizing p.seed x == i
  /-- All others are in the tail. -/
  tail : p.seed.size ≠ 0 → p.tail.toList = laterBy (home sizing p.seed) [] es
  plain : p.seed.size = 0 → p.tail.toList = es
  displaced : ∀ (i : Nat) (hi : i < p.seed.size),
    p.slots[i].displaced = p.tail.toList.countP fun x => home sizing p.seed x == i
  content : (p.residentList ++ p.tail.toList).Perm es
  residents : p.residents = p.residentList.length
  conflicts : p.conflicts = p.slots.toList.countP fun slot => slot.displaced != 0

omit [Coded α] in
theorem Packing.mem_residentList (p : Packing cap α) {i : Nat} {hi : i < p.seed.size} {x : α}
    (hx : p.slots[i].resident = some x) : x ∈ p.residentList := by
  unfold Packing.residentList
  rw [List.mem_filterMap]
  exact ⟨p.slots[i], by simp, hx⟩

theorem placed_vacant (sizing : Sizing) (seed : Seed cap) :
    Placed sizing [] (.vacant seed : Packing cap α) := by
  have hempty : (.vacant seed : Packing cap α).residentList = [] := by
    unfold Packing.residentList Packing.vacant
    rw [Vector.toList_replicate, List.filterMap_eq_nil_iff]
    intro slot hslot
    rw [(List.mem_replicate.1 hslot).2]
  refine ⟨?_, ?_, ?_, ?_, ?_, ?_, ?_⟩
  · intro i hi
    simp [Packing.vacant]
  · intro _
    simp [Packing.vacant, laterBy]
  · intro _
    simp [Packing.vacant]
  · intro i hi
    simp [Packing.vacant]
  · rw [hempty]
    simp [Packing.vacant]
  · rw [hempty]
    rfl
  · unfold Packing.vacant
    rw [Vector.toList_replicate, List.countP_replicate]
    simp

namespace Placed

variable {es : List α} {p : Packing cap α} (hp : Placed sizing es p)
include hp

theorem length_eq : p.residents + p.tail.size = es.length := by
  have := hp.content.length_eq
  rwa [List.length_append, ← hp.residents, Array.length_toList] at this

/-- Everything in a slot zone belongs where it is. -/
theorem home_of_resident {i : Nat} {hi : i < p.seed.size} {x : α}
    (hx : p.slots[i].resident = some x) : home sizing p.seed x = i := by
  rw [hp.resident i hi] at hx
  simpa using List.find?_some hx

theorem mem_of_resident {i : Nat} {hi : i < p.seed.size} {x : α}
    (hx : p.slots[i].resident = some x) : x ∈ es := by
  rw [hp.resident i hi] at hx
  exact List.mem_of_find?_eq_some hx

/-- A slot is vacant only if no element belongs to it. -/
theorem exists_resident {x : α} (hx : x ∈ es) (hi : home sizing p.seed x < p.seed.size) :
    ∃ y, p.slots[home sizing p.seed x].resident = some y := by
  rw [← Option.isSome_iff_exists, hp.resident _ hi, List.find?_isSome]
  exact ⟨x, hx, by simp⟩

theorem mem_of_mem_tail {x : α} (hx : x ∈ p.tail.toList) : x ∈ es :=
  hp.content.subset (List.mem_append_right _ hx)

theorem nodup (hes : es.Nodup) : (p.residentList ++ p.tail.toList).Nodup :=
  hp.content.nodup_iff.2 hes

theorem residents_pos {y : α} (hy : y ∈ p.residentList) : 0 < p.residents := by
  rw [hp.residents]
  exact List.length_pos_of_mem hy

/-- A slot with a resident has displaced fewer elements than were placed. -/
theorem displaced_lt {i : Nat} {hi : i < p.seed.size} {y : α}
    (hy : p.slots[i].resident = some y) : p.slots[i].displaced < es.length := by
  have hcount : p.slots[i].displaced ≤ p.tail.size := by
    rw [hp.displaced i hi, ← Array.length_toList]
    exact List.countP_le_length
  have hpos := hp.residents_pos (p.mem_residentList hy)
  have hlength := hp.length_eq
  omega

/-- With slots, not all elements are displaced. -/
theorem exists_mem_residentList (hseed : p.seed.Composed sizing) (hne : p.seed.size ≠ 0)
    (hes : es ≠ []) : ∃ x ∈ es, x ∈ p.residentList := by
  obtain ⟨x, hx⟩ := List.exists_mem_of_ne_nil es hes
  obtain ⟨y, hy⟩ := hp.exists_resident hx (home_lt hseed hne x)
  exact ⟨y, hp.mem_of_resident hy, p.mem_residentList hy⟩

theorem tail_size_lt (hseed : p.seed.Composed sizing) (hne : p.seed.size ≠ 0) (hes : es ≠ []) :
    p.tail.size < es.length := by
  obtain ⟨x, -, hx⟩ := hp.exists_mem_residentList hseed hne hes
  have hpos := hp.residents_pos hx
  have hlength := hp.length_eq
  omega

end Placed

/-! ### One placement -/

section

variable {p : Packing cap α} (i : Fin p.seed.size) (x : α)

omit [Coded α] in
theorem getElem_settle {j : Nat} (hj : j < p.seed.size) :
    getElem (p.settle i x).slots j hj =
      if i.val = j then { p.slots[i] with resident := some x } else p.slots[j] :=
  Vector.getElem_set i.isLt hj

omit [Coded α] in
theorem getElem_displace {j : Nat} (hj : j < p.seed.size) :
    getElem (p.displace i x).slots j hj =
      if i.val = j then { p.slots[i] with displaced := p.slots[i].displaced + 1 }
      else p.slots[j] :=
  Vector.getElem_set i.isLt hj

omit [Coded α] in
theorem residentList_settle (hvacant : (getElem p.slots i.val i.isLt).resident = none) :
    (p.settle i x).residentList.Perm (x :: p.residentList) := by
  unfold Packing.residentList Packing.settle
  rw [Vector.toList_set]
  exact filterMap_set_perm (by simp) (by simpa using hvacant) rfl

omit [Coded α] in
theorem residentList_displace : (p.displace i x).residentList = p.residentList := by
  have hmap : (p.displace i x).slots.toList.map Slot.resident =
      p.slots.toList.map Slot.resident := by
    unfold Packing.displace
    rw [Vector.toList_set]
    exact map_set_of_eq (by simp) (by simp)
  have hsame := congrArg (List.filterMap id) hmap
  rwa [List.filterMap_map, List.filterMap_map] at hsame

end

namespace Placed

variable {es : List α} {p : Packing cap α} (hp : Placed sizing es p)
include hp

/-- Without slots an element goes to the tail and nothing else happens. -/
theorem push (hzero : p.seed.size = 0) (x : α) :
    Placed sizing (es ++ [x]) { p with tail := p.tail.push x } := by
  refine ⟨?_, ?_, ?_, ?_, ?_, hp.residents, hp.conflicts⟩
  · intro i hi
    exact absurd hi (by rw [hzero]; exact Nat.not_lt_zero i)
  · intro hne
    exact absurd hzero hne
  · intro _
    simp [hp.plain hzero]
  · intro i hi
    exact absurd hi (by rw [hzero]; exact Nat.not_lt_zero i)
  · have hcontent := hp.content.append_right [x]
    rw [List.append_assoc] at hcontent
    simpa [Packing.residentList] using hcontent

/-- An element that finds its slot vacant is the first one there. -/
theorem settle {x : α} (i : Fin p.seed.size) (hi : home sizing p.seed x = i.val)
    (hvacant : p.slots[i].resident = none) : Placed sizing (es ++ [x]) (p.settle i x) := by
  have hne : p.seed.size ≠ 0 := Nat.ne_of_gt (Nat.lt_of_le_of_lt (Nat.zero_le _) i.isLt)
  have hfirst : ∀ y ∈ es, home sizing p.seed y ≠ i.val := by
    have hnone := hp.resident i.val i.isLt
    rw [← Fin.getElem_fin, hvacant, eq_comm, List.find?_eq_none] at hnone
    intro y hy heq
    exact hnone y hy (by simp [heq])
  have hperm := residentList_settle i x hvacant
  refine ⟨?_, ?_, ?_, ?_, ?_, ?_, ?_⟩
  · intro j hj
    change j < p.seed.size at hj
    change (getElem (p.settle i x).slots j hj).resident =
      (es ++ [x]).find? fun y => home sizing p.seed y == j
    rw [getElem_settle i x hj, List.find?_append, ← hp.resident j hj, List.find?_singleton, hi]
    by_cases hij : i.val = j
    · subst hij
      rw [← Fin.getElem_fin, hvacant]
      simp
    · simp [hij]
  · intro _
    change p.tail.toList = laterBy (home sizing p.seed) [] (es ++ [x])
    have hnew : home sizing p.seed x ∉ es.map (home sizing p.seed) := by
      rw [List.mem_map, hi]
      rintro ⟨y, hy, heq⟩
      exact hfirst y hy heq
    rw [laterBy_concat, hp.tail hne]
    simp [hnew]
  · intro hzero
    exact absurd hzero hne
  · intro j hj
    change j < p.seed.size at hj
    change (getElem (p.settle i x).slots j hj).displaced =
      p.tail.toList.countP fun y => home sizing p.seed y == j
    rw [getElem_settle i x hj, ← hp.displaced j hj]
    by_cases hij : i.val = j
    · subst hij
      simp
    · simp [hij]
  · refine (hperm.append_right p.tail.toList).trans ?_
    rw [List.cons_append]
    exact (hp.content.cons x).trans (List.perm_append_singleton x es).symm
  · rw [hperm.length_eq, List.length_cons, ← hp.residents]
    rfl
  · have hmap : (p.settle i x).slots.toList.map Slot.displaced =
        p.slots.toList.map Slot.displaced := by
      unfold Packing.settle
      rw [Vector.toList_set]
      exact map_set_of_eq (by simp) (by simp)
    have hsame := congrArg (List.countP fun n => n != 0) hmap
    rw [List.countP_map, List.countP_map] at hsame
    exact hp.conflicts.trans hsame.symm

/-- An element that meets another one in its slot goes to the tail. -/
theorem displace {x y : α} (i : Fin p.seed.size) (hi : home sizing p.seed x = i.val)
    (hy : p.slots[i].resident = some y) : Placed sizing (es ++ [x]) (p.displace i x) := by
  have hne : p.seed.size ≠ 0 := Nat.ne_of_gt (Nat.lt_of_le_of_lt (Nat.zero_le _) i.isLt)
  have hhome : home sizing p.seed y = i.val := hp.home_of_resident hy
  have hmem : y ∈ es := hp.mem_of_resident hy
  have htail : (p.displace i x).tail.toList = p.tail.toList ++ [x] := Array.toList_push
  refine ⟨?_, ?_, ?_, ?_, ?_, ?_, ?_⟩
  · intro j hj
    change j < p.seed.size at hj
    change (getElem (p.displace i x).slots j hj).resident =
      (es ++ [x]).find? fun y => home sizing p.seed y == j
    rw [getElem_displace i x hj, List.find?_append, ← hp.resident j hj, List.find?_singleton, hi]
    by_cases hij : i.val = j
    · subst hij
      have hold : p.slots[i.val].resident = some y := hy
      simp [hold]
    · simp [hij]
  · intro _
    change (p.displace i x).tail.toList = laterBy (home sizing p.seed) [] (es ++ [x])
    have hseen : home sizing p.seed x ∈ es.map (home sizing p.seed) :=
      List.mem_map.2 ⟨y, hmem, hhome.trans hi.symm⟩
    rw [htail, laterBy_concat, hp.tail hne]
    simp [hseen]
  · intro hzero
    exact absurd hzero hne
  · intro j hj
    change j < p.seed.size at hj
    change (getElem (p.displace i x).slots j hj).displaced =
      (p.displace i x).tail.toList.countP fun y => home sizing p.seed y == j
    rw [getElem_displace i x hj, htail, List.countP_append, ← hp.displaced j hj,
      List.countP_singleton, hi]
    by_cases hij : i.val = j
    · subst hij
      simp
    · simp [hij]
  · have hcontent := hp.content.append_right [x]
    rwa [List.append_assoc, ← htail, ← residentList_displace i x] at hcontent
  · exact hp.residents.trans (congrArg List.length (residentList_displace i x).symm)
  · -- a slot counts as conflicted from its first displaced element on
    change (if p.slots[i].displaced = 0 then p.conflicts + 1 else p.conflicts) =
      (p.slots.set i { p.slots[i] with displaced := p.slots[i].displaced + 1 }).toList.countP
        fun slot => slot.displaced != 0
    rw [Vector.toList_set, List.countP_set (by simp), hp.conflicts, Vector.getElem_toList]
    by_cases hzero : p.slots[i].displaced = 0
    · have hold : p.slots[i.val].displaced = 0 := hzero
      simp [hold]
    · have hold : p.slots[i.val].displaced ≠ 0 := hzero
      have hpos : 0 < p.slots.toList.countP fun slot => slot.displaced != 0 :=
        List.countP_pos_iff.2 ⟨p.slots[i.val], by simp, by simpa using hold⟩
      rw [if_neg hzero, if_pos (by simpa using hold), if_pos (by simp)]
      omega

variable [DecidableEq α]

theorem of_place (hseed : p.seed.Composed sizing) {q : Packing cap α} {x : α}
    (h : p.place sizing x = .ok q) : q.seed = p.seed ∧ Placed sizing (es ++ [x]) q := by
  by_cases hzero : p.seed.size = 0
  · rw [Packing.place, if_pos hzero] at h
    cases h
    exact ⟨rfl, hp.push hzero x⟩
  · have hi := naturalSlot_eq_ok hseed hzero x
    generalize hslot : (⟨home sizing p.seed x, home_lt hseed hzero x⟩ : Fin p.seed.size) = i at hi
    have hhome : home sizing p.seed x = i.val := congrArg Fin.val hslot
    cases hres : p.slots[i].resident with
    | none =>
      simp only [Packing.place, if_neg hzero, hi, hres] at h
      cases h
      exact ⟨rfl, hp.settle i hhome hres⟩
    | some y =>
      simp only [Packing.place, if_neg hzero, hi, hres] at h
      split at h
      · cases h
      · split at h
        · cases h
          exact ⟨rfl, hp.displace i hhome hres⟩
        · cases h

/-- An element that meets itself in its slot cannot be placed. -/
theorem place_of_meets (hseed : p.seed.Composed sizing) {x : α} (hne : p.seed.size ≠ 0)
    (hx : (es.find? fun y => home sizing p.seed y == home sizing p.seed x) = some x) :
    p.place sizing x = .error .duplicateElement := by
  have hlt := home_lt hseed hne x
  have hres : p.slots[home sizing p.seed x].resident = some x := by rw [hp.resident _ hlt, hx]
  simp only [Packing.place, if_neg hne, naturalSlot_eq_ok hseed hne x, Fin.getElem_fin, hres,
    if_true]

/-- Any other element can be placed. -/
theorem exists_place (hseed : p.seed.Composed sizing) {x : α}
    (hx : p.seed.size ≠ 0 →
      (es.find? fun y => home sizing p.seed y == home sizing p.seed x) ≠ some x)
    (hfew : es.length + 1 < UInt32.size) : ∃ q, p.place sizing x = .ok q := by
  by_cases hzero : p.seed.size = 0
  · exact ⟨{ p with tail := p.tail.push x }, by rw [Packing.place, if_pos hzero]⟩
  · have hi := naturalSlot_eq_ok hseed hzero x
    have hmeets := hp.resident _ (home_lt hseed hzero x)
    generalize hslot : (⟨home sizing p.seed x, home_lt hseed hzero x⟩ : Fin p.seed.size) = i at hi
    have hhome : home sizing p.seed x = i.val := congrArg Fin.val hslot
    cases hres : p.slots[i].resident with
    | none =>
      exact ⟨p.settle i x, by simp only [Packing.place, if_neg hzero, hi, hres]⟩
    | some y =>
      have hne : y ≠ x := by
        rintro rfl
        simp only [hhome] at hmeets
        exact hx hzero (by rw [hhome, ← hmeets]; exact hres)
      have hcount : p.slots[i].displaced + 1 < UInt32.size := by
        have := hp.displaced_lt hres
        rw [Fin.getElem_fin]
        omega
      refine ⟨p.displace i x, ?_⟩
      simp only [Packing.place, if_neg hzero, hi, hres, if_neg hne, if_pos hcount]

end Placed

/-! ### Whole lists -/

variable [DecidableEq α]

theorem Placed.of_placeAll {es xs : List α} {p q : Packing cap α} (hp : Placed sizing es p)
    (hseed : p.seed.Composed sizing) (h : Packing.placeAll sizing xs p = .ok q) :
    q.seed = p.seed ∧ Placed sizing (es ++ xs) q := by
  induction xs generalizing es p with
  | nil =>
    cases h
    exact ⟨rfl, by rwa [List.append_nil]⟩
  | cons x xs ih =>
    unfold Packing.placeAll at h
    split at h
    · cases h
    · rename_i r hr
      obtain ⟨hrseed, hplaced⟩ := hp.of_place hseed hr
      obtain ⟨hqseed, hq⟩ := ih hplaced (hrseed ▸ hseed) h
      refine ⟨hqseed.trans hrseed, ?_⟩
      rwa [List.append_assoc, List.singleton_append] at hq

/-- A packing that succeeds is the closed form. -/
theorem placed_of_pack {seed : Seed cap} (hseed : seed.Composed sizing) {groups : List (List α)}
    {p : Packing cap α} (h : pack sizing seed groups = .ok p) :
    p.seed = seed ∧ Placed sizing groups.flatten p :=
  (placed_vacant sizing seed).of_placeAll hseed (pack_eq_placeAll sizing seed groups ▸ h)

/-! ### Repeated elements -/

/-- Some element is the first at its slot and comes again later, where it meets itself. -/
def Repeats (sizing : Sizing) (seed : Seed cap) (es : List α) : Prop :=
  seed.size ≠ 0 ∧ ∃ before x after, es = before ++ x :: after ∧
    (∀ y ∈ before, home sizing seed y ≠ home sizing seed x) ∧ x ∈ after

section

variable {seed : Seed cap} {es xs : List α}

omit [DecidableEq α] in
theorem Repeats.append (hes : Repeats sizing seed es) (xs : List α) :
    Repeats sizing seed (es ++ xs) := by
  obtain ⟨hne, before, x, after, rfl, hfirst, hx⟩ := hes
  exact ⟨hne, before, x, after ++ xs, by simp, hfirst, List.mem_append_left xs hx⟩

omit [DecidableEq α] in
/-- The last element repeats something exactly if it is the first one at its slot. -/
theorem repeats_concat_iff {x : α} : Repeats sizing seed (es ++ [x]) ↔
    Repeats sizing seed es ∨ seed.size ≠ 0 ∧
      (es.find? fun y => home sizing seed y == home sizing seed x) = some x := by
  constructor
  · rintro ⟨hne, before, y, after, heq, hfirst, hy⟩
    obtain ⟨mid, z, rfl⟩ : ∃ mid z, after = mid ++ [z] :=
      ⟨_, _, (List.dropLast_concat_getLast (List.ne_nil_of_mem hy)).symm⟩
    rw [← List.cons_append, ← List.append_assoc] at heq
    obtain ⟨rfl, hlast⟩ := List.append_inj' heq rfl
    cases hlast
    rcases List.mem_append.1 hy with hy | hy
    · exact Or.inl ⟨hne, before, y, mid, rfl, hfirst, hy⟩
    · refine Or.inr ⟨hne, List.find?_eq_some_iff_append.2 ?_⟩
      rw [List.mem_singleton] at hy
      subst hy
      exact ⟨by simp, before, mid, rfl, fun z hz => by simpa using hfirst z hz⟩
  · rintro (hes | ⟨hne, hx⟩)
    · exact hes.append [x]
    · obtain ⟨-, before, mid, rfl, hfirst⟩ := List.find?_eq_some_iff_append.1 hx
      exact ⟨hne, before, x, mid ++ [x], by simp, fun y hy => by simpa using hfirst y hy, by simp⟩

omit [DecidableEq α] in
theorem not_repeats_of_nodup (hes : es.Nodup) : ¬ Repeats sizing seed es := by
  rintro ⟨-, before, x, after, rfl, -, hx⟩
  exact (List.nodup_cons.1 (List.nodup_append.1 hes).2.1).1 hx

/-- Placing stops at the first element that meets itself, and at nothing else. -/
theorem Placed.placeAll_cases {p : Packing cap α} (hp : Placed sizing es p)
    (hseed : p.seed.Composed sizing) (hes : ¬ Repeats sizing p.seed es)
    (hfew : (es ++ xs).length < UInt32.size) :
    (Repeats sizing p.seed (es ++ xs) →
        Packing.placeAll sizing xs p = .error .duplicateElement) ∧
      (¬ Repeats sizing p.seed (es ++ xs) → ∃ q, Packing.placeAll sizing xs p = .ok q) := by
  induction xs generalizing es p with
  | nil =>
    rw [List.append_nil]
    exact ⟨fun hrepeats => absurd hrepeats hes, fun _ => ⟨p, rfl⟩⟩
  | cons x xs ih =>
    rw [List.append_cons] at hfew ⊢
    rw [List.length_append, List.length_append, List.length_singleton] at hfew
    by_cases hlast : Repeats sizing p.seed (es ++ [x])
    · obtain ⟨hne, hmeets⟩ := (repeats_concat_iff.1 hlast).resolve_left hes
      refine ⟨fun _ => ?_, fun hnot => absurd (hlast.append xs) hnot⟩
      simp only [Packing.placeAll, hp.place_of_meets hseed hne hmeets]
    · have hfree := fun hne hmeets => hlast (repeats_concat_iff.2 (Or.inr ⟨hne, hmeets⟩))
      obtain ⟨q, hplace⟩ := hp.exists_place hseed hfree (by omega)
      obtain ⟨hqseed, hq⟩ := hp.of_place hseed hplace
      have hrest := ih hq (hqseed ▸ hseed) (hqseed ▸ hlast) (by simp; omega)
      rw [hqseed] at hrest
      simpa only [Packing.placeAll, hplace] using hrest

end

theorem pack_cases {seed : Seed cap} (hseed : seed.Composed sizing) {groups : List (List α)}
    (hfew : groups.flatten.length < UInt32.size) :
    (Repeats sizing seed groups.flatten → pack sizing seed groups = .error .duplicateElement) ∧
      (¬ Repeats sizing seed groups.flatten → ∃ p, pack sizing seed groups = .ok p) := by
  rw [pack_eq_placeAll]
  exact (placed_vacant sizing seed).placeAll_cases hseed (not_repeats_of_nodup List.nodup_nil) hfew

theorem exists_pack {seed : Seed cap} (hseed : seed.Composed sizing) {groups : List (List α)}
    (hnodup : groups.flatten.Nodup) (hfew : groups.flatten.length < UInt32.size) :
    ∃ p, pack sizing seed groups = .ok p :=
  (pack_cases hseed hfew).2 (not_repeats_of_nodup hnodup)

/-! ### Giving up early -/

/-- An element that is placed settles in its slot, is displaced from it, or goes to the tail
    for want of slots. -/
theorem place_cases {p q : Packing cap α} {x : α} (h : p.place sizing x = .ok q) :
    q = { p with tail := p.tail.push x } ∨ ∃ i, q = p.settle i x ∨ q = p.displace i x := by
  unfold Packing.place at h
  split at h
  · cases h
    exact Or.inl rfl
  · split at h
    · cases h
    · rename_i i _
      split at h
      · cases h
        exact Or.inr ⟨i, Or.inl rfl⟩
      · split at h
        · cases h
        · split at h
          · cases h
            exact Or.inr ⟨i, Or.inr rfl⟩
          · cases h

theorem tail_size_of_place {p q : Packing cap α} {x : α} (h : p.place sizing x = .ok q) :
    q.tail.size = p.tail.size ∨ q.tail.size = p.tail.size + 1 := by
  rcases place_cases h with rfl | ⟨i, rfl | rfl⟩
  · exact Or.inr (Array.size_push x)
  · exact Or.inl rfl
  · exact Or.inr (Array.size_push x)

theorem seed_of_place {p q : Packing cap α} {x : α} (h : p.place sizing x = .ok q) :
    q.seed = p.seed := by
  rcases place_cases h with rfl | ⟨i, rfl | rfl⟩
  · rfl
  · rfl
  · rfl

theorem tail_size_le_of_placeAll {p q : Packing cap α} {xs : List α}
    (h : Packing.placeAll sizing xs p = .ok q) : p.tail.size ≤ q.tail.size := by
  induction xs generalizing p with
  | nil =>
    cases h
    exact Nat.le_refl _
  | cons x xs ih =>
    unfold Packing.placeAll at h
    split at h
    · cases h
    · rename_i r hr
      have hstep := tail_size_of_place hr
      have hrest := ih h
      omega

/-- Placing within a limit is placing all and looking at the tail afterwards. -/
theorem placeWithin_eq {limit : Nat} {p q : Packing cap α} {xs : List α}
    (h : Packing.placeAll sizing xs p = .ok q) (hlimit : p.tail.size ≤ limit) :
    Packing.placeWithin sizing limit xs p =
      .ok (if q.tail.size ≤ limit then some q else none) := by
  induction xs generalizing p with
  | nil =>
    cases h
    rw [Packing.placeWithin, if_pos hlimit]
  | cons x xs ih =>
    unfold Packing.placeAll at h
    unfold Packing.placeWithin
    split at h
    · cases h
    · rename_i r hr
      by_cases hlong : limit < r.tail.size
      · -- what is too long now is too long at the end
        have := tail_size_le_of_placeAll h
        rw [if_pos hlong, if_neg (by omega)]
      · rw [if_neg hlong]
        exact ih h (Nat.le_of_not_lt hlong)

theorem placeAll_of_placeWithin {limit : Nat} {p q : Packing cap α} {xs : List α}
    (h : Packing.placeWithin sizing limit xs p = .ok (some q)) :
    Packing.placeAll sizing xs p = .ok q := by
  induction xs generalizing p with
  | nil =>
    cases h
    rfl
  | cons x xs ih =>
    unfold Packing.placeWithin at h
    unfold Packing.placeAll
    split at h
    · cases h
    · split at h
      · cases h
      · exact ih h

/-- A limit that leaves room for all elements is never passed. -/
theorem lt_of_placeWithin_eq_none {limit : Nat} {p : Packing cap α} {xs : List α}
    (h : Packing.placeWithin sizing limit xs p = .ok none) :
    limit < p.tail.size + xs.length := by
  induction xs generalizing p with
  | nil => cases h
  | cons x xs ih =>
    rw [List.length_cons]
    unfold Packing.placeWithin at h
    split at h
    · cases h
    · rename_i r hr
      have hstep := tail_size_of_place hr
      split at h
      · omega
      · have hrest := ih h
        omega

theorem lt_of_packWithin_eq_none {seed : Seed cap} {groups : List (List α)} {limit : Nat}
    (h : packWithin sizing seed groups limit = .ok none) : limit < groups.flatten.length := by
  unfold packWithin at h
  split at h
  · rw [Packing.placeGroupsWithin_eq] at h
    simpa [Packing.vacant] using lt_of_placeWithin_eq_none h
  · cases h

theorem pack_of_packWithin {seed : Seed cap} {groups : List (List α)} {p : Packing cap α}
    {limit : Nat} (h : packWithin sizing seed groups limit = .ok (some p)) :
    pack sizing seed groups = .ok p := by
  unfold packWithin at h
  split at h
  · rw [Packing.placeGroupsWithin_eq] at h
    rw [pack_eq_placeAll]
    exact placeAll_of_placeWithin h
  · cases h

theorem packWithin_eq {seed : Seed cap} {groups : List (List α)} {p : Packing cap α}
    (h : pack sizing seed groups = .ok p) {limit : Nat} (hlimit : limit + 1 < UInt64.size) :
    packWithin sizing seed groups limit = .ok (if p.tail.size ≤ limit then some p else none) := by
  rw [pack_eq_placeAll] at h
  rw [packWithin, if_pos hlimit, Packing.placeGroupsWithin_eq]
  exact placeWithin_eq h (by simp [Packing.vacant])

end

end Supertypes
