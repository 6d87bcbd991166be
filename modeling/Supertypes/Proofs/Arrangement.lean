/-
  Supertypes/Proofs/Arrangement.lean
  ==================================
  **The table that comes of two packings.**

  Two searches in a row give a layout whose packings are closed forms: the first of all
  candidates, the second of what the first left in its tail (`Layout.Fits`).  Writing
  the cells of such a layout cannot fail, because every natural slot lies within its
  zone.  A cell of the finished table holds what the packings put there, and its tag is
  a function of the elements outside the primary zone and of nothing else
  (`Layout.tagAt`): the order in which the tags are written does not matter.

  It follows that the table holds the candidates, each once, and that its tags are exact.
  The one point where the two packings meet is the tag of a primary slot: an element in
  the secondary zone or in the tail was displaced by the first packing, so there is a
  resident in the slot that it lost.  For the same reason the tagged slots are as many as
  the first packing has counted (`Realizes.tagged_count`).
-/
import Supertypes.Proofs.Searching
import Supertypes.Proofs.Exactness
import Supertypes.Table.Layout

namespace Supertypes

namespace Layout

variable {cfg : Config} {α : Type} [Coded α]

/-! ### Arranged layouts -/

/-- Both packings are closed forms for fit seeds, the second of the tail of the first. -/
structure Fits (es : List α) (l : Layout cfg α) : Prop where
  primary_seed : l.primary.seed.Composed cfg.sizing
  secondary_seed : l.secondary.seed.Composed cfg.sizing
  primary : Placed cfg.sizing es l.primary
  secondary : Placed cfg.sizing l.primary.tail.toList l.secondary
  secondary_needs_primary : l.primary.seed.size ≠ 0 ∨ l.secondary.seed.size = 0

section

variable {σ : Type} [DecidableEq α] [SeedSource σ] {groups : List (List α)}

omit [SeedSource σ] in
theorem placed_plain (sizing : Sizing) {cap : Capacity} (xs : List α) :
    Placed sizing xs (.plain xs : Packing cap α) := by
  have hpack : pack sizing (.empty : Seed cap) [xs] = .ok (.plain xs) := by
    rw [pack_empty, List.flatten_singleton]
  have hplaced := (placed_of_pack (Seed.Composed.empty sizing) hpack).2
  simpa using hplaced

/-- The first packing is that of the first search, the second that of a search for the
    overflow, or the overflow as a list. -/
theorem arrange_cases {source : σ} {l : Layout cfg α}
    (h : (arrange cfg groups source).outcome = .ok l) :
    (search cfg groups source).packing = .ok l.primary ∧
      (needsSecond cfg l.primary = true ∧
          (search cfg [l.primary.tail.toList] (search cfg groups source).source).packing =
            .ok l.secondary ∨
        needsSecond cfg l.primary = false ∧ l.secondary = .plain l.primary.tail.toList) := by
  unfold arrange at h
  cases hfirst : (search cfg groups source).logged.outcome with
  | error fault =>
    rw [Logged.bind_of_error hfirst] at h
    cases h
  | ok primary =>
    rw [Logged.bind_of_ok hfirst] at h
    dsimp only at h
    split at h
    · rename_i hneeds
      obtain ⟨secondary, hsecond, rfl⟩ := Logged.outcome_map_eq_ok_iff.1 h
      exact ⟨hfirst, Or.inl ⟨hneeds, hsecond⟩⟩
    · rename_i hneeds
      cases h
      exact ⟨hfirst, Or.inr ⟨by simpa using hneeds, rfl⟩⟩

theorem fits_of_arrange {source : σ} {l : Layout cfg α}
    (h : (arrange cfg groups source).outcome = .ok l) : l.Fits groups.flatten := by
  obtain ⟨hfirst, hrest⟩ := arrange_cases h
  obtain ⟨hseed, hprimary⟩ := placed_of_search hfirst
  rcases hrest with ⟨hneeds, hsecond⟩ | ⟨-, hplain⟩
  · obtain ⟨hseed', hsecondary⟩ := placed_of_search hsecond
    refine ⟨hseed, hseed', hprimary, by simpa using hsecondary, ?_⟩
    simp only [needsSecond, Bool.and_eq_true, bne_iff_ne] at hneeds
    exact Or.inl hneeds.1.2
  · refine ⟨hseed, ?_, hprimary, ?_, ?_⟩
    · rw [hplain]
      exact Seed.Composed.empty cfg.sizing
    · rw [hplain]
      exact placed_plain cfg.sizing l.primary.tail.toList
    · rw [hplain]
      exact Or.inr Seed.size_empty

/-- Distinct elements can be arranged, whatever the seeds are. -/
theorem exists_arrange (hcheck : cfg.check = .ok ()) (hnodup : groups.flatten.Nodup)
    (hfew : groups.flatten.length < UInt32.size) (source : σ) :
    ∃ l, (arrange cfg groups source).outcome = .ok l := by
  have hsize : ∀ count, count < UInt32.size → ∃ size, cfg.initialSize count = .ok size := by
    intro count hcount
    have hhalf : UInt32.size ≤ 2 ^ 63 := by decide
    exact Config.exists_initialSize (Config.chunk_pos_of_check hcheck) (by omega)
  obtain ⟨size, hfirst⟩ := hsize _ hfew
  obtain ⟨primary, hfirst⟩ := exists_search hnodup hfew hfirst source
  have hprimary := (placed_of_search hfirst).2
  unfold arrange
  rw [Logged.bind_of_ok (l := (search cfg groups source).logged) hfirst]
  dsimp only
  split
  · -- the overflow is a part of the elements, and so a legal input again
    have hnodup' : primary.tail.toList.Nodup := (List.nodup_append.1 (hprimary.nodup hnodup)).2.1
    have hfew' : primary.tail.toList.length < UInt32.size := by
      have hlength := hprimary.length_eq
      rw [Array.length_toList]
      omega
    rw [← List.flatten_singleton (l := primary.tail.toList)] at hnodup' hfew'
    obtain ⟨size', hsecond⟩ := hsize _ hfew'
    obtain ⟨secondary, hsecond⟩ :=
      exists_search hnodup' hfew' hsecond (search cfg groups source).logged.source
    refine ⟨{ primary, secondary }, ?_⟩
    exact Logged.outcome_map_eq_ok_iff.2 ⟨secondary, hsecond, rfl⟩
  · exact ⟨_, rfl⟩

end

/-! ### Writing tags -/

omit [Coded α] in
theorem mark_mark (entry : Entry α) (tag : Conflict) :
    (entry.mark tag).mark tag = entry.mark tag := by
  simp [Entry.mark, Conflict.union]

/-- Tags go exactly to the natural slots of the elements. -/
theorem markAll_spec {sizing : Sizing} (tag : Conflict) {seed : Seed cfg.capacity} {offset : Nat}
    (hseed : seed.Composed sizing) (hne : seed.size ≠ 0) (xs : List α) {cells : Array (Entry α)}
    (hfit : offset + seed.size ≤ cells.size) :
    ∃ marked, markAll sizing tag seed offset xs cells = .ok marked ∧ marked.size = cells.size ∧
      ∀ k, marked[k]? = cells[k]?.map fun e =>
        if (xs.any fun x => offset + home sizing seed x == k) then e.mark tag else e := by
  induction xs generalizing cells with
  | nil => exact ⟨cells, rfl, rfl, by simp⟩
  | cons x xs ih =>
    have hx := naturalSlot_eq_ok hseed hne x
    have hlt := home_lt hseed hne x
    have hsize : (cells.modify (offset + home sizing seed x) (·.mark tag)).size = cells.size :=
      Array.size_modify
    obtain ⟨marked, hmarked, hsame, hcells⟩ := ih (hsize ▸ hfit)
    refine ⟨marked, ?_, hsame.trans hsize, ?_⟩
    · simp only [markAll, hx]
      rw [if_pos (by omega), hmarked]
    · intro k
      rw [hcells k, Array.getElem?_modify, List.any_cons]
      by_cases hk : offset + home sizing seed x = k
      · cases cells[k]? with
        | none => simp [hk]
        | some e => simp [hk, mark_mark]
      · simp [hk]

/-- The tag of a cell, as it follows from the elements outside the primary zone. -/
def tagAt (l : Layout cfg α) (k : Nat) : Conflict :=
  if l.primary.seed.size = 0 then .none
  else
    let lost := fun x => home cfg.sizing l.primary.seed x == k
    let lostAgain := fun x => l.primary.seed.size + home cfg.sizing l.secondary.seed x == k
    { secondary := l.secondary.residentList.any lost
      tail := l.tail.toList.any lost ||
        (decide (l.secondary.seed.size ≠ 0) && l.tail.toList.any lostAgain) }

/-- No natural slot lies behind its zone. -/
theorem any_home_beyond {sizing : Sizing} {seed : Seed cfg.capacity} (offset : Nat) {k : Nat}
    (hseed : seed.Composed sizing) (hne : seed.size ≠ 0) (hk : offset + seed.size ≤ k)
    (xs : List α) : (xs.any fun x => offset + home sizing seed x == k) = false := by
  rw [List.any_eq_false]
  intro x _
  have := home_lt hseed hne x
  simp only [beq_iff_eq]
  omega

theorem tagAt_primary {l : Layout cfg α} {i : Nat} (hi : i < l.primary.seed.size) : l.tagAt i =
    { secondary := l.secondary.residentList.any fun x => home cfg.sizing l.primary.seed x == i
      tail := l.tail.toList.any fun x => home cfg.sizing l.primary.seed x == i } := by
  have hne : l.primary.seed.size ≠ 0 := by omega
  have hbefore : (l.tail.toList.any fun x =>
      l.primary.seed.size + home cfg.sizing l.secondary.seed x == i) = false := by
    rw [List.any_eq_false]
    intro x _
    simp only [beq_iff_eq]
    omega
  simp only [tagAt, if_neg hne, hbefore, Bool.and_false, Bool.or_false]

section

variable {es : List α} {l : Layout cfg α} (hl : l.Fits es)
include hl

theorem tagAt_secondary {j : Nat} (hj : j < l.secondary.seed.size) :
    l.tagAt (l.primary.seed.size + j) =
      { secondary := false
        tail := l.tail.toList.any fun x => home cfg.sizing l.secondary.seed x == j } := by
  have hne' : l.secondary.seed.size ≠ 0 := by omega
  have hne : l.primary.seed.size ≠ 0 := hl.secondary_needs_primary.resolve_right hne'
  have hbeyond : ∀ xs : List α, (xs.any fun x =>
      home cfg.sizing l.primary.seed x == l.primary.seed.size + j) = false := by
    intro xs
    simpa only [Nat.zero_add] using any_home_beyond 0 hl.primary_seed hne (by omega) xs
  have hshift : ∀ a : Nat, (l.primary.seed.size + a == l.primary.seed.size + j) = (a == j) := by
    intro a
    rw [Bool.eq_iff_iff, beq_iff_eq, beq_iff_eq, Nat.add_left_cancel_iff]
  simp only [tagAt, if_neg hne, hbeyond, hshift, decide_eq_true hne', Bool.true_and, Bool.false_or]

/-- No tag is about a cell behind both slot zones. -/
theorem tagAt_tail {k : Nat} (hk : l.primary.seed.size + l.secondary.seed.size ≤ k) :
    l.tagAt k = .none := by
  by_cases hne : l.primary.seed.size = 0
  · rw [tagAt, if_pos hne]
  have hbeyond : ∀ xs : List α, (xs.any fun x =>
      home cfg.sizing l.primary.seed x == k) = false := by
    intro xs
    simpa only [Nat.zero_add] using any_home_beyond 0 hl.primary_seed hne (by omega) xs
  have hbeyond' : (decide (l.secondary.seed.size ≠ 0) && l.tail.toList.any fun x =>
      l.primary.seed.size + home cfg.sizing l.secondary.seed x == k) = false := by
    rw [Bool.and_eq_false_imp, decide_eq_true_iff]
    intro hne'
    exact any_home_beyond _ hl.secondary_seed hne' hk l.tail.toList
  simp only [tagAt, if_neg hne, hbeyond, hbeyond', Bool.or_false]
  rfl

/-- A primary cell is tagged exactly if the first packing displaced an element there,
    wherever the element went. -/
theorem tagAt_ne_none_iff {i : Nat} (hi : i < l.primary.seed.size) : l.tagAt i ≠ .none ↔
    ∃ x ∈ l.primary.tail.toList, home cfg.sizing l.primary.seed x = i := by
  have hsplit : ∀ x, x ∈ l.primary.tail.toList ↔
      x ∈ l.secondary.residentList ∨ x ∈ l.tail.toList := by
    intro x
    rw [← hl.secondary.content.mem_iff, List.mem_append]
    rfl
  rw [tagAt_primary hi, Conflict.ne_none_iff]
  simp only [List.any_eq_true, beq_iff_eq, hsplit]
  constructor
  · rintro (⟨x, hx, hhome⟩ | ⟨x, hx, hhome⟩)
    · exact ⟨x, Or.inl hx, hhome⟩
    · exact ⟨x, Or.inr hx, hhome⟩
  · rintro ⟨x, hx | hx, hhome⟩
    · exact Or.inl ⟨x, hx, hhome⟩
    · exact Or.inr ⟨x, hx, hhome⟩

end

structure Filled (l : Layout cfg α) (cells : Array (Entry α)) : Prop where
  size_eq : cells.size = l.length
  getElem?_eq : ∀ k : Nat, cells[k]? = l.cells[k]?.map fun e => { e with tag := l.tagAt k }

omit [Coded α] in
theorem size_cells (l : Layout cfg α) : l.cells.size = l.length := by
  simp [cells, length, Packing.size, Nat.add_assoc]

omit [Coded α] in
theorem tag_of_cells {l : Layout cfg α} {k : Nat} {e : Entry α} (he : l.cells[k]? = some e) :
    e.tag = .none := by
  have hmem : e ∈ l.cells := Array.mem_of_getElem? he
  simp only [cells, Array.mem_append, Array.mem_map, Vector.mem_toArray_iff, Vector.mem_map] at hmem
  rcases hmem with (⟨slot, -, rfl⟩ | ⟨slot, -, rfl⟩) | ⟨x, -, rfl⟩
  · rfl
  · rfl
  · rfl

omit [Coded α] in
/-- What three rounds of tagging make of a cell without a tag. -/
theorem mark_rounds {e : Entry α} (he : e.tag = .none) (p q r : Bool) :
    (let first := if p then e.mark { secondary := true } else e
     let second := if q then first.mark { tail := true } else first
     if r then second.mark { tail := true } else second) =
      { e with tag := { secondary := p, tail := q || r } } := by
  obtain ⟨resident, tag⟩ := e
  cases he
  cases p <;> cases q <;> cases r <;> rfl

section

variable {es : List α} {l : Layout cfg α} (hl : l.Fits es)
include hl

theorem taggedCells_spec : ∃ cells, l.taggedCells = .ok cells ∧ l.Filled cells := by
  have hlength := l.size_cells
  have hfit : l.primary.seed.size + l.secondary.seed.size ≤ l.cells.size := by
    rw [hlength, length, Packing.size, Packing.size]
    omega
  unfold taggedCells Packing.size
  rw [if_neg (by simp [hlength])]
  by_cases hzero : l.primary.seed.size = 0
  · refine ⟨l.cells, by rw [if_pos hzero], ⟨hlength, ?_⟩⟩
    intro k
    cases he : l.cells[k]? with
    | none => rfl
    | some e => rw [Option.map_some, tagAt, if_pos hzero, ← tag_of_cells he]
  rw [if_neg hzero]
  have hfit₁ : 0 + l.primary.seed.size ≤ l.cells.size := by omega
  obtain ⟨first, hfirst, hsize₁, hcells₁⟩ :=
    markAll_spec { secondary := true } hl.primary_seed hzero l.secondary.residentList hfit₁
  have hfit₂ : 0 + l.primary.seed.size ≤ first.size := by omega
  obtain ⟨second, hsecond, hsize₂, hcells₂⟩ :=
    markAll_spec { tail := true } hl.primary_seed hzero l.tail.toList hfit₂
  simp only [hfirst, hsecond]
  by_cases hsingle : l.secondary.seed.size = 0
  · refine ⟨second, by rw [if_pos hsingle], ⟨by omega, ?_⟩⟩
    intro k
    rw [hcells₂, hcells₁]
    cases he : l.cells[k]? with
    | none => rfl
    | some e =>
      simp only [Option.map_some, Nat.zero_add]
      have hrounds := mark_rounds (tag_of_cells he)
        (l.secondary.residentList.any fun x => home cfg.sizing l.primary.seed x == k)
        (l.tail.toList.any fun x => home cfg.sizing l.primary.seed x == k) false
      simpa [tagAt, hzero, hsingle] using hrounds
  · have hfit₃ : l.primary.seed.size + l.secondary.seed.size ≤ second.size := by omega
    obtain ⟨third, hthird, hsize₃, hcells₃⟩ :=
      markAll_spec { tail := true } hl.secondary_seed hsingle l.tail.toList hfit₃
    refine ⟨third, by rw [if_neg hsingle, hthird], ⟨by omega, ?_⟩⟩
    intro k
    rw [hcells₃, hcells₂, hcells₁]
    cases he : l.cells[k]? with
    | none => rfl
    | some e =>
      simp only [Option.map_some, Nat.zero_add]
      have hrounds := mark_rounds (tag_of_cells he)
        (l.secondary.residentList.any fun x => home cfg.sizing l.primary.seed x == k)
        (l.tail.toList.any fun x => home cfg.sizing l.primary.seed x == k)
        (l.tail.toList.any fun x =>
          l.primary.seed.size + home cfg.sizing l.secondary.seed x == k)
      simpa [tagAt, hzero, hsingle] using hrounds

/-! ### The finished table -/

omit [Coded α] hl in
/-- The residents of the cells, zone by zone. -/
theorem residents_of_cells : l.cells.toList.map Entry.resident =
    l.primary.slots.toList.map Slot.resident ++ l.secondary.slots.toList.map Slot.resident ++
      l.tail.toList.map some := by
  simp [cells, Vector.toList_toArray, Function.comp_def]

omit [Coded α] hl in
theorem cells_primary {i : Nat} (hi : i < l.primary.seed.size) :
    l.cells[i]? = some { resident := l.primary.slots[i].resident } := by
  unfold cells
  rw [Array.append_assoc, Array.getElem?_append_left (by simpa using hi)]
  simp [hi]

omit [Coded α] hl in
theorem cells_secondary {j : Nat} (hj : j < l.secondary.seed.size) :
    l.cells[l.primary.seed.size + j]? = some { resident := l.secondary.slots[j].resident } := by
  unfold cells
  rw [Array.append_assoc, Array.getElem?_append_right (by simp),
    Array.getElem?_append_left (by simpa using hj)]
  simp [hj]

/-- The table has the seeds of the packings and the cells with their tags. -/
structure Realizes (l : Layout cfg α) (t : Table cfg α) : Prop where
  primary : t.primary = l.primary.seed
  secondary : t.secondary = l.secondary.seed
  storage : l.Filled t.storage

theorem table_spec : ∃ t, l.table = .ok t ∧ l.Realizes t := by
  obtain ⟨cells, hcells, hfilled⟩ := l.taggedCells_spec hl
  have hfit : l.primary.seed.size + l.secondary.seed.size ≤ cells.size := by
    rw [hfilled.size_eq, length, Packing.size, Packing.size]
    omega
  refine ⟨⟨l.primary.seed, l.secondary.seed, cells, hfit, hl.secondary_needs_primary⟩, ?_,
    ⟨rfl, rfl, hfilled⟩⟩
  simp only [table, hcells, Table.ofParts, dif_pos hfit, dif_pos hl.secondary_needs_primary]

end

namespace Realizes

variable {l : Layout cfg α} {t : Table cfg α} (hr : l.Realizes t)
include hr

theorem primaryCell_eq (i : Fin t.primary.size) (hi : i.val < l.primary.seed.size) :
    t.primaryCell i = { resident := l.primary.slots[i.val].resident, tag := l.tagAt i.val } := by
  have hcell : t.storage[i.val]? = some (t.primaryCell i) := Array.getElem?_eq_getElem _
  rw [hr.storage.getElem?_eq, cells_primary hi] at hcell
  exact (Option.some.inj hcell).symm

theorem secondaryCell_eq (j : Fin t.secondary.size) (hj : j.val < l.secondary.seed.size) :
    t.secondaryCell j = { resident := l.secondary.slots[j.val].resident
                          tag := l.tagAt (l.primary.seed.size + j.val) } := by
  have hcell : t.storage[t.primary.size + j.val]? = some (t.secondaryCell j) :=
    Array.getElem?_eq_getElem _
  rw [hr.storage.getElem?_eq, hr.primary, cells_secondary hj] at hcell
  exact (Option.some.inj hcell).symm

theorem residents_eq : t.storage.toList.map Entry.resident =
    l.primary.slots.toList.map Slot.resident ++ l.secondary.slots.toList.map Slot.resident ++
      l.tail.toList.map some := by
  rw [← residents_of_cells]
  apply List.ext_getElem?
  intro k
  rw [List.getElem?_map, List.getElem?_map, Array.getElem?_toList, Array.getElem?_toList,
    hr.storage.getElem?_eq, Option.map_map]
  rfl

/-- Every cell of the tail is occupied, in the order of the second packing. -/
theorem tail_residents : t.tailZone.map Entry.resident = l.tail.toList.map some := by
  have hsame := congrArg (List.drop t.tailOffset) hr.residents_eq
  rwa [← List.map_drop, List.drop_left' (by simp [Table.tailOffset, hr.primary, hr.secondary])]
    at hsame

theorem tail_occupied : ∀ e ∈ t.tailZone, e.resident ≠ none := by
  intro e he hnone
  have hmem : e.resident ∈ l.tail.toList.map some := hr.tail_residents ▸ List.mem_map_of_mem he
  rw [hnone] at hmem
  obtain ⟨x, -, hx⟩ := List.mem_map.1 hmem
  cases hx

theorem tail_eq : t.tailZone.filterMap Entry.resident = l.tail.toList := by
  have hread := congrArg (List.filterMap id) hr.tail_residents
  rw [List.filterMap_map, List.filterMap_map] at hread
  simpa using hread

theorem tag_eq {k : Nat} {e : Entry α} (he : t.storage[k]? = some e) : e.tag = l.tagAt k := by
  rw [hr.storage.getElem?_eq] at he
  obtain ⟨cell, -, rfl⟩ := Option.map_eq_some_iff.1 he
  rfl

theorem primary_eq : t.primaryZone.filterMap Entry.resident = l.primary.residentList := by
  have hread := congrArg (fun rs => (rs.take t.primary.size).filterMap id) hr.residents_eq
  rw [← List.map_take, List.append_assoc, List.take_left' (by simp [hr.primary]),
    List.filterMap_map, List.filterMap_map] at hread
  simpa [Table.primaryZone, Packing.residentList] using hread

theorem secondary_eq : t.secondaryZone.filterMap Entry.resident = l.secondary.residentList := by
  have hread := congrArg
    (fun rs => ((rs.drop t.primary.size).take t.secondary.size).filterMap id) hr.residents_eq
  rw [← List.map_drop, ← List.map_take, List.append_assoc, List.drop_left' (by simp [hr.primary]),
    List.take_left' (by simp [hr.secondary]), List.filterMap_map, List.filterMap_map] at hread
  simpa [Table.secondaryZone, Packing.residentList] using hread

theorem members_eq :
    t.members = l.primary.residentList ++ l.secondary.residentList ++ l.tail.toList := by
  rw [Table.members, ← t.zones_append, List.filterMap_append, List.filterMap_append, hr.primary_eq,
    hr.secondary_eq, hr.tail_eq]

theorem mem_secondary_iff {x : α} : x ∈ l.secondary.residentList ↔
    ∃ j, (t.secondaryCell j).resident = some x := by
  rw [← hr.secondary_eq, t.secondaryZone_eq_ofFn, Table.mem_ofFn_resident_iff]

variable {es : List α} (hl : l.Fits es)
include hl

/-- The table of a layout holds its elements, each as often as it was given. -/
theorem members_perm : t.members.Perm es := by
  rw [hr.members_eq, List.append_assoc]
  exact (hl.secondary.content.append_left _).trans hl.primary.content

theorem composed : t.Composed := by
  refine ⟨?_, ?_⟩
  · rw [hr.primary]
    exact hl.primary_seed
  · rw [hr.secondary]
    exact hl.secondary_seed

theorem tail_untagged : ∀ e ∈ t.tailZone, e.tag = .none := by
  intro e he
  obtain ⟨k, hk⟩ := List.getElem?_of_mem he
  rw [Table.tailZone, List.getElem?_drop, Array.getElem?_toList] at hk
  rw [hr.tag_eq hk, tagAt_tail hl]
  rw [Table.tailOffset, hr.primary, hr.secondary]
  exact Nat.le_add_right _ _

/-- The tags of a layout say where elements overflowed, and nothing else. -/
theorem exact : t.Exact := by
  have hseeds := hr.composed hl
  have hprimary : ∀ i : Fin t.primary.size, i.val < l.primary.seed.size := fun i => hr.primary ▸ i.isLt
  have hsecondary : ∀ j : Fin t.secondary.size, j.val < l.secondary.seed.size :=
    fun j => hr.secondary ▸ j.isLt
  have hslot : ∀ (x : α) (i : Fin t.primary.size),
      naturalSlot cfg.sizing x t.primary = .ok i ↔ home cfg.sizing l.primary.seed x = i.val := by
    intro x i
    have hhome : home cfg.sizing t.primary x = home cfg.sizing l.primary.seed x := by
      rw [hr.primary]
    rw [naturalSlot_eq_ok_iff hseeds.1 (Nat.ne_of_gt i.pos), hhome]
  have hslot' : ∀ (x : α) (j : Fin t.secondary.size),
      naturalSlot cfg.sizing x t.secondary = .ok j ↔
        home cfg.sizing l.secondary.seed x = j.val := by
    intro x j
    have hhome : home cfg.sizing t.secondary x = home cfg.sizing l.secondary.seed x := by
      rw [hr.secondary]
    rw [naturalSlot_eq_ok_iff hseeds.2 (Nat.ne_of_gt j.pos), hhome]
  constructor
  case primary_home =>
    intro i x hx
    rw [hr.primaryCell_eq i (hprimary i)] at hx
    exact (hslot x i).2 (hl.primary.home_of_resident hx)
  case secondary_home =>
    intro j x hx
    rw [hr.secondaryCell_eq j (hsecondary j)] at hx
    exact (hslot' x j).2 (hl.secondary.home_of_resident hx)
  case primary_secondary =>
    intro i
    rw [hr.primaryCell_eq i (hprimary i), tagAt_primary (hprimary i)]
    simp only [List.any_eq_true, beq_iff_eq, hr.mem_secondary_iff, hslot]
    constructor
    · rintro ⟨x, ⟨j, hj⟩, hhome⟩
      exact ⟨j, x, hj, hhome⟩
    · rintro ⟨j, x, hj, hhome⟩
      exact ⟨x, ⟨j, hj⟩, hhome⟩
  case primary_tail =>
    intro i
    rw [hr.primaryCell_eq i (hprimary i), tagAt_primary (hprimary i)]
    simp only [List.any_eq_true, beq_iff_eq, hr.tail_eq, hslot]
  case secondary_secondary =>
    intro j
    rw [hr.secondaryCell_eq j (hsecondary j), tagAt_secondary hl (hsecondary j)]
  case secondary_tail =>
    intro j
    rw [hr.secondaryCell_eq j (hsecondary j), tagAt_secondary hl (hsecondary j)]
    simp only [List.any_eq_true, beq_iff_eq, hr.tail_eq, hslot']
  case tail_untagged => exact hr.tail_untagged hl
  case occupied =>
    intro e he htag
    rcases Table.mem_storage_iff.1 he with ⟨i, rfl⟩ | ⟨j, rfl⟩ | htail
    · rw [hr.primaryCell_eq i (hprimary i)] at htag ⊢
      obtain ⟨x, hx, hhome⟩ := (tagAt_ne_none_iff hl (hprimary i)).1 htag
      obtain ⟨y, hy⟩ := hl.primary.exists_resident (hl.primary.mem_of_mem_tail hx)
        (hhome ▸ hprimary i)
      simp only [hhome] at hy
      exact Option.ne_none_iff_exists'.2 ⟨y, hy⟩
    · rw [hr.secondaryCell_eq j (hsecondary j)] at htag ⊢
      rw [tagAt_secondary hl (hsecondary j)] at htag
      simp only [Conflict.ne_none_iff, Bool.false_eq_true, false_or, List.any_eq_true,
        beq_iff_eq] at htag
      obtain ⟨x, hx, hhome⟩ := htag
      obtain ⟨y, hy⟩ := hl.secondary.exists_resident (hl.secondary.mem_of_mem_tail hx)
        (hhome ▸ hsecondary j)
      simp only [hhome] at hy
      exact Option.ne_none_iff_exists'.2 ⟨y, hy⟩
    · exact absurd (hr.tail_untagged hl e htail) htag

theorem coherent : t.Coherent := (hr.exact hl).coherent (hr.composed hl)

/-- As many primary cells are tagged as the first packing counted conflicted slots. -/
theorem tagged_count :
    (t.primaryZone.countP fun e => decide (e.tag ≠ .none)) = l.primary.conflicts := by
  have hsize : t.primary.size = l.primary.seed.size := by rw [hr.primary]
  have hsame : (t.primaryZone.map fun e => decide (e.tag ≠ .none)) =
      l.primary.slots.toList.map fun slot => slot.displaced != 0 := by
    rw [t.primaryZone_eq_ofFn]
    apply List.ext_getElem
    · simp [hsize]
    · intro i hi hi'
      have hlt : i < l.primary.seed.size := by simpa using hi'
      have htagged : l.tagAt i ≠ .none ↔ l.primary.slots[i].displaced ≠ 0 := by
        simp only [tagAt_ne_none_iff hl hlt, hl.primary.displaced i hlt, ← Nat.pos_iff_ne_zero,
          List.countP_pos_iff, beq_iff_eq]
      rw [List.getElem_map, List.getElem_map, List.getElem_ofFn,
        hr.primaryCell_eq ⟨i, hsize ▸ hlt⟩ hlt, Vector.getElem_toList, Bool.eq_iff_iff,
        decide_eq_true_iff, bne_iff_ne]
      exact htagged
  have hcount := congrArg (List.countP id) hsame
  rw [List.countP_map, List.countP_map] at hcount
  exact hcount.trans hl.primary.conflicts.symm

end Realizes

end Layout

end Supertypes
