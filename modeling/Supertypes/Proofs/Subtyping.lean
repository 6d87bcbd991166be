/-
  Supertypes/Proofs/Subtyping.lean
  ================================
  **The answers to subtype questions.**

  The test for a secondary supertype answers from the table of a class or, without one,
  from its declaration.  In a registry in use both answers are the same function of the
  hierarchy (`Sound.hasSecondary_eq`): a published table holds the candidates of its
  class, and these are what a scan of the declaration finds.  So it makes no difference
  which classes have tables, and the test finds exactly the interfaces that are reached
  and the superclasses that overflow the primary array.

  The subtype test asks the primary array about the other superclasses.  Together the
  three ways to an answer cover all paths along superclass and interface edges.
-/
import Supertypes.Proofs.Use

namespace Supertypes.Registry

/-! ### A published table -/

/-- The crowded hierarchy after the table of its last class is published, with one more
    interface that nothing has a path to. -/
def desktop : Registry cramped × Allocator :=
  let published := dialog.1.publish 7 dialog.2
  declareNext (published.after dialog.1, published.source) ⟨"Printer", .ofInterface []⟩

theorem history_desktop : History dialog [dialog.1.attempt 7 dialog.2] desktop := by
  have hpublish : Trace dialog [dialog.1.attempt 7 dialog.2] _ _ :=
    .next (.start dialog) (.publish dialog.1 dialog.2 ⟨7, by decide +kernel⟩)
  exact ⟨_, hpublish.next (.declare _ _ _)⟩

theorem inUse_desktop : InUse desktop.1 desktop.2 := inUse_dialog.run history_desktop.run

theorem size_desktop : desktop.1.size = 9 := by decide +kernel

theorem extends_desktop :
    desktop.1.hierarchy.Extends 7 6 ∧ desktop.1.hierarchy.Extends 7 5 := by
  have hpanel : (desktop.1.hierarchy.descriptor 7).parent = some 6 := by decide +kernel
  have hwidget : (desktop.1.hierarchy.descriptor 6).parent = some 5 := by decide +kernel
  exact ⟨.parent hpanel, .step hpanel (.parent hwidget)⟩

theorem reaches_desktop : desktop.1.hierarchy.Reaches 7 0 := by
  have hlisted : 0 ∈ (desktop.1.hierarchy.descriptor 5).interfaces := by decide +kernel
  exact extends_desktop.2.reaches.trans (Hierarchy.Direct.reaches (.inr hlisted))

variable {cfg : Config} {reg : Registry cfg} {alloc : Allocator}

/-! ### Answers -/

/-- What an answer means decides which answer it is. -/
theorem answers_of_iff {answered : Except Fault Bool} {P : Prop}
    (h : ∃ answer, answered = .ok answer ∧ (answer = true ↔ P)) :
    (P → answered = .ok true) ∧ (¬ P → answered = .ok false) := by
  obtain ⟨answer, rfl, hiff⟩ := h
  constructor
  · intro hp
    rw [hiff.2 hp]
  · intro hnot
    rw [Bool.eq_false_iff.2 (mt hiff.1 hnot)]

/-! ### Secondary supertypes -/

/-- With or without a table, the answer is that of the declarations. -/
theorem Sound.hasSecondary_eq (hs : Sound (reg, alloc)) {a : Nat} (ha : a < reg.size) (b : Nat) :
    reg.hasSecondary a b = .ok (decide (a = b) || reg.hierarchy.scanSecondary a b) := by
  cases htable : reg.table? a with
  | none =>
    unfold hasSecondary
    by_cases hab : a = b
    · simp [hab]
    · simp [hab, htable]
  | some t =>
    have hholds : t.Holds (reg.expected a) := hs.holds ha htable
    have hscan : t.scan (reg.member b) = reg.hierarchy.scanSecondary a b := by
      have hcandidates := Hierarchy.mem_candidates_iff hs.declared hs.identified (b := b) ha
      rw [Bool.eq_iff_iff, hholds.scan_iff_mem, member_mem_expected_iff]
      exact hcandidates
    rw [hasSecondary_of_holds hholds htable, hscan]

/-- The test for a secondary supertype finds the interfaces that are reached and the
    superclasses that overflow the primary array.  The answer about two classes is that of
    the declarations; it is the same whichever tables are published, and it stays the same
    in whatever becomes of the registry. -/
theorem hasSecondary_iff (huse : InUse reg alloc) (a b : Fin reg.size) :
    (∃ answer, reg.hasSecondary a b = .ok answer ∧
      (answer = true ↔ b = a ∨
        (reg.hierarchy.descriptor b).kind = .interface ∧ reg.hierarchy.Reaches a b ∨
        reg.hierarchy.Extends a b ∧ cfg.primaryLimit ≤ (reg.hierarchy.descriptor b).depth)) ∧
    (b ≠ a → reg.hasSecondary a b = .ok (reg.hierarchy.scanSecondary a b)) ∧
    (∀ (other : Registry cfg) (alloc' : Allocator), InUse other alloc' →
      other.hierarchy = reg.hierarchy → other.hasSecondary a b = reg.hasSecondary a b) ∧
    ∀ (later : Registry cfg) (alloc' : Allocator), Run (reg, alloc) (later, alloc') →
      later.hasSecondary a b = reg.hasSecondary a b := by
  have hs := sound_of_inUse huse
  have hanswer := hs.hasSecondary_eq a.isLt b
  refine ⟨⟨_, hanswer, ?_⟩, ?_, ?_, ?_⟩
  · have hscan := Hierarchy.scanSecondary_iff hs.declared hs.identified (b := b.val) a.isLt
    dsimp only at hscan
    rw [Bool.or_eq_true, decide_eq_true_iff, hscan, Fin.ext_iff, eq_comm]
    by_cases hab : b.val = a.val
    · simp [hab]
    · simp [hab, or_comm]
  · intro hne
    have hval : a.val ≠ b.val := fun heq => hne (Fin.ext heq.symm)
    rw [hanswer]
    simp [hval]
  · intro other alloc' huse' hsame
    have hsize : a.val < other.size := by
      change a.val < other.hierarchy.size
      rw [hsame]
      exact a.isLt
    rw [hanswer, (sound_of_inUse huse').hasSecondary_eq hsize, hsame]
  · intro later alloc' hrun
    have hincludes := includes_of_run hrun
    have hscan : later.hierarchy.scanSecondary a b = reg.hierarchy.scanSecondary a b :=
      hincludes.agree.scanSecondary a.isLt b
    have hsize : a.val < later.size := Nat.lt_of_lt_of_le a.isLt hincludes.size_le
    rw [hanswer, (sound_of_run hrun hs).hasSecondary_eq hsize, hscan]

/-- Before and after its table is published, a class finds an interface and the superclass
    that overflows, and neither the superclass in its primary array nor a stranger. -/
theorem hasSecondary_desktop :
    (dialog.1.table? 7).isSome = false ∧ (desktop.1.table? 7).isSome = true ∧
    desktop.1.hasSecondary 7 0 = .ok true ∧ desktop.1.hasSecondary 7 6 = .ok true ∧
    desktop.1.hasSecondary 7 5 = .ok false ∧ desktop.1.hasSecondary 7 8 = .ok false ∧
    (∀ b : Fin 7, desktop.1.hasSecondary 7 b = .ok (desktop.1.hierarchy.scanSecondary 7 b)) ∧
    ∀ b : Fin 7, desktop.1.hasSecondary 7 b = dialog.1.hasSecondary 7 b := by
  have hsize : dialog.1.size = 8 := by decide +kernel
  have hseven : 7 < desktop.1.size := by decide +kernel
  have hkind : (desktop.1.hierarchy.descriptor 5).kind = .plainClass := by decide +kernel
  have hroot : (desktop.1.hierarchy.descriptor 5).depth = 0 := by decide +kernel
  have hanswers := fun b (hb : b < 9) =>
    hasSecondary_iff inUse_desktop ⟨7, hseven⟩ ⟨b, size_desktop ▸ hb⟩
  refine ⟨by decide +kernel, by decide +kernel, ?_, ?_, ?_, ?_, ?_, ?_⟩
  · refine (answers_of_iff (hanswers 0 (by decide)).1).1 (Or.inr (Or.inl ⟨?_, reaches_desktop⟩))
    decide +kernel
  · refine (answers_of_iff (hanswers 6 (by decide)).1).1 (Or.inr (Or.inr ⟨extends_desktop.1, ?_⟩))
    decide +kernel
  · refine (answers_of_iff (hanswers 5 (by decide)).1).2 ?_
    rintro (hself | ⟨hinterface, -⟩ | ⟨-, hdepth⟩)
    · have hsame : 5 = 7 := Fin.val_eq_of_eq hself
      omega
    · exact absurd (hkind.symm.trans hinterface) (by decide)
    · exact absurd (hroot ▸ hdepth) (by decide)
  · refine (answers_of_iff (hanswers 8 (by decide)).1).2 ?_
    rintro (hself | ⟨-, hreaches⟩ | ⟨hextends, -⟩)
    · have hsame : 8 = 7 := Fin.val_eq_of_eq hself
      omega
    · have hle : 8 ≤ 7 := hreaches.le
      omega
    · have hlt : 8 < 7 := hextends.lt
      omega
  · intro b
    obtain ⟨-, hscanned, -⟩ := hanswers b (by omega)
    refine hscanned ?_
    intro hself
    exact absurd (Fin.val_eq_of_eq hself) (Nat.ne_of_lt b.isLt)
  · intro b
    obtain ⟨-, -, -, hlater⟩ := hasSecondary_iff inUse_dialog ⟨7, by omega⟩ ⟨b, by omega⟩
    exact hlater desktop.1 desktop.2 history_desktop.run

/-! ### All supertypes -/

/-- The subtype test answers whether there is a path of superclass and interface edges. -/
theorem isSubtype_iff_reaches (huse : InUse reg alloc) (a b : Fin reg.size) :
    ∃ answer, reg.isSubtype a b = .ok answer ∧
      (answer = true ↔ reg.hierarchy.Reaches a b) := by
  have hs := sound_of_inUse huse
  have hdecl := hs.declared
  have hids := hs.identified
  have ha : a.val < reg.hierarchy.size := a.isLt
  have hb : b.val < reg.hierarchy.size := b.isLt
  unfold isSubtype
  by_cases hab : a.val = b.val
  · refine ⟨true, by rw [if_pos hab], ?_⟩
    rw [hab]
    simp [Hierarchy.Reaches.refl]
  rw [if_neg hab]
  by_cases hprimary : reg.hierarchy.canBePrimary b = true
  · -- a superclass of small depth: the primary array decides
    rw [if_pos hprimary]
    simp only [Hierarchy.canBePrimary, Bool.and_eq_true, beq_iff_eq, decide_eq_true_eq] at hprimary
    obtain ⟨hclass, hdepth⟩ := hprimary
    refine ⟨_, rfl, ?_⟩
    rw [beq_iff_eq, Hierarchy.primarySuper?_iff hdecl hids ha hb hclass hdepth,
      Hierarchy.reaches_class_iff hdecl ha hclass]
  · -- an interface, or a superclass that overflows the primary array
    rw [if_neg hprimary]
    refine ⟨_, hs.hasSecondary_eq a.isLt b, ?_⟩
    rw [Bool.or_eq_true, decide_eq_true_iff, or_iff_right hab,
      Hierarchy.scanSecondary_iff hdecl hids ha]
    cases hkind : (reg.hierarchy.descriptor b).kind with
    | interface =>
      constructor
      · rintro (⟨hext, -⟩ | ⟨-, hreach, -⟩)
        · exact hext.reaches
        · exact hreach
      · intro hreach
        exact Or.inr ⟨rfl, hreach, Ne.symm hab⟩
    | plainClass =>
      have hdepth : cfg.primaryLimit ≤ (reg.hierarchy.descriptor b).depth := by
        simpa [Hierarchy.canBePrimary, hkind] using hprimary
      rw [Hierarchy.reaches_class_iff hdecl ha hkind, or_iff_right (Ne.symm hab)]
      constructor
      · rintro (⟨hext, -⟩ | ⟨hfalse, -⟩)
        · exact hext
        · cases hfalse
      · intro hext
        exact Or.inl ⟨hext, hdepth⟩

/-- A superclass in the primary array, one that overflows it, an interface, and a stranger. -/
theorem isSubtype_desktop :
    desktop.1.isSubtype 7 5 = .ok true ∧ desktop.1.isSubtype 7 6 = .ok true ∧
      desktop.1.isSubtype 7 0 = .ok true ∧ desktop.1.isSubtype 7 8 = .ok false := by
  have hseven : 7 < desktop.1.size := by decide +kernel
  have hanswers := fun b (hb : b < 9) =>
    answers_of_iff (isSubtype_iff_reaches inUse_desktop ⟨7, hseven⟩ ⟨b, size_desktop ▸ hb⟩)
  refine ⟨?_, ?_, ?_, ?_⟩
  · exact (hanswers 5 (by decide)).1 extends_desktop.2.reaches
  · exact (hanswers 6 (by decide)).1 extends_desktop.1.reaches
  · exact (hanswers 0 (by decide)).1 reaches_desktop
  · refine (hanswers 8 (by decide)).2 ?_
    intro hreaches
    have hle : 8 ≤ 7 := hreaches.le
    omega

end Supertypes.Registry
