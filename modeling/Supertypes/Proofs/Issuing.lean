/-
  Supertypes/Proofs/Issuing.lean
  ==============================
  **An allocator counts, whoever asks.**

  What an allocator hands out is a matter of two counts, of the identities and of the
  mixed words before (`Allocator.Issued`).  One such stretch continues another, so it is
  enough to know it of the single draws.  Everything else is made of these: the words that
  a search recorded are the next words of its source (`yields_search`), hence those of a
  publication (`yields_publish`), a draft takes an identity and a code
  (`issued_draft`), and so what is written in a ledger was handed out in this order
  (`issued_of_ledger`).
-/
import Mathlib.Data.List.Induction
import Supertypes.Proofs.Ancestry
import Supertypes.Proofs.Optimality
import Supertypes.Registry.Run

namespace Supertypes

/-! ### Words of a source -/

namespace SeedSource

variable {σ : Type} [SeedSource σ] {a b c : σ} {xs ys : List UInt64}

/-- The next words of the source, which lead to the other one. -/
def Yields (a : σ) (words : List UInt64) (b : σ) : Prop := take words.length a = (words, b)

theorem Yields.refl (a : σ) : Yields a [] a := rfl

theorem yields_concat_iff {word : UInt64} :
    Yields a (xs ++ [word]) c ↔ ∃ b, Yields a xs b ∧ draw b = (word, c) := by
  unfold Yields
  rw [List.length_append, List.length_singleton, take]
  constructor
  · intro h
    obtain ⟨hwords, hsource⟩ := Prod.ext_iff.1 h
    obtain ⟨hxs, hword⟩ := List.append_inj' hwords rfl
    exact ⟨(take xs.length a).2, Prod.ext hxs rfl, Prod.ext (List.cons.inj hword).1 hsource⟩
  · rintro ⟨b, hb, hword⟩
    simp only [hb, hword]

theorem Yields.trans (hab : Yields a xs b) (hbc : Yields b ys c) : Yields a (xs ++ ys) c := by
  induction ys using List.reverseRecOn generalizing c with
  | nil =>
    cases hbc
    rwa [List.append_nil]
  | append_singleton ys word ih =>
    obtain ⟨mid, hmid, hword⟩ := yields_concat_iff.1 hbc
    rw [← List.append_assoc]
    exact yields_concat_iff.2 ⟨mid, ih hmid, hword⟩

end SeedSource

open SeedSource (Yields yields_concat_iff)

section

variable {cfg : Config} {α σ : Type} [Coded α] [DecidableEq α] [SeedSource σ]

/-- The recorded draws of a search are the next words of its source. -/
theorem yields_search (cfg : Config) (groups : List (List α)) (source : σ) :
    Yields source (search cfg groups source).words (search cfg groups source).source := by
  refine final_of_attempts
    (I := fun s => Yields source (s.draws.toList.map Draw.word) s.source) (.refl source) ?_
  intro size _ s hs
  rw [Search.source_attempt, Search.draws_attempt, Array.toList_push, List.map_append]
  exact yields_concat_iff.2 ⟨s.source, hs, rfl⟩

theorem yields_arrange (cfg : Config) (groups : List (List α)) (source : σ) :
    Yields source (Layout.words cfg groups source)
      (Layout.arrange cfg groups source).source := by
  have hfirst := yields_search cfg groups source
  unfold Layout.arrange
  cases houtcome : (search cfg groups source).packing with
  | error fault =>
    simp only [Layout.words, houtcome]
    rw [Logged.bind_of_error (l := (search cfg groups source).logged) houtcome]
    exact hfirst
  | ok primary =>
    simp only [Layout.words, houtcome]
    rw [Logged.bind_of_ok (l := (search cfg groups source).logged) houtcome]
    by_cases hneeds : Layout.needsSecond cfg primary = true
    · simp only [if_pos hneeds]
      exact hfirst.trans (yields_search cfg _ _)
    · simp only [if_neg hneeds]
      exact hfirst

theorem yields_publish (reg : Registry cfg) (r : Nat) (source : σ) :
    Yields source (reg.publishWords r source) (reg.publish r source).source := by
  unfold Registry.publishWords Registry.publish
  split
  · exact .refl source
  · rw [Logged.source_andThen, Logged.source_andThen]
    unfold Registry.build
    cases cfg.check with
    | error fault => exact .refl source
    | ok =>
      simp only [Logged.source_andThen]
      exact yields_arrange cfg _ source

end

/-! ### Stretches of an allocator -/

theorem of_getElem?_singleton {β : Type} {x y : β} {k : Nat} (h : [x][k]? = some y) :
    k = 0 ∧ y = x := by
  rw [List.getElem?_singleton] at h
  split at h
  · rename_i hk
    exact ⟨hk, (Option.some.inj h).symm⟩
  · cases h

namespace Allocator

/-- The word that is mixed for the draw after `j` others. -/
def wordAt (a : Allocator) (j : Nat) : UInt64 := mix (a.counter + UInt64.ofNat (j + 1)) a.salt

/-- What was handed out on the way from one allocator to another: identities without a
    gap, and the words of the counter, each as a seed or folded to a hash code. -/
structure Issued (a : Allocator) (issues : List Issue) (b : Allocator) : Prop where
  salt : b.salt = a.salt
  serial : b.serial = a.serial + (issues.filterMap Issue.identity?).length
  counter : b.counter = a.counter + UInt64.ofNat (issues.filter Issue.isMixed).length
  identities : ∀ (k : Nat) (id : ClassId), (issues.filterMap Issue.identity?)[k]? = some id →
    id = ⟨a.serial + k + 1⟩
  mixed : ∀ (j : Nat) (issue : Issue), (issues.filter Issue.isMixed)[j]? = some issue →
    issue = .seed (a.wordAt j) ∨ issue = .code (foldHalf (a.wordAt j))

namespace Issued

variable {a b c : Allocator} {xs ys : List Issue}

theorem refl (a : Allocator) : a.Issued [] a :=
  ⟨rfl, rfl, (UInt64.add_zero _).symm, by simp, by simp⟩

/-- Both counts go on where they were. -/
theorem trans (hab : a.Issued xs b) (hbc : b.Issued ys c) : a.Issued (xs ++ ys) c := by
  refine ⟨hbc.salt.trans hab.salt, ?_, ?_, ?_, ?_⟩
  · rw [hbc.serial, hab.serial, List.filterMap_append, List.length_append, Nat.add_assoc]
  · rw [hbc.counter, hab.counter, List.filter_append, List.length_append, UInt64.ofNat_add,
      UInt64.add_assoc]
  · intro k id hk
    rw [List.filterMap_append, List.getElem?_append] at hk
    split at hk
    · exact hab.identities k id hk
    · rw [hbc.identities _ id hk, hab.serial, ClassId.mk.injEq]
      omega
  · intro j issue hj
    rw [List.filter_append, List.getElem?_append] at hj
    split at hj
    · exact hab.mixed j issue hj
    · rename_i hbeyond
      -- the counter goes round, but sums of words go round with it
      have hword : b.wordAt (j - (xs.filter Issue.isMixed).length) = a.wordAt j := by
        have hsum : (xs.filter Issue.isMixed).length +
            (j - (xs.filter Issue.isMixed).length + 1) = j + 1 := by omega
        rw [wordAt, wordAt, hab.salt, hab.counter, UInt64.add_assoc, ← UInt64.ofNat_add, hsum]
      rw [← hword]
      exact hbc.mixed _ issue hj

/-! ### Single draws -/

theorem identity {id : ClassId} (h : a.nextId = .ok (id, b)) : a.Issued [.identity id] b := by
  obtain ⟨rfl, rfl⟩ := of_nextId_eq_ok h
  refine ⟨rfl, rfl, (UInt64.add_zero _).symm, ?_, ?_⟩
  · intro k id hk
    obtain ⟨rfl, rfl⟩ := of_getElem?_singleton hk
    rfl
  · intro j issue hj
    cases hj

theorem seed (a : Allocator) : a.Issued [.seed a.nextSeed.1] a.nextSeed.2 := by
  refine ⟨rfl, rfl, rfl, ?_, ?_⟩
  · intro k id hk
    cases hk
  · intro j issue hj
    obtain ⟨rfl, rfl⟩ := of_getElem?_singleton hj
    exact Or.inl rfl

theorem code (a : Allocator) : a.Issued [.code a.nextCode.1] a.nextCode.2 := by
  refine ⟨rfl, rfl, rfl, ?_, ?_⟩
  · intro k id hk
    cases hk
  · intro j issue hj
    obtain ⟨rfl, rfl⟩ := of_getElem?_singleton hj
    exact Or.inr rfl

theorem seeds {words : List UInt64} (h : Yields a words b) : a.Issued (words.map .seed) b := by
  induction words using List.reverseRecOn generalizing b with
  | nil =>
    cases h
    exact .refl a
  | append_singleton words word ih =>
    obtain ⟨mid, hmid, hword⟩ := yields_concat_iff.1 h
    have hlast : mid.Issued [.seed word] b := by
      obtain ⟨rfl, rfl⟩ := Prod.ext_iff.1 hword
      exact .seed mid
    rw [List.map_append]
    exact (ih hmid).trans hlast

end Issued

end Allocator

/-! ### Calls -/

namespace Registry

open Allocator (Issued)

variable {cfg : Config}

theorem issued_draft (reg : Registry cfg) (d : Declaration reg.size) (alloc : Allocator) :
    alloc.Issued (reg.draftIssues d alloc) (reg.hierarchy.draft d alloc).source := by
  unfold draftIssues
  rcases reg.hierarchy.draft_cases d alloc with ⟨failure, hdraft⟩ | ⟨-, id, named, hid, hdraft⟩
  · rw [hdraft]
    exact .refl alloc
  · have hfield : (reg.hierarchy.fields d id named.nextCode.1).id = id := reg.hierarchy.fields_id d id _
    have hcode : (reg.hierarchy.fields d id named.nextCode.1).code = named.nextCode.1 :=
      reg.hierarchy.fields_code d id _
    rw [hdraft]
    change alloc.Issued [.identity (reg.hierarchy.fields d id named.nextCode.1).id,
      .code (reg.hierarchy.fields d id named.nextCode.1).code] named.nextCode.2
    rw [hfield, hcode]
    exact (Issued.identity hid).trans (Issued.code named)

theorem issued_publish (reg : Registry cfg) (r : Nat) (alloc : Allocator) :
    alloc.Issued (reg.publishIssues r alloc) (reg.publish r alloc).source :=
  Issued.seeds (yields_publish reg r alloc)

/-- What was drawn for a declaration stays drawn, whether its table is built or not. -/
theorem issued_create (reg : Registry cfg) (d : Declaration reg.size) (alloc : Allocator) :
    alloc.Issued (reg.createIssues d alloc) (reg.create d alloc).source := by
  have hdraft : alloc.Issued (reg.draftIssues d alloc) (reg.declare d alloc).source :=
    reg.issued_draft d alloc
  unfold createIssues create
  cases houtcome : (reg.declare d alloc).outcome with
  | error failure =>
    rw [Logged.bind_of_error houtcome, List.append_nil]
    exact hdraft
  | ok extended =>
    rw [Logged.bind_of_ok houtcome]
    exact hdraft.trans (extended.issued_publish reg.size _)

theorem issued_of_step {s t : Registry cfg × Allocator} {now : List (Attempt cfg)}
    {taken : List Issue} (hstep : Step s now taken t) : s.2.Issued taken t.2 := by
  cases hstep with
  | declare reg alloc d => exact reg.issued_draft d alloc
  | create reg alloc d => exact reg.issued_create d alloc
  | publish reg alloc r => exact reg.issued_publish r alloc
  | publishWith reg alloc r source => exact .refl alloc
  | ask reg alloc => exact .refl alloc
  | verify reg alloc => exact .refl alloc
  | drawSeed reg alloc => exact .seed alloc
  | drawCode reg alloc => exact .code alloc
  | drawId reg alloc next id hid => exact .identity hid

/-- A ledger has what was handed out, in order and without a gap. -/
theorem issued_of_ledger {s t : Registry cfg × Allocator} {issues : List Issue}
    (ledger : Ledger s issues t) : s.2.Issued issues t.2 := by
  obtain ⟨attempts, trace⟩ := ledger
  induction trace with
  | start => exact .refl _
  | next _ hstep ih => exact ih.trans (issued_of_step hstep)

end Registry

end Supertypes
