/-
  Supertypes/Proofs/Identities.lean
  =================================
  **Identities stand for classes, and count upwards.**

  Repeated classes are recognised by their identities, in three places: when a list of
  interfaces is checked, when interfaces are united, and when the candidates for a table
  are collected.  In a hierarchy whose classes have identities of their own
  (`Hierarchy.Identified`), all three could as well compare the classes themselves.

  Every registry in use has such a hierarchy.  Its classes carry what the allocator handed
  out (`carries_of_ledger`), and their identities ascend in the order of declaration.
  Supertypes are declared first; so no class is its own proper supertype, and a chain of
  superclasses is as long as the depth says (`identities_of_ledger`).
-/
import Supertypes.Proofs.Contents
import Supertypes.Proofs.Issuing

namespace Supertypes

namespace Hierarchy

variable {cfg : Config} {h : Hierarchy cfg}

/-! ### Recognising repeated classes -/

/-- Checks a list of interfaces from left to right, given the classes met so far. -/
def checkInterfacesByRef (h : Hierarchy cfg) (name : String) :
    List Nat → List Nat → Except DeclareError Unit
  | _, [] => .ok ()
  | seen, i :: rest =>
    let entry := h.descriptor i
    if entry.isInterface = false then .error (.notAnInterface name entry.name)
    else if i ∈ seen then .error (.duplicateInterface name entry.name)
    else h.checkInterfacesByRef name (i :: seen) rest

section

variable (hids : h.Identified)
include hids

theorem id_mem_map_iff {seen : List Nat} (hseen : ∀ s ∈ seen, s < h.size) {r : Nat}
    (hr : r < h.size) :
    (h.descriptor r).id ∈ seen.map (fun s => (h.descriptor s).id) ↔ r ∈ seen := by
  rw [List.mem_map]
  constructor
  · rintro ⟨s, hs, heq⟩
    exact hids s r (hseen s hs) hr heq ▸ hs
  · intro hmem
    exact ⟨r, hmem, rfl⟩

theorem checkInterfaces_eq (name : String) {seen listed : List Nat}
    (hseen : ∀ s ∈ seen, s < h.size) (hlisted : ∀ i ∈ listed, i < h.size) :
    h.checkInterfaces name (seen.map fun s => (h.descriptor s).id) listed =
      h.checkInterfacesByRef name seen listed := by
  induction listed generalizing seen with
  | nil => rfl
  | cons i rest ih =>
    rw [List.forall_mem_cons] at hlisted
    have hnext := ih (List.forall_mem_cons.2 ⟨hlisted.1, hseen⟩) hlisted.2
    simp only [checkInterfaces, checkInterfacesByRef, id_mem_map_iff hids hseen hlisted.1]
    rw [← hnext, List.map_cons]

theorem distinctBy_id_eq {seen xs : List Nat} (hseen : ∀ s ∈ seen, s < h.size)
    (hxs : ∀ x ∈ xs, x < h.size) :
    distinctBy (fun s => (h.descriptor s).id) (seen.map fun s => (h.descriptor s).id) xs =
      distinctBy (fun s => s) seen xs := by
  induction xs generalizing seen with
  | nil => rfl
  | cons x xs ih =>
    rw [List.forall_mem_cons] at hxs
    have hnext := ih (List.forall_mem_cons.2 ⟨hxs.1, hseen⟩) hxs.2
    simp only [distinctBy, id_mem_map_iff hids hseen hxs.1]
    rw [ih hseen hxs.2, ← hnext, List.map_cons]

theorem uniteInterfaces_eq {inherited listed : List Nat} (hinherited : ∀ i ∈ inherited, i < h.size)
    (hlisted : ∀ i ∈ listed, i < h.size) :
    h.uniteInterfaces inherited listed = distinctBy (fun i => i) []
      (inherited ++ listed.flatMap fun i => (h.descriptor i).allInterfaces ++ [i]) := by
  have hnone : ∀ s ∈ ([] : List Nat), s < h.size := fun s hs => absurd hs List.not_mem_nil
  exact distinctBy_id_eq hids hnone (lt_of_mem_parts hinherited hlisted)

theorem candidates_eq {r : Nat} (hr : r < h.size) : h.candidates r =
    { primaries :=
        distinctBy (fun s => s) (h.descriptor r).allInterfaces (h.overflowSupers r)
      secondaries := (h.descriptor r).allInterfaces } := by
  have hsupers : ∀ s ∈ h.overflowSupers r, s < h.size := by
    intro s hs
    have hmem : s ∈ h.supers r := (List.takeWhile_sublist _).mem hs
    exact Nat.lt_trans (mem_supers_iff.1 hmem).lt hr
  have hinterfaces : ∀ i ∈ (h.descriptor r).allInterfaces, i < h.size :=
    fun i hi => Nat.lt_trans (lt_of_mem_allInterfaces hi) hr
  rw [← distinctBy_id_eq hids hinterfaces hsupers]
  rfl

end

/-! ### Chains of superclasses -/

theorem chain_eq_take (h : Hierarchy cfg) (steps r : Nat) :
    h.chain steps r = (h.supers r).take steps := by
  induction steps generalizing r with
  | zero => rfl
  | succ steps ih =>
    rw [supers_eq, chain]
    cases (h.descriptor r).parent with
    | none => rfl
    | some p => simp only [ih, List.take_succ_cons]

/-- Up to the depth, each further step finds one more superclass. -/
theorem length_chain (hdecl : h.Declared) {r : Nat} (hr : r < h.size) (steps : Nat) :
    (h.chain steps r).length = min steps (h.descriptor r).depth := by
  rw [chain_eq_take, List.length_take, length_supers hdecl hr]

end Hierarchy

namespace Registry

variable {cfg : Config}

/-! ### What classes carry -/

/-- The identity and the hash code of every class are among the things handed out. -/
def Carries (issues : List Issue) (reg : Registry cfg) : Prop :=
  ∀ r < reg.size, .identity (reg.hierarchy.descriptor r).id ∈ issues ∧
    .code (reg.hierarchy.descriptor r).code ∈ issues

section

variable {issues now : List Issue} {reg next : Registry cfg} {alloc : Allocator}

theorem Carries.append (hreg : Carries issues reg) (now : List Issue) :
    Carries (issues ++ now) reg := by
  intro r hr
  obtain ⟨hid, hcode⟩ := hreg r hr
  exact ⟨List.mem_append_left now hid, List.mem_append_left now hcode⟩

theorem Carries.of_hierarchy_eq (hreg : Carries issues reg)
    (hsame : next.hierarchy = reg.hierarchy) : Carries issues next := by
  unfold Carries size
  rw [hsame]
  exact hreg

theorem Carries.push (hreg : Carries issues reg) {fresh : reg.hierarchy.Fresh}
    (hid : .identity fresh.val.id ∈ now) (hcode : .code fresh.val.code ∈ now) :
    Carries (issues ++ now) (reg.push fresh) := by
  intro r hr
  rw [size_push] at hr
  by_cases hlast : r = reg.size
  · have hself : (reg.push fresh).hierarchy.descriptor r = fresh.val :=
      hlast ▸ Hierarchy.descriptor_push_self reg.hierarchy fresh
    rw [hself]
    exact ⟨List.mem_append_right issues hid, List.mem_append_right issues hcode⟩
  · have hbefore : r < reg.size := by omega
    have hold : (reg.push fresh).hierarchy.descriptor r = reg.hierarchy.descriptor r :=
      Hierarchy.descriptor_push_of_lt reg.hierarchy fresh hbefore
    rw [hold]
    exact hreg.append now r hbefore

theorem Carries.publish (hreg : Carries issues reg) {σ : Type} [SeedSource σ] (r : Nat)
    (source : σ) : Carries issues ((reg.publish r source).after reg) := by
  rcases (reg.publish r source).after_cases reg with hsame | ⟨next, houtcome, hnext⟩
  · rwa [hsame]
  · rw [hnext]
    exact hreg.of_hierarchy_eq (hierarchy_of_publish houtcome)

theorem draftIssues_of_ok {d : Declaration reg.size} {fresh : reg.hierarchy.Fresh}
    (hdraft : (reg.hierarchy.draft d alloc).outcome = .ok fresh) :
    reg.draftIssues d alloc = [.identity fresh.val.id, .code fresh.val.code] := by
  unfold draftIssues
  rw [hdraft]

theorem Carries.declare (hreg : Carries issues reg) (d : Declaration reg.size)
    (alloc : Allocator) :
    Carries (issues ++ reg.draftIssues d alloc) ((reg.declare d alloc).after reg) := by
  rcases reg.after_declare_cases d alloc with hsame | ⟨fresh, hdraft, hpush⟩
  · rw [hsame]
    exact hreg.append _
  · rw [hpush, draftIssues_of_ok hdraft]
    exact hreg.push (by simp) (by simp)

theorem Carries.create (hreg : Carries issues reg) (d : Declaration reg.size)
    (alloc : Allocator) :
    Carries (issues ++ reg.createIssues d alloc) ((reg.create d alloc).after reg) := by
  rcases (reg.create d alloc).after_cases reg with hsame | ⟨next, houtcome, hnext⟩
  · rw [hsame]
    exact hreg.append _
  · obtain ⟨fresh, hdraft, -, hpublish⟩ := (reg.create_cases d alloc).2 next houtcome
    rw [hnext, createIssues, draftIssues_of_ok hdraft]
    exact (hreg.push (by simp) (by simp)).of_hierarchy_eq (hierarchy_of_publish hpublish)

end

theorem carries_of_ledger {s t : Registry cfg × Allocator} {issues : List Issue}
    (ledger : Ledger s issues t) (hs : Carries [] s.1) : Carries issues t.1 := by
  obtain ⟨attempts, trace⟩ := ledger
  induction trace with
  | start => exact hs
  | next _ hstep ih =>
    cases hstep with
    | declare reg alloc d => exact ih.declare d alloc
    | create reg alloc d => exact ih.create d alloc
    | publish reg alloc r => exact (ih.append _).publish r alloc
    | publishWith reg alloc r source => exact (ih.append _).publish r source
    | ask => exact ih.append _
    | verify => exact ih.append _
    | drawSeed reg alloc => exact ih.append _
    | drawCode reg alloc => exact ih.append _
    | drawId reg alloc next id hid => exact ih.append _

/-! ### Registries in use -/

/-- Whatever is declared later has the greater identity, and supertypes are declared first. -/
theorem Sound.id_lt_of_reaches {s : Registry cfg × Allocator} (hs : Sound s) {r q : Nat}
    (hr : r < s.1.size) (hreaches : s.1.hierarchy.Reaches r q) (hne : q ≠ r) :
    (s.1.hierarchy.descriptor q).id.number < (s.1.hierarchy.descriptor r).id.number :=
  hs.ascending (Nat.lt_of_le_of_ne hreaches.le hne) hr

/-- What one allocator has handed out: its identities count from one, and its words, as seeds
    or folded to hash codes, are those of the counter.  Neither count depends on the other. -/
structure CountsUp (salt : UInt64) (issues : List Issue) (alloc : Allocator) : Prop where
  identities : ∀ (k : Nat) (id : ClassId), (issues.filterMap Issue.identity?)[k]? = some id →
    id = ⟨k + 1⟩
  next_identity : (issues.filterMap Issue.identity?).length + 1 < UInt64.size →
    ∃ next, alloc.nextId = .ok (⟨(issues.filterMap Issue.identity?).length + 1⟩, next)
  words : ∀ (j : Nat) (issue : Issue), (issues.filter Issue.isMixed)[j]? = some issue →
    let v := mix (UInt64.ofNat (j + 1)) salt
    issue = .seed v ∨ issue = .code (v ^^^ (v >>> 32)).toUInt32
  next_word : alloc.nextSeed.1 =
    mix (UInt64.ofNat ((issues.filter Issue.isMixed).length + 1)) salt

/-- Identities that were handed out stand for the classes: repeated classes can be looked for
    by identity wherever that is done, and supertypes have smaller identities. -/
structure StandForClasses (issues : List Issue) (reg : Registry cfg) : Prop where
  carried : Carries issues reg
  distinct : ∀ r q, r < reg.size → q < reg.size → r ≠ q →
    (reg.hierarchy.descriptor r).id ≠ (reg.hierarchy.descriptor q).id
  checked : ∀ (name : String) (listed : List (Fin reg.size)),
    reg.hierarchy.checkInterfaces name [] (listed.map Fin.val) =
      reg.hierarchy.checkInterfacesByRef name [] (listed.map Fin.val)
  united : ∀ inherited listed : List (Fin reg.size),
    reg.hierarchy.uniteInterfaces (inherited.map Fin.val) (listed.map Fin.val) =
      distinctBy (fun i => i) [] (inherited.map Fin.val ++ (listed.map Fin.val).flatMap
        fun i => (reg.hierarchy.descriptor i).allInterfaces ++ [i])
  collected : ∀ r < reg.size, reg.hierarchy.candidates r =
    { primaries := distinctBy (fun s => s) (reg.hierarchy.descriptor r).allInterfaces
        (reg.hierarchy.overflowSupers r)
      secondaries := (reg.hierarchy.descriptor r).allInterfaces }
  ascending : ∀ r < reg.size, ∀ q, q ∈ reg.hierarchy.supers r ∨
      q ∈ (reg.hierarchy.descriptor r).allInterfaces ∨ reg.hierarchy.Reaches r q ∧ q ≠ r →
    (reg.hierarchy.descriptor q).id.number < (reg.hierarchy.descriptor r).id.number
  acyclic : ∀ r q, reg.hierarchy.Reaches r q → reg.hierarchy.Reaches q r → r = q
  length_supers : ∀ r < reg.size,
    (reg.hierarchy.supers r).length = (reg.hierarchy.descriptor r).depth
  length_chain : ∀ r < reg.size, ∀ steps, (reg.hierarchy.chain steps r).length =
    min steps (reg.hierarchy.descriptor r).depth

theorem countsUp_of_ledger {salt : UInt64} {issues : List Issue} {reg : Registry cfg}
    {alloc : Allocator} (ledger : Ledger (.empty, { salt }) issues (reg, alloc)) :
    CountsUp salt issues alloc := by
  have hissued := issued_of_ledger ledger
  constructor
  · intro k id hk
    rw [hissued.identities k id hk, Nat.zero_add]
  · intro hfew
    have hserial : alloc.serial = (issues.filterMap Issue.identity?).length :=
      hissued.serial.trans (Nat.zero_add _)
    rw [← hserial] at hfew ⊢
    exact ⟨_, Allocator.nextId_eq_ok hfew⟩
  · intro j issue hj
    have hword := hissued.mixed j issue hj
    rwa [Allocator.wordAt, UInt64.zero_add] at hword
  · have hcounter : alloc.counter = UInt64.ofNat (issues.filter Issue.isMixed).length :=
      hissued.counter.trans (UInt64.zero_add _)
    have hsalt : alloc.salt = salt := hissued.salt
    rw [UInt64.ofNat_add, ← hcounter, ← hsalt]
    rfl

/-- In whatever order declarations, tables and further draws take from one allocator, its
    identities count from one and its words are those of the counter.  So identities tell
    classes apart, wherever repeated ones are looked for, and they ascend from supertypes to
    subtypes. -/
theorem identities_of_ledger {salt : UInt64} {issues : List Issue} {reg : Registry cfg}
    {alloc : Allocator} (ledger : Ledger (.empty, { salt }) issues (reg, alloc)) :
    CountsUp salt issues alloc ∧ StandForClasses issues reg := by
  have hs : Sound (reg, alloc) := sound_of_run ledger.run (sound_empty _)
  have hdecl : reg.hierarchy.Declared := hs.declared
  have hids : reg.hierarchy.Identified := hs.identified
  refine ⟨countsUp_of_ledger ledger, ?_⟩
  constructor
  · exact carries_of_ledger ledger fun r hr => absurd hr (Nat.not_lt_zero r)
  · intro r q hr hq hne heq
    exact hne (hids r q hr hq heq)
  · intro name listed
    exact Hierarchy.checkInterfaces_eq hids name (fun s hs => absurd hs List.not_mem_nil)
      (Hierarchy.lt_of_mem_vals listed)
  · intro inherited listed
    exact Hierarchy.uniteInterfaces_eq hids (Hierarchy.lt_of_mem_vals inherited)
      (Hierarchy.lt_of_mem_vals listed)
  · intro r hr
    exact Hierarchy.candidates_eq hids hr
  · rintro r hr q (hsuper | hinterface | ⟨hreaches, hne⟩)
    · exact hs.ascending (Hierarchy.mem_supers_iff.1 hsuper).lt hr
    · exact hs.ascending (Hierarchy.lt_of_mem_allInterfaces hinterface) hr
    · exact hs.id_lt_of_reaches hr hreaches hne
  · intro r q hforth hback
    exact hforth.antisymm hback
  · intro r hr
    exact Hierarchy.length_supers hdecl hr
  · intro r hr
    exact Hierarchy.length_chain hdecl hr

/-- An interface, a class whose table is built at once, and one more seed. -/
def gadget : Registry cramped × Allocator :=
  let created := (plugins 1).1.create ⟨"Gadget", .ofClass none [⟨0, by decide⟩]⟩ (plugins 1).2
  (created.after (plugins 1).1, created.source.nextSeed.2)

def gadgetIssues : List Issue :=
  let created := (plugins 1).1.create ⟨"Gadget", .ofClass none [⟨0, by decide⟩]⟩ (plugins 1).2
  (empty : Registry cramped).draftIssues ⟨"Plugin", .ofInterface []⟩ default ++
    (plugins 1).1.createIssues ⟨"Gadget", .ofClass none [⟨0, by decide⟩]⟩ (plugins 1).2 ++
    [.seed created.source.nextSeed.1]

theorem ledger_gadget :
    Ledger (.empty, { salt := Allocator.defaultSalt }) gadgetIssues (gadget.1, gadget.2) := by
  have hplugin : Trace (.empty, { salt := Allocator.defaultSalt }) [] _ (plugins 1) :=
    .next (.start _) (.declare .empty default ⟨"Plugin", .ofInterface []⟩)
  exact ⟨_, (hplugin.next (.create _ _ _)).next (.drawSeed _ _)⟩

/-- Two identities and four words were taken, the last word as a seed. -/
theorem identities_of_gadget :
    (∃ next, gadget.2.nextId = .ok (⟨3⟩, next)) ∧
    (gadgetIssues.filter Issue.isMixed)[3]? = some (.seed (mix 4 Allocator.defaultSalt)) ∧
    (gadget.1.hierarchy.descriptor 0).id ≠ (gadget.1.hierarchy.descriptor 1).id ∧
    (gadget.1.hierarchy.descriptor 0).id.number < (gadget.1.hierarchy.descriptor 1).id.number := by
  obtain ⟨hcounts, hstand⟩ := identities_of_ledger ledger_gadget
  have htwo : (gadgetIssues.filterMap Issue.identity?).length = 2 := by decide +kernel
  have hfirst : 0 < gadget.1.size := by decide +kernel
  have hlast : 1 < gadget.1.size := by decide +kernel
  have himplements : 0 ∈ (gadget.1.hierarchy.descriptor 1).allInterfaces := by decide +kernel
  have hnext := hcounts.next_identity
  obtain ⟨word, hword⟩ : ∃ word, (gadgetIssues.filter Issue.isMixed)[3]? = some (.seed word) :=
    ⟨_, rfl⟩
  rw [htwo] at hnext
  refine ⟨hnext (by decide), ?_, hstand.distinct 0 1 hfirst hlast (by decide),
    hstand.ascending 1 hlast 0 (Or.inr (Or.inl himplements))⟩
  rcases hcounts.words 3 _ hword with hseed | hcode
  · rw [hword, hseed]
    rfl
  · cases hcode

end Registry

end Supertypes
