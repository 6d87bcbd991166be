/-
  Supertypes/Registry/Run.lean
  ============================
  **What can happen to a registry.**

  A registry changes only by declarations and by the publication of tables, and every
  class is declared with one allocator.  A step is one call, also one that fails or that
  only asks; the allocator may be drawn from in between, and tables may be built with
  seeds from elsewhere.  A step is labelled with the attempts to publish a table that were
  made in it and with what it took from the allocator.

  A trace is a sequence of steps with all labels in their order.  Runs, histories and
  ledgers are traces of which some labels are of no interest.  Whatever holds of the empty
  registry and is kept by every step holds of every registry in use (`Run.invariant`).
-/
import Supertypes.Registry.Attempt
import Supertypes.Registry.Issue
import Supertypes.Registry.Query
import Supertypes.Registry.Verify

namespace Supertypes.Registry

variable {cfg : Config}

/-- One call on a registry and its allocator, with the attempts that are made in it and what
    it takes from the allocator. -/
inductive Step : Registry cfg × Allocator → List (Attempt cfg) → List Issue →
    Registry cfg × Allocator → Prop where
  | declare (reg : Registry cfg) (alloc : Allocator) (d : Declaration reg.size) :
      Step (reg, alloc) [] (reg.draftIssues d alloc)
        ((reg.declare d alloc).after reg, (reg.declare d alloc).source)
  | create (reg : Registry cfg) (alloc : Allocator) (d : Declaration reg.size) :
      Step (reg, alloc) (reg.createAttempts d alloc) (reg.createIssues d alloc)
        ((reg.create d alloc).after reg, (reg.create d alloc).source)
  | publish (reg : Registry cfg) (alloc : Allocator) (r : Fin reg.size) :
      Step (reg, alloc) [reg.attempt r alloc] (reg.publishIssues r alloc)
        ((reg.publish r alloc).after reg, (reg.publish r alloc).source)
  | publishWith {σ : Type} [SeedSource σ] (reg : Registry cfg) (alloc : Allocator)
      (r : Fin reg.size) (source : σ) :
      Step (reg, alloc) [reg.attempt r source] [] ((reg.publish r source).after reg, alloc)
  | ask (reg : Registry cfg) (alloc : Allocator) (question : Question) (a b : Nat)
      (answer : Except Fault (Option Bool)) :
      reg.ask question a b = answer → Step (reg, alloc) [] [] (reg, alloc)
  | verify (reg : Registry cfg) (alloc : Allocator) (r : Nat) (report : Except Fault Report) :
      reg.verify r = report → Step (reg, alloc) [] [] (reg, alloc)
  | drawSeed (reg : Registry cfg) (alloc : Allocator) :
      Step (reg, alloc) [] [.seed alloc.nextSeed.1] (reg, alloc.nextSeed.2)
  | drawCode (reg : Registry cfg) (alloc : Allocator) :
      Step (reg, alloc) [] [.code alloc.nextCode.1] (reg, alloc.nextCode.2)
  | drawId (reg : Registry cfg) (alloc next : Allocator) (id : ClassId) :
      alloc.nextId = .ok (id, next) → Step (reg, alloc) [] [.identity id] (reg, next)

/-- Calls one after another, with all labels in their order. -/
inductive Trace : Registry cfg × Allocator → List (Attempt cfg) → List Issue →
    Registry cfg × Allocator → Prop where
  | start (s : Registry cfg × Allocator) : Trace s [] [] s
  | next {s t u : Registry cfg × Allocator} {attempts now : List (Attempt cfg)}
      {issues taken : List Issue} :
      Trace s attempts issues t → Step t now taken u → Trace s (attempts ++ now) (issues ++ taken) u

def Run (s t : Registry cfg × Allocator) : Prop :=
  ∃ attempts issues, Trace s attempts issues t

/-- A run with the attempts that were made in it. -/
def History (s : Registry cfg × Allocator) (attempts : List (Attempt cfg))
    (t : Registry cfg × Allocator) : Prop :=
  ∃ issues, Trace s attempts issues t

/-- A run with everything that was handed out in it. -/
def Ledger (s : Registry cfg × Allocator) (issues : List Issue)
    (t : Registry cfg × Allocator) : Prop :=
  ∃ attempts, Trace s attempts issues t

/-- The registries in use: everything was declared with one allocator. -/
def InUse (reg : Registry cfg) (alloc : Allocator) : Prop :=
  ∃ salt, Run (.empty, { salt }) (reg, alloc)

/-! ### Runs -/

section

variable {s t u : Registry cfg × Allocator} {attempts : List (Attempt cfg)} {issues : List Issue}

theorem History.run (history : History s attempts t) : Run s t := by
  obtain ⟨issues, trace⟩ := history
  exact ⟨attempts, issues, trace⟩

theorem Ledger.run (ledger : Ledger s issues t) : Run s t := by
  obtain ⟨attempts, trace⟩ := ledger
  exact ⟨attempts, issues, trace⟩

theorem Run.refl (s : Registry cfg × Allocator) : Run s s := ⟨_, _, .start s⟩

theorem Run.tail (run : Run s t) (step : Step t attempts issues u) : Run s u := by
  obtain ⟨_, _, trace⟩ := run
  exact ⟨_, _, .next trace step⟩

theorem Run.invariant {P : Registry cfg × Allocator → Prop}
    (kept : ∀ {s t attempts issues}, P s → Step s attempts issues t → P t) (run : Run s t)
    (initial : P s) : P t := by
  obtain ⟨_, _, trace⟩ := run
  induction trace with
  | start => exact initial
  | next _ step ih => exact kept ih step

theorem Run.trans (first : Run s t) (second : Run t u) : Run s u :=
  second.invariant (fun run step => run.tail step) first

theorem inUse_empty : InUse (.empty : Registry cfg) default :=
  ⟨Allocator.defaultSalt, .refl _⟩

theorem InUse.run (huse : InUse s.1 s.2) (run : Run s t) : InUse t.1 t.2 := by
  obtain ⟨salt, before⟩ := huse
  exact ⟨salt, before.trans run⟩

end

end Supertypes.Registry
