/-
  Supertypes/Logged.lean
  ======================
  **Computations that use up a source.**

  Whatever draws words, codes or identities answers with its outcome and with the source
  it leaves behind, so that nothing drawn is forgotten when the outcome is an error.
  Along the way it reports events and counts the words.
-/
import Supertypes.Event

namespace Supertypes

/-- An outcome, the source after it, and what happened on the way. -/
structure Logged (ε σ β : Type) where
  outcome : Except ε β
  source : σ
  events : List Event := []
  drawn : Nat := 0

namespace Logged

variable {ε ε' σ β γ : Type}

/-- Ends at once, with the source as it is. -/
def stop (error : ε) (source : σ) : Logged ε σ β := { outcome := .error error, source }

def map (f : β → γ) (l : Logged ε σ β) : Logged ε σ γ := { l with outcome := l.outcome.map f }

/-- Goes on with a computation that draws from where this one stopped. -/
def bind (l : Logged ε σ β) (step : β → σ → Logged ε σ γ) : Logged ε σ γ :=
  match l.outcome with
  | .error error => { l with outcome := .error error }
  | .ok value =>
    let rest := step value l.source
    { rest with events := l.events ++ rest.events, drawn := l.drawn + rest.drawn }

/-- Goes on with a step that draws nothing, unless the computation came to nothing. -/
def andThen (l : Logged ε σ β) (step : β → Except ε γ) (events : β → List Event) :
    Logged ε σ γ :=
  match l.outcome with
  | .error error => { l with outcome := .error error }
  | .ok value => { l with outcome := step value, events := l.events ++ events value }

/-- The value after the computation: the outcome, or the old value if nothing came of it. -/
def after (l : Logged ε σ β) (old : β) : β :=
  match l.outcome with
  | .error _ => old
  | .ok value => value

def mapError (f : ε → ε') (l : Logged ε σ β) : Logged ε' σ β :=
  { l with outcome := l.outcome.mapError f }

/-! ### Computations in sequence -/

theorem bind_of_ok {l : Logged ε σ β} {step : β → σ → Logged ε σ γ} {b : β}
    (h : l.outcome = .ok b) :
    l.bind step =
      { step b l.source with
        events := l.events ++ (step b l.source).events
        drawn := l.drawn + (step b l.source).drawn } := by
  unfold bind
  rw [h]

theorem bind_of_error {l : Logged ε σ β} {step : β → σ → Logged ε σ γ} {e : ε}
    (h : l.outcome = .error e) : l.bind step = { l with outcome := .error e } := by
  unfold bind
  rw [h]

theorem after_of_ok {l : Logged ε σ β} {old b : β} (h : l.outcome = .ok b) : l.after old = b := by
  unfold after
  rw [h]

theorem after_of_error {l : Logged ε σ β} {old : β} {e : ε} (h : l.outcome = .error e) :
    l.after old = old := by
  unfold after
  rw [h]

theorem after_cases (l : Logged ε σ β) (old : β) :
    l.after old = old ∨ ∃ b, l.outcome = .ok b ∧ l.after old = b := by
  cases h : l.outcome with
  | error e => exact Or.inl (after_of_error h)
  | ok b => exact Or.inr ⟨b, rfl, after_of_ok h⟩

/-! ### Steps that draw nothing -/

@[simp] theorem source_map (f : β → γ) (l : Logged ε σ β) : (l.map f).source = l.source := rfl

@[simp] theorem drawn_map (f : β → γ) (l : Logged ε σ β) : (l.map f).drawn = l.drawn := rfl

theorem outcome_map_eq_ok_iff {f : β → γ} {l : Logged ε σ β} {c : γ} :
    (l.map f).outcome = .ok c ↔ ∃ b, l.outcome = .ok b ∧ f b = c := by
  unfold map
  cases l.outcome with
  | error e => simp [Except.map]
  | ok b => simp [Except.map]

theorem outcome_map_eq_error_iff {f : β → γ} {l : Logged ε σ β} {e : ε} :
    (l.map f).outcome = .error e ↔ l.outcome = .error e := by
  unfold map
  cases l.outcome with
  | error e => simp [Except.map]
  | ok b => simp [Except.map]

theorem outcome_mapError_eq_ok_iff {f : ε → ε'} {l : Logged ε σ β} {b : β} :
    (l.mapError f).outcome = .ok b ↔ l.outcome = .ok b := by
  unfold mapError
  cases l.outcome with
  | error e =>
    change Except.error (f e) = .ok b ↔ _
    simp
  | ok value =>
    change Except.ok value = .ok b ↔ _
    simp

theorem outcome_mapError_eq_error_iff {f : ε → ε'} {l : Logged ε σ β} {e' : ε'} :
    (l.mapError f).outcome = .error e' ↔ ∃ e, l.outcome = .error e ∧ f e = e' := by
  unfold mapError
  cases l.outcome with
  | error e =>
    change Except.error (f e) = .error e' ↔ _
    simp
  | ok value =>
    change Except.ok value = .error e' ↔ _
    simp

@[simp] theorem source_andThen (l : Logged ε σ β) (step : β → Except ε γ)
    (events : β → List Event) : (l.andThen step events).source = l.source := by
  unfold andThen
  split <;> rfl

@[simp] theorem drawn_andThen (l : Logged ε σ β) (step : β → Except ε γ)
    (events : β → List Event) : (l.andThen step events).drawn = l.drawn := by
  unfold andThen
  split <;> rfl

theorem outcome_andThen (l : Logged ε σ β) (step : β → Except ε γ)
    (events : β → List Event) : (l.andThen step events).outcome = l.outcome.bind step := by
  unfold andThen
  split <;> rename_i h <;> rw [h] <;> rfl

theorem outcome_andThen_eq_ok_iff {l : Logged ε σ β} {step : β → Except ε γ}
    {events : β → List Event} {c : γ} :
    (l.andThen step events).outcome = .ok c ↔ ∃ b, l.outcome = .ok b ∧ step b = .ok c := by
  rw [outcome_andThen]
  cases l.outcome with
  | error e => simp [Except.bind]
  | ok b => simp [Except.bind]

end Logged

end Supertypes
