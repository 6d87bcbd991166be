/-
  Supertypes/SeedSource.lean
  ==========================
  **Sources of pseudo-random words.**

  The table search draws one word per attempt.  A source is a value that yields a
  word and the source for the next one, so that a search can be replayed from its
  starting state.
-/

namespace Supertypes

/-- A state from which words can be drawn for ever. -/
class SeedSource (σ : Type) where
  /-- The next word, and the source after it. -/
  draw : σ → UInt64 × σ

/-- Two kinds of sources side by side: each goes on as the kind it is. -/
instance {σ τ : Type} [SeedSource σ] [SeedSource τ] : SeedSource (σ ⊕ τ) where
  draw
    | .inl source => let (word, source) := SeedSource.draw source; (word, .inl source)
    | .inr source => let (word, source) := SeedSource.draw source; (word, .inr source)

/-! ### Recorded words -/

/-- A written-down sequence of words that starts over at its end. -/
structure Tape where
  first : UInt64
  others : List UInt64 := []
  /-- The words left before the tape starts over. -/
  pending : List UInt64 := first :: others
deriving DecidableEq, Repr

namespace Tape

/-- Reads the next word, from the beginning if the tape has run out. -/
def draw (tape : Tape) : UInt64 × Tape :=
  match tape.pending with
  | word :: rest => (word, { tape with pending := rest })
  | [] => (tape.first, { tape with pending := tape.others })

instance : SeedSource Tape := ⟨draw⟩

/-- The tape of a list, unless it is empty. -/
def ofList : List UInt64 → Option Tape
  | [] => none
  | first :: others => some { first, others }

end Tape

end Supertypes
