/-
  Supertypes/Registry/Attempt.lean
  ================================
  **Attempts to publish a table.**

  An attempt has the registry it was made in, the class it was made for, and what a build
  of the table comes to there, so that it can be said later which attempt a table is from.
-/
import Supertypes.Registry.Basic

namespace Supertypes.Registry

variable {cfg : Config}

/-- A call to publish the table of a class, with the table that it would publish. -/
structure Attempt (cfg : Config) where
  registry : Registry cfg
  ref : Nat
  built : Except Fault (Table cfg Member)

def attempt {σ : Type} [SeedSource σ] (reg : Registry cfg) (r : Nat) (source : σ) : Attempt cfg where
  registry := reg
  ref := r
  built := (reg.build r source).outcome

/-- A declaration with a table attempts to publish it, unless it is rejected itself. -/
def createAttempts (reg : Registry cfg) (d : Declaration reg.size) (alloc : Allocator) :
    List (Attempt cfg) :=
  match (reg.declare d alloc).outcome with
  | .error _ => []
  | .ok extended => [extended.attempt reg.size (reg.declare d alloc).source]

/-- The table of the first attempt for a class that comes to one. -/
def firstBuilt (r : Nat) (attempts : List (Attempt cfg)) : Option (Table cfg Member) :=
  attempts.findSome? fun a => if a.ref = r then a.built.toOption else none

end Supertypes.Registry
