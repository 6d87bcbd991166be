/-
  Supertypes/Session.lean
  =======================
  **A registry in use.**

  A session keeps a registry, the allocators that its declarations draw from, and the
  events so far.  Every step says how it ended and leaves a session behind: also after a
  failure, whose draws and events stay.
-/
import Supertypes.Registry.Basic

namespace Supertypes

/-- A registry with the allocators and events around it. -/
structure Session (cfg : Config) where
  registry : Registry cfg := .empty
  allocators : Array Allocator
  events : Array Event := #[]

namespace Session

variable {cfg : Config}

def allocator (s : Session cfg) (k : Nat) : Allocator := s.allocators.getD k default

/-- Takes over what a computation with one of the allocators left behind. -/
def absorb {ε : Type} (s : Session cfg) (k : Nat)
    (l : Logged ε Allocator (Registry cfg)) : Except ε Unit × Session cfg :=
  (l.outcome.map fun _ => (),
    { registry := l.after s.registry
      allocators := s.allocators.setIfInBounds k l.source
      events := s.events ++ l.events.toArray })

def declare (s : Session cfg) (k : Nat) (d : Declaration s.registry.size) :
    Except Failure Unit × Session cfg :=
  s.absorb k (s.registry.declare d (s.allocator k))

def create (s : Session cfg) (k : Nat) (d : Declaration s.registry.size) :
    Except Failure Unit × Session cfg :=
  s.absorb k (s.registry.create d (s.allocator k))

/-- Publishes the table of a class with seeds from one of the allocators. -/
def publish (s : Session cfg) (k r : Nat) : Except Fault Unit × Session cfg :=
  s.absorb k (s.registry.publish r (s.allocator k))

/-- Publishes the table of a class with seeds from elsewhere, and counts them. -/
def publishWith {σ : Type} [SeedSource σ] (s : Session cfg) (r : Nat) (source : σ) :
    Except Fault Nat × Session cfg :=
  let l := s.registry.publish r source
  (l.outcome.map fun _ => l.drawn,
    { s with registry := l.after s.registry, events := s.events ++ l.events.toArray })

/-- Puts a given table into the cell of a class, if it is still empty. -/
def install (s : Session cfg) (r : Nat) (table : Table cfg Member) : Bool × Session cfg :=
  match s.registry.install r table with
  | .error _ => (false, s)
  | .ok registry => (true, { s with registry })

def takeEvents (s : Session cfg) : List Event × Session cfg :=
  (s.events.toList, { s with events := #[] })

end Session

end Supertypes
