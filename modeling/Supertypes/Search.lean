/-
  Supertypes/Search.lean
  ======================
  **Searching for a good packing.**

  A search draws seeds from a source and keeps the best packing that they give.  It
  tries the sizes of the ladder one after another, a fixed number of seeds for each,
  within a budget for all of them together, and stops at once when nothing is left in
  the tail.  A table whose slots are all occupied cannot get better at its size, so
  the search leaves that size early.

  Time plays no part: the result is determined by the elements, their order and the
  words of the source.  The state of a search records every draw and every packing
  that was adopted.

  The way in which one seed is tried is a parameter.  `search` gives up on a seed as
  soon as its tail is longer than the best one; `exhaustiveSearch` packs every seed to
  its end and is the yardstick for it.
-/
import Supertypes.Ladder
import Supertypes.Logged
import Supertypes.Packing
import Supertypes.SeedSource

namespace Supertypes

/-- One word drawn by a search, with the size it was drawn for. -/
structure Draw where
  word : UInt64
  size : Nat
deriving DecidableEq, Repr

/-- A packing that became the best, with the number of draws up to it. -/
structure Adoption (cap : Capacity) (α : Type) where
  attempt : Nat
  packing : Packing cap α

structure Search (cap : Capacity) (α σ : Type) where
  best : Packing cap α
  source : σ
  draws : Array Draw := #[]
  adoptions : Array (Adoption cap α) := #[]

/-- How a search goes on after a draw. -/
inductive Verdict where
  /-- With another seed of the same size. -/
  | again
  /-- With the next size. -/
  | larger
  /-- Not at all. -/
  | done
  /-- Not at all, because something broke. -/
  | broken (fault : Fault)
deriving DecidableEq, Repr

/-- A way to try a seed: given the length of the best tail, it packs the elements or
    gives up. -/
abbrev Trial (cap : Capacity) (α : Type) : Type :=
  Seed cap → Nat → Except Fault (Option (Packing cap α))

namespace Search

variable {cap : Capacity} {α σ : Type}

def adopt (s : Search cap α σ) (packing : Packing cap α) : Search cap α σ :=
  { s with best := packing, adoptions := s.adoptions.push ⟨s.draws.size, packing⟩ }

/-- Keeps the better of the best packing and a new one; the older wins a tie. -/
def consider (s : Search cap α σ) (packing : Packing cap α) : Search cap α σ :=
  if packing.score < s.best.score then s.adopt packing else s

variable [SeedSource σ]

def draw (s : Search cap α σ) (size : Nat) : UInt64 × Search cap α σ :=
  let (word, source) := SeedSource.draw s.source
  (word, { s with source, draws := s.draws.push ⟨word, size⟩ })

/-- Draws one seed of a size and tries it. -/
def attempt (trial : Trial cap α) (size : Nat) (s : Search cap α σ) :
    Verdict × Search cap α σ :=
  let (word, s) := s.draw size
  match Seed.compose word size with
  | .error fault => (.broken fault, s)
  | .ok seed =>
    match trial seed s.best.tail.size with
    | .error fault => (.broken fault, s)
    | .ok none => (.again, s)
    | .ok (some packing) =>
      let s := s.consider packing
      if s.best.isPerfect then (.done, s)
      else if packing.isFull then (.larger, s)
      else (.again, s)

/-- Tries up to the given number of seeds of one size, within the total budget. -/
def trySize (trial : Trial cap α) (budget size : Nat) :
    Nat → Search cap α σ → Verdict × Search cap α σ
  | 0, s => (.larger, s)
  | attempts + 1, s =>
    if s.draws.size = budget then (.done, s)
    else
      match s.attempt trial size with
      | (.again, s) => trySize trial budget size attempts s
      | stopped => stopped

def climb (trial : Trial cap α) (budget attempts : Nat) :
    List Nat → Search cap α σ → Verdict × Search cap α σ
  | [], s => (.done, s)
  | size :: sizes, s =>
    match trySize trial budget size attempts s with
    | (.larger, s) => climb trial budget attempts sizes s
    | stopped => stopped

end Search

/-! ### Whole searches -/

/-- What a search comes to. -/
structure Findings (cap : Capacity) (α σ : Type) where
  count : Nat
  /-- Whether any size was to be tried. -/
  tried : Bool
  /-- What broke the search off, if anything. -/
  fault : Option Fault
  final : Search cap α σ

namespace Findings

variable {cap : Capacity} {α σ : Type}

/-- The best packing, unless the search broke off. -/
def packing (f : Findings cap α σ) : Except Fault (Packing cap α) :=
  match f.fault with
  | some fault => .error fault
  | none => .ok f.final.best

def source (f : Findings cap α σ) : σ := f.final.source

def drawn (f : Findings cap α σ) : Nat := f.final.draws.size

/-- The adoptions, and the end of the search if there was anything to try. -/
def events (f : Findings cap α σ) : List Event :=
  let adopted := f.final.adoptions.toList.map fun a =>
    Event.improved a.attempt a.packing.size a.packing.seed.bits a.packing.score
  let ended :=
    if f.tried ∧ f.fault = none then
      [Event.searched f.count f.drawn f.final.best.size f.final.best.score]
    else []
  adopted ++ ended

/-- The best packing, with what it took to find it. -/
def logged (f : Findings cap α σ) : Logged Fault σ (Packing cap α) where
  outcome := f.packing
  source := f.source
  events := f.events
  drawn := f.drawn

end Findings

section

variable {α σ : Type} [Coded α] [DecidableEq α] [SeedSource σ]

/-- Searches with a given way to try seeds, starting from all elements in the tail. -/
def searchWith (cfg : Config) (trial : Trial cfg.capacity α) (groups : List (List α))
    (source : σ) : Findings cfg.capacity α σ :=
  let elements := groups.flatten
  let start : Search cfg.capacity α σ := { best := .plain elements, source }
  match cfg.ladder elements.length with
  | .error fault => { count := elements.length, tried := false, fault, final := start }
  | .ok sizes =>
    if sizes = [0] then { count := elements.length, tried := false, fault := none, final := start }
    else
      let (verdict, final) := start.climb trial cfg.maxTotalAttempts cfg.maxAttempts sizes
      let fault :=
        match verdict with
        | .broken fault => some fault
        | _ => none
      { count := elements.length, tried := true, fault, final }

/-- Tries a seed, giving up once its tail is longer than the best. -/
def boundedTrial (cfg : Config) (groups : List (List α)) : Trial cfg.capacity α :=
  fun seed limit => packWithin cfg.sizing seed groups limit

def fullTrial (cfg : Config) (groups : List (List α)) : Trial cfg.capacity α :=
  fun seed _ => (pack cfg.sizing seed groups).map some

/-- Searches for a good packing of groups of elements, the earlier groups first. -/
def search (cfg : Config) (groups : List (List α)) (source : σ) :
    Findings cfg.capacity α σ :=
  searchWith cfg (boundedTrial cfg groups) groups source

/-- The same search without giving up on any seed. -/
def exhaustiveSearch (cfg : Config) (groups : List (List α)) (source : σ) :
    Findings cfg.capacity α σ :=
  searchWith cfg (fullTrial cfg groups) groups source

end

end Supertypes
