/-
  Supertypes/Registry/Issue.lean
  ==============================
  **What an allocator hands out to a call.**

  A declaration takes an identity and a hash code, also if the table that it asks for
  cannot be built; the two searches for a table take one seed for each attempt.  What a
  call took is read off its own outcome and off the attempts that its searches recorded,
  not off the allocator.
-/
import Supertypes.Registry.Basic

namespace Supertypes

/-- Something that an allocator handed out. -/
inductive Issue where
  | identity (id : ClassId)
  | seed (word : UInt64)
  | code (code : UInt32)
deriving DecidableEq, Repr

namespace Issue

def identity? : Issue → Option ClassId
  | identity id => some id
  | seed _ | code _ => none

/-- Whether it was a seed or a hash code. -/
def isMixed : Issue → Bool
  | identity _ => false
  | seed _ | code _ => true

end Issue

/-! ### The words of searches -/

def Findings.words {cap : Capacity} {α σ : Type} (f : Findings cap α σ) : List UInt64 :=
  f.final.draws.toList.map Draw.word

/-- The words drawn when groups of elements are arranged: those of the first search, then
    those of the second, if there is one. -/
def Layout.words {α σ : Type} [Coded α] [DecidableEq α] [SeedSource σ] (cfg : Config)
    (groups : List (List α)) (source : σ) : List UInt64 :=
  let first := search cfg groups source
  match first.packing with
  | .error _ => first.words
  | .ok primary =>
    if Layout.needsSecond cfg primary then
      first.words ++ (search cfg [primary.tail.toList] first.source).words
    else first.words

namespace Registry

variable {cfg : Config}

/-- The words drawn to publish the table of a class; none if it is published already or
    the configuration is refused. -/
def publishWords {σ : Type} [SeedSource σ] (reg : Registry cfg) (r : Nat) (source : σ) :
    List UInt64 :=
  if (reg.cell r).isSet then []
  else
    match cfg.check with
    | .error _ => []
    | .ok () => Layout.words cfg (reg.candidateGroups r) source

/-! ### Calls -/

/-- The identity and the hash code of a new descriptor. -/
def draftIssues (reg : Registry cfg) (d : Declaration reg.size) (alloc : Allocator) :
    List Issue :=
  match (reg.hierarchy.draft d alloc).outcome with
  | .error _ => []
  | .ok fresh => [.identity fresh.val.id, .code fresh.val.code]

def publishIssues (reg : Registry cfg) (r : Nat) (alloc : Allocator) : List Issue :=
  (reg.publishWords r alloc).map Issue.seed

def createIssues (reg : Registry cfg) (d : Declaration reg.size) (alloc : Allocator) :
    List Issue :=
  reg.draftIssues d alloc ++
    match (reg.declare d alloc).outcome with
    | .error _ => []
    | .ok extended => extended.publishIssues reg.size (reg.declare d alloc).source

end Registry

end Supertypes
