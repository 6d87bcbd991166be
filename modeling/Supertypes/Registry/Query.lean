/-
  Supertypes/Registry/Query.lean
  ==============================
  **Is one class a supertype of another?**

  A primary supertype is found by one comparison in the primary array, a secondary one
  in the lookup table.  Until a class has its table, its superclasses and interfaces are
  scanned instead; the answers are the same.  A configuration may ask for every lookup
  to be compared with a scan of the table.
-/
import Supertypes.Registry.Basic

namespace Supertypes

namespace Registry

variable {cfg : Config}

/-- Looks up a class in the published table of another. -/
def lookup (reg : Registry cfg) (table : Table cfg Member) (a b : Nat) : Except Fault Bool :=
  match table.contains (reg.member b) with
  | .error fault => .error fault
  | .ok found =>
    let scanned := table.scan (reg.member b)
    if cfg.verifyLookups ∧ found ≠ scanned then
      .error (.disagreement (reg.name a) (reg.name b) found scanned)
    else .ok found

/-- Tests whether `b` is `a` or one of its secondary supertypes. -/
def hasSecondary (reg : Registry cfg) (a b : Nat) : Except Fault Bool :=
  if a = b then .ok true
  else
    match reg.table? a with
    | some table => reg.lookup table a b
    | none => .ok (reg.hierarchy.scanSecondary a b)

/-- Tests whether `b` is `a` or one of its supertypes. -/
def isSubtype (reg : Registry cfg) (a b : Nat) : Except Fault Bool :=
  if a = b then .ok true
  else if reg.hierarchy.canBePrimary b then
    let target := reg.hierarchy.descriptor b
    .ok (reg.hierarchy.primarySuper? a target.depth == some target.id)
  else reg.hasSecondary a b

/-- The questions that can be asked about two classes. -/
inductive Question where
  | subtype
  | subclass
  /-- Is `b` a secondary supertype of `a`? -/
  | secondary
  /-- The same, answered by a scan of the declarations. -/
  | scanned
  /-- Is `b` found in the table of `a`? -/
  | stored
  /-- The same, answered by a scan of the table. -/
  | storedScanned
deriving DecidableEq, Repr

/-- Answers a question about two classes; there is no answer about a table that does not
    exist. -/
def ask (reg : Registry cfg) (question : Question) (a b : Nat) : Except Fault (Option Bool) :=
  match question with
  | .subtype => (reg.isSubtype a b).map some
  | .subclass => .ok (some (reg.hierarchy.isSubclass a b))
  | .secondary => (reg.hasSecondary a b).map some
  | .scanned => .ok (some (reg.hierarchy.scanSecondary a b))
  | .stored =>
    match reg.table? a with
    | none => .ok none
    | some table => (table.contains (reg.member b)).map some
  | .storedScanned => .ok ((reg.table? a).map fun table => table.scan (reg.member b))

/-- The answers about one class and every class in order; the first fault ends them. -/
def askAll (reg : Registry cfg) (question : Question) (a : Nat) :
    Except Fault (List (Option Bool)) :=
  (List.range reg.size).mapM (reg.ask question a)

end Registry

end Supertypes
