/-
  Supertypes/Event.lean
  =====================
  **What a build reports while it runs.**

  Events are recorded in the order in which they happen.  Each kind has a level, a
  fixed message and its own fields.
-/
import Supertypes.Score

namespace Supertypes

/-- Something that happened while a table was built. -/
inductive Event where
  /-- A search adopted a packing. -/
  | improved (attempt size : Nat) (seed : UInt64) (score : Score)
  /-- A search came to its end; size and score are those of the best packing. -/
  | searched (count attempts size : Nat) (score : Score)
  /-- The candidates of a class were distributed over the zones. -/
  | packed (name : String) (candidates primary secondary tail : Nat)
  /-- A verified table is about to be published. -/
  | publishing (name : String) (primary secondary tail : Nat)
deriving DecidableEq, Repr

/-- How much attention an event deserves. -/
inductive Level where
  | trace
  | debug
deriving DecidableEq, Repr

namespace Event

/-- Steps on the way are traced, results are for debugging. -/
def level : Event → Level
  | improved .. | packed .. => .trace
  | searched .. | publishing .. => .debug

def message : Event → String
  | improved .. => "improved secondary supers packing"
  | searched .. => "secondary supers search finished"
  | packed .. => "packed secondary supers"
  | publishing .. => "publishing secondary supers"

end Event

end Supertypes
