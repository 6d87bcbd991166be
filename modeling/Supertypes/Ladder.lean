/-
  Supertypes/Ladder.lean
  ======================
  **The table sizes that a search tries.**

  A search starts at the least size that could hold all elements, rounded up in the
  way of the sizing strategy, and goes on to larger sizes until the capacity, or a
  table with twice as many slots as elements.  All of it is arithmetic on 64-bit
  words: a sum or product that leaves them is a fault.
-/
import Supertypes.Config

namespace Supertypes

namespace Config

/-- The least number of chunks that hold `count` slots. -/
def chunksFor (cfg : Config) (count : Nat) : Nat :=
  (count + cfg.chunk - 1) / cfg.chunk

/-- The first size tried for `count` elements; none is tried at size `0`, and the
    elements stay a list. -/
def initialSize (cfg : Config) (count : Nat) : Except Fault Nat :=
  if cfg.maxAttempts = 0 ∨ count < cfg.minTableSize ∨ count = 0 then .ok 0
  else if cfg.sizing.powerOfTwoOnly then
    let size := ceilPow2 count
    if size < UInt64.size then .ok (min size cfg.capacity.slots) else .error .addOverflow
  else if cfg.chunk = 0 then .error .divideByZero
  else
    let size := cfg.chunksFor count * cfg.chunk
    if size < UInt64.size then .ok (min size cfg.capacity.slots) else .error .mulOverflow

/-- One step of growth, as yet without a bound. -/
def grownSize (cfg : Config) (size : Nat) : Nat :=
  if cfg.sizing.powerOfTwoOnly then 2 * size else size + cfg.chunk

/-- The size after `size`, if the search may go on: there must be room up to the
    capacity, and the table must not have twice as many slots as elements yet. -/
def nextSize (cfg : Config) (size count : Nat) : Except Fault (Option Nat) :=
  if cfg.allowResizing = false ∨ size = 0 ∨ cfg.capacity.slots ≤ size ∨ 2 * count ≤ size then
    .ok none
  else if cfg.grownSize size < UInt64.size then
    .ok (some (min (cfg.grownSize size) cfg.capacity.slots))
  else .error .addOverflow

/-- The sizes from `size` on, as long as they grow.  Every size but the first is at most
    the capacity, so that many steps always suffice. -/
def sizesFrom (cfg : Config) (count : Nat) : Nat → Nat → Except Fault (List Nat)
  | 0, size => .ok [size]
  | steps + 1, size =>
    match cfg.nextSize size count with
    | .error fault => .error fault
    | .ok none => .ok [size]
    | .ok (some next) =>
      if size < next then (cfg.sizesFrom count steps next).map (size :: ·) else .ok [size]

/-- All sizes for `count` elements, in the order in which they are tried. -/
def ladder (cfg : Config) (count : Nat) : Except Fault (List Nat) :=
  match cfg.initialSize count with
  | .error fault => .error fault
  | .ok size => cfg.sizesFrom count cfg.capacity.slots size

end Config

end Supertypes
