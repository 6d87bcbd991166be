/-
  Supertypes/Fault.lean
  =====================
  **Broken preconditions and internal inconsistencies.**

  Every partial step of the library says what went wrong with a `Fault`: an
  argument out of range, arithmetic that leaves the 64-bit words, a configuration
  that cannot be used, or a table that contradicts itself.  A rejected declaration
  is not a fault; those have a type of their own (`DeclareError`).
-/
import Supertypes.Report

namespace Supertypes

/-- Why a computation could not go on. -/
inductive Fault where
  /-- A seed was composed for a size above the capacity. -/
  | seedTooLarge
  /-- A field of a composed seed reads back as something else. -/
  | seedSizeLost
  | seedMaskLost
  | emptyTable
  /-- Power-of-two sizing met a size that is none. -/
  | notPowerOfTwo (size : Nat)
  | slotOutOfRange
  | duplicateElement
  | addOverflow
  | mulOverflow
  | divideByZero
  | zeroPrimaryLimit
  | zeroChunk
  /-- The configuration's total budget is below its budget per size. -/
  | budgetTooSmall
  /-- A cell beyond the storage was to be tagged. -/
  | cellOutOfRange (length index : Nat)
  /-- The cells that were written are not as many as the zones and the tail need. -/
  | storageMismatch (written needed : Nat)
  /-- The zones are longer than the storage. -/
  | zonesTooLong
  /-- A secondary zone without a primary zone. -/
  | orphanSecondary
  | alreadyPublished (name : String)
  /-- Another table was published while this one was being built. -/
  | publishedMeanwhile (name : String)
  | corruptTable (name : String) (report : Report)
  /-- Probing the table and scanning it gave different answers. -/
  | disagreement (name other : String) (found scanned : Bool)
deriving DecidableEq, Repr

namespace Fault

def message : Fault → String
  | seedTooLarge => "invalid seed: table size exceeds `MAX_TABLE_SIZE`"
  | seedSizeLost => "assertion failed: seed.size() == size"
  | seedMaskLost => "assertion failed: seed.mask() as u64 == mask"
  | emptyTable => "slot_index requires a non-empty table"
  | notPowerOfTwo size => s!"power-of-two sizing with size {size}"
  | slotOutOfRange => "assertion failed: index < size"
  | duplicateElement => "duplicate element in packing"
  | addOverflow => "attempt to add with overflow"
  | mulOverflow => "attempt to multiply with overflow"
  | divideByZero => "attempt to divide by zero"
  | zeroPrimaryLimit => "invalid params: `PRIMARY_SUPER_LIMIT` must be non-zero"
  | zeroChunk => "invalid params: `CHUNK_SIZE` must be non-zero"
  | budgetTooSmall => "invalid params: `MAX_TOTAL_ATTEMPTS` must cover `MAX_ATTEMPTS`"
  | cellOutOfRange length index =>
    s!"index out of bounds: the len is {length} but the index is {index}"
  | storageMismatch written needed =>
    "assertion `left == right` failed\n  left: " ++ toString written ++
      "\n right: " ++ toString needed
  | zonesTooLong => "assertion failed: primary.size() + secondary.size() <= storage.len()"
  | orphanSecondary => "assertion failed: !primary.is_empty() || secondary.is_empty()"
  | alreadyPublished name => "secondary supers of `" ++ name ++ "` initialized twice"
  | publishedMeanwhile name => "secondary supers of `" ++ name ++ "` published concurrently"
  | corruptTable name report =>
    "corrupt secondary supers for `" ++ name ++ "`: " ++ report.text
  | disagreement name other found scanned =>
    "assertion `left == right` failed: secondary supers of `" ++ name ++
      "` disagree with a linear scan for `" ++ other ++ "`\n  left: " ++ toString found ++
      "\n right: " ++ toString scanned

end Fault

end Supertypes
