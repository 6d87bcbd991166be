/-
  Supertypes/Config.lean
  ======================
  **What can be tuned.**

  A configuration says how slots are chosen, how large tables may get, how much work
  a search may do, how many supertypes the primary array keeps, and whether lookups
  check themselves.  `Config.check` says which configurations can be used to build
  tables.
-/
import Supertypes.Capacity
import Supertypes.Fault
import Supertypes.Text.Columns
import Supertypes.Text.Record

namespace Supertypes

/-- How a mixed word becomes a slot, and how tables grow. -/
inductive Sizing where
  /-- The low bits of the word; sizes double. -/
  | powerOfTwo
  /-- The remainder of the word; sizes grow by chunks. -/
  | modulo
  /-- The low bits of the word, folded back once if they lie beyond the table; sizes
      grow by chunks. -/
  | reflect
deriving DecidableEq, Repr

namespace Sizing

def powerOfTwoOnly : Sizing → Bool
  | powerOfTwo => true
  | modulo | reflect => false

def text : Sizing → String
  | powerOfTwo => "PowerOfTwo"
  | modulo => "Modulo"
  | reflect => "Reflect"

/-- The sizes that tables of the strategy may have; a table without slots always may. -/
def Legal (sizing : Sizing) (size : Nat) : Prop :=
  size = 0 ∨ (sizing.powerOfTwoOnly = true → size.isPowerOfTwo)

end Sizing

/-- The parameters of a hierarchy and its tables. -/
structure Config where
  sizing : Sizing := .powerOfTwo
  /-- The largest slot zone. -/
  capacity : Capacity := default
  /-- Fewer candidates than this get no slot zone. -/
  minTableSize : Nat := 4
  /-- Growth step of the sizes that do not double; the one parameter that is calculated
      with, and therefore a word. -/
  chunkSize : UInt64 := 8
  /-- Seeds tried per size; none disables slot zones. -/
  maxAttempts : Nat := 16
  /-- Seeds tried in one search. -/
  maxTotalAttempts : Nat := 256
  /-- Whether a search may go on to larger sizes. -/
  allowResizing : Bool := true
  /-- Whether the overflow of the primary zone may get a zone of its own. -/
  secondLevel : Bool := true
  /-- A shorter overflow gets no zone. -/
  secondLevelMin : Nat := 4
  /-- The number of superclasses kept in the primary array. -/
  primaryLimit : Nat := 8
  /-- Whether every probe of a table is compared with a scan. -/
  verifyLookups : Bool := false
deriving DecidableEq, Repr

namespace Config

instance : Inhabited Config := ⟨{}⟩

def chunk (cfg : Config) : Nat := cfg.chunkSize.toNat

theorem chunk_lt (cfg : Config) : cfg.chunk < UInt64.size := cfg.chunkSize.toNat_lt

def ofMax (slots : Nat) : Config := { capacity := .ofNat slots }

/-- Tables without slot zones: plain lists. -/
def linear : Config := { maxAttempts := 0, secondLevel := false }

/-- Tests that tables can be built: there is a primary array, sizes grow, and the total
    budget covers one size. -/
def check (cfg : Config) : Except Fault Unit :=
  if cfg.primaryLimit = 0 then .error .zeroPrimaryLimit
  else if cfg.sizing.powerOfTwoOnly = false ∧ cfg.chunk = 0 then .error .zeroChunk
  else if cfg.maxTotalAttempts < cfg.maxAttempts then .error .budgetTooSmall
  else .ok ()

theorem check_eq_ok_iff {cfg : Config} : cfg.check = .ok () ↔
    0 < cfg.primaryLimit ∧ (cfg.sizing.powerOfTwoOnly = true ∨ 0 < cfg.chunk) ∧
      cfg.maxAttempts ≤ cfg.maxTotalAttempts := by
  unfold check
  split
  · rename_i h
    simp [h]
  · split
    · rename_i h
      simp [h]
    · rename_i hchunk
      split
      · rename_i h
        simp only [reduceCtorEq, false_iff]
        omega
      · simp only [true_iff]
        refine ⟨by omega, ?_, by omega⟩
        cases hs : cfg.sizing.powerOfTwoOnly
        · exact .inr (Nat.pos_of_ne_zero fun h => hchunk ⟨hs, h⟩)
        · exact .inl rfl

/-- All parameters, with the layout of seeds that follows from them. -/
def record (cfg : Config) (name : String) : Text.Record where
  name := name
  fields :=
    [("SIZING", cfg.sizing.text),
      ("MAX_TABLE_SIZE", cfg.capacity.text),
      ("MIN_TABLE_SIZE", toString cfg.minTableSize),
      ("CHUNK_SIZE", toString cfg.chunk),
      ("MAX_ATTEMPTS", toString cfg.maxAttempts),
      ("MAX_TOTAL_ATTEMPTS", toString cfg.maxTotalAttempts),
      ("ALLOW_RESIZING", toString cfg.allowResizing),
      ("SECOND_LEVEL", toString cfg.secondLevel),
      ("SECOND_LEVEL_MIN", toString cfg.secondLevelMin),
      ("PRIMARY_SUPER_LIMIT", toString cfg.primaryLimit),
      ("VERIFY_LOOKUPS", toString cfg.verifyLookups),
      ("SIZE_SHIFT", toString cfg.capacity.fieldWidth),
      ("SIZE_MASK", Text.hex 0 cfg.capacity.sizeMask.toNat),
      ("SALT_MASK", Text.hex 0 cfg.capacity.saltMask.toNat)]

end Config

end Supertypes
