/-
  Supertypes/Allocator.lean
  =========================
  **Identities, hash codes and seeds.**

  An allocator hands out everything a declaration needs.  Identities count upwards
  from one.  Hash codes and seeds are the values of a counter run through the mixer
  together with the allocator's salt, so they look unrelated to the order of the
  declarations and are still determined by the salt.  The two counters do not touch
  each other.
-/
import Supertypes.Fault
import Supertypes.Mix
import Supertypes.SeedSource
import Supertypes.Text.Columns
import Supertypes.Text.Record

namespace Supertypes

/-- The identity of a class, unique among those of one allocator. -/
structure ClassId where
  number : Nat
deriving DecidableEq, Repr

namespace ClassId

def text (id : ClassId) : String := toString id.number

end ClassId

/-- The state behind identities, hash codes and seeds. -/
structure Allocator where
  salt : UInt64
  /-- How many words were drawn, as a word. -/
  counter : UInt64 := 0
  serial : Nat := 0
deriving DecidableEq, Repr

namespace Allocator

def defaultSalt : UInt64 := 0x9E3779B97F4A7C15

instance : Inhabited Allocator := ⟨{ salt := defaultSalt }⟩

/-- Draws the next word: the counter advances and is mixed with the salt. -/
def nextSeed (a : Allocator) : UInt64 × Allocator :=
  let counter := a.counter + 1
  (mix counter a.salt, { a with counter })

instance : SeedSource Allocator := ⟨nextSeed⟩

/-- Draws the next hash code: the next word, folded in half. -/
def nextCode (a : Allocator) : UInt32 × Allocator :=
  let (word, a) := a.nextSeed
  (foldHalf word, a)

/-- Hands out the next identity.  The numbers stay within 64 bits. -/
def nextId (a : Allocator) : Except Fault (ClassId × Allocator) :=
  let serial := a.serial + 1
  if serial < UInt64.size then .ok (⟨serial⟩, { a with serial }) else .error .addOverflow

def text (a : Allocator) : String :=
  Text.Record.compact
    { name := "HashAllocator"
      fields :=
        [("salt", Text.hexWord a.salt), ("counter", toString a.counter.toNat),
          ("serial", toString a.serial)] }

/-! ### The two counters -/

theorem nextId_eq_ok {a : Allocator} (h : a.serial + 1 < UInt64.size) :
    a.nextId = .ok (⟨a.serial + 1⟩, { a with serial := a.serial + 1 }) :=
  if_pos h

theorem of_nextId_eq_ok {a b : Allocator} {id : ClassId} (h : a.nextId = .ok (id, b)) :
    id = ⟨a.serial + 1⟩ ∧ b = { a with serial := a.serial + 1 } := by
  unfold nextId at h
  dsimp only at h
  split at h
  · cases h
    exact ⟨rfl, rfl⟩
  · cases h

@[simp] theorem nextSeed_serial (a : Allocator) : a.nextSeed.2.serial = a.serial := rfl

@[simp] theorem nextSeed_salt (a : Allocator) : a.nextSeed.2.salt = a.salt := rfl

@[simp] theorem nextCode_serial (a : Allocator) : a.nextCode.2.serial = a.serial := rfl

@[simp] theorem nextCode_salt (a : Allocator) : a.nextCode.2.salt = a.salt := rfl

end Allocator

end Supertypes
