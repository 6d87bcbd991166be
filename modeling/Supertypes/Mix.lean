/-
  Supertypes/Mix.lean
  ===================
  **The mixing function behind hash codes, seeds and slots.**

  Two widening multiplications and one data-dependent rotation turn a pair of
  words into a pattern in which nearby inputs have nothing in common.  The
  arithmetic is that of 64-bit words; only the widening product is spelled out
  here, through the exact product of the two numbers.
-/

namespace Supertypes

/-! ### Word arithmetic -/

/-- The upper word of the exact 128-bit product. -/
def mulHigh (a b : UInt64) : UInt64 :=
  UInt64.ofNat ((a.toNat * b.toNat) >>> 64)

/-- Rotates a word to the right by the low six bits of the amount. -/
def rotateRight (word amount : UInt64) : UInt64 :=
  let shift := amount &&& 63
  word >>> shift ||| word <<< ((64 - shift) &&& 63)

/-! ### Mixing -/

def multiplier : UInt64 := 0x8ADAE89C337954D5

/-- Alternating bits folded into the first word. -/
def alternating : UInt64 := 0xAAAAAAAAAAAAAAAA

/-- Mixes two words into a pseudo-random pattern. -/
def mix (x y : UInt64) : UInt64 :=
  let low := x ^^^ alternating
  let crossed := ((x ^^^ y) * multiplier) ^^^ mulHigh low multiplier
  let rotated := rotateRight ((low * multiplier) ^^^ multiplier) crossed
  (crossed * multiplier) ^^^ (rotated ^^^ mulHigh crossed multiplier)

/-- Folds a word in half: the upper half is added bitwise onto the lower. -/
def foldHalf (word : UInt64) : UInt32 := (word ^^^ (word >>> 32)).toUInt32

/-- Mixing of half words: the wide pattern, folded. -/
def mix32 (x y : UInt32) : UInt32 := foldHalf (mix x.toUInt64 y.toUInt64)

end Supertypes
