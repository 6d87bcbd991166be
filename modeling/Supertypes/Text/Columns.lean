/-
  Supertypes/Text/Columns.lean
  ============================
  **Padding to a column and fixed-width hexadecimal.**

  Widths count characters.  A text that is wider than its column is left alone.
-/

namespace Supertypes.Text

/-- Fills up to `width` characters with `fill` on the left. -/
def padStart (width : Nat) (fill : Char) (text : String) : String :=
  String.ofList (List.replicate (width - text.length) fill) ++ text

/-- Fills up to `width` characters with blanks on the right. -/
def padEnd (width : Nat) (text : String) : String :=
  text ++ String.ofList (List.replicate (width - text.length) ' ')

def hexDigits (n : Nat) : String := String.ofList (Nat.toDigits 16 n)

/-- Hexadecimal with the marker `0x` and at least `width` digits. -/
def hex (width n : Nat) : String := "0x" ++ padStart width '0' (hexDigits n)

def hexWord (word : UInt64) : String := hex 16 word.toNat

def hexHalf (word : UInt32) : String := hex 8 word.toNat

end Supertypes.Text
