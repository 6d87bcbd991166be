/-
  Supertypes/Text/Quoted.lean
  ===========================
  **Quoted text.**

  A quoted text stands between double quotes.  The quote and the backslash take a
  backslash, the usual controls their letters, and every other character without a
  shape of its own is written by its code point.
-/
import Supertypes.Text.Columns
import Supertypes.Text.Invisible

namespace Supertypes.Text

def quoteChar (c : Char) : String :=
  match c with
  | '"' => "\\\""
  | '\\' => "\\\\"
  | '\n' => "\\n"
  | '\r' => "\\r"
  | '\t' => "\\t"
  | '\x00' => "\\0"
  | _ =>
    if isInvisible c then "\\u\x7b" ++ hexDigits c.toNat ++ "\x7d" else c.toString

def quoted (text : String) : String :=
  "\"" ++ String.join (text.toList.map quoteChar) ++ "\""

end Supertypes.Text
