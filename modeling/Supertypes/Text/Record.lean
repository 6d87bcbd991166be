/-
  Supertypes/Text/Record.lean
  ===========================
  **Named records and lists as text.**

  A record prints as its name and its fields in braces, on one line or with one
  field per line.  Field values are texts already.
-/

namespace Supertypes.Text

structure Record where
  name : String
  fields : List (String × String)
  /-- Whether some fields are left out, which two dots at the end announce. -/
  openEnded : Bool := false

namespace Record

def items (r : Record) : List String :=
  r.fields.map fun field => field.1 ++ ": " ++ field.2

def compact (r : Record) : String :=
  let shown := r.items ++ if r.openEnded then [".."] else []
  r.name ++ " \x7b " ++ String.intercalate ", " shown ++ " \x7d"

/-- The record with every value on a line of its own, indented by four blanks. -/
def indented (r : Record) : String :=
  let lines := r.items.map (fun item => "    " ++ item ++ ",\n") ++
    if r.openEnded then ["    ..\n"] else []
  r.name ++ " \x7b\n" ++ String.join lines ++ "\x7d"

end Record

def list (items : List String) : String := "[" ++ String.intercalate ", " items ++ "]"

/-- An optional text, wrapped when present. -/
def option : Option String → String
  | none => "None"
  | some text => "Some(" ++ text ++ ")"

end Supertypes.Text
