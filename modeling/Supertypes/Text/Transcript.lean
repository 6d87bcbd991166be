/-
  Supertypes/Text/Transcript.lean
  ===============================
  **Text written line by line, which may break off.**

  A report is written in order; a fault in the middle keeps what was written before
  it.  A reader with limited room gets a beginning of the text: it sees the fault only
  if everything before the fault fitted.
-/
import Supertypes.Fault

namespace Supertypes.Text

/-- What was written, and the fault that ended the writing early, if any. -/
structure Transcript where
  text : String := ""
  fault : Option Fault := none

namespace Transcript

/-- Writes lines in order, up to the first that cannot be computed. -/
def ofLines : List (Except Fault String) → Transcript
  | [] => {}
  | .error fault :: _ => { fault := some fault }
  | .ok line :: rest =>
    let written := ofLines rest
    { written with text := line ++ "\n" ++ written.text }

/-- What a reader with room for `limit` characters gets: the text and whether it is
    complete, or the fault if it came before the room ran out. -/
def read (t : Transcript) (limit : Option Nat) : Except Fault (Bool × String) :=
  match limit with
  | some room =>
    if room < t.text.length then .ok (false, (t.text.take room).toString)
    else finish
  | none => finish
where
  /-- The whole text, unless a fault ended it. -/
  finish : Except Fault (Bool × String) :=
    match t.fault with
    | some fault => .error fault
    | none => .ok (true, t.text)

end Transcript

end Supertypes.Text
