/-
  Supertypes/Registry/Verify.lean
  ===============================
  **Checking the table of a class against the hierarchy.**

  On top of the checks of the table itself, the stored classes are compared with the
  secondary supertypes that the hierarchy asks for.  A class without a table misses all
  of them.
-/
import Supertypes.Registry.Basic
import Supertypes.Text.Transcript

namespace Supertypes

namespace Registry

variable {cfg : Config}

/-- The members that the table of a class has to hold. -/
def expected (reg : Registry cfg) (r : Nat) : List Member :=
  (reg.candidateGroups r).flatten

/-- Compares the contents of a table with what it has to hold. -/
def compareContents (expected : List Member) (table : Table cfg Member) : Report where
  missing := expected.countP fun x => !table.scan x
  unexpected := table.members.countP fun x => !expected.contains x

def verify (reg : Registry cfg) (r : Nat) : Except Fault Report :=
  let expected := reg.expected r
  match reg.table? r with
  | none => .ok { missing := expected.length }
  | some table =>
    match table.verify with
    | .error fault => .error fault
    | .ok report => .ok (report + compareContents expected table)

/-- One line that says how the verification ended. -/
def verdictLine (reg : Registry cfg) (r : Nat) (report : Report) : String :=
  let status := if report.isOk then "ok" else "FAILED"
  "verify " ++ reg.name r ++ ": " ++ status ++ " (" ++ report.text ++ ")"

/-- Verifies a class and writes the verdict; also tells whether there was no defect. -/
def verifyText (reg : Registry cfg) (r : Nat) : Except Fault (Bool × Text.Transcript) :=
  match reg.verify r with
  | .error fault => .error fault
  | .ok report => .ok (report.isOk, .ofLines [.ok (reg.verdictLine r report)])

end Registry

end Supertypes
