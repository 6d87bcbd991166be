/-
  Supertypes/Report.lean
  ======================
  **Defect counts of a supers table.**

  A report has one count per kind of defect.  Reports add up componentwise, so a
  check of a whole table is the sum of the checks of its cells, and a sum is clean
  exactly when each part is (`isOk_add`).
-/
import Supertypes.Text.Record

namespace Supertypes

/-- Defects found by verifying a table, counted by kind. -/
structure Report where
  /-- Slot residents that sit outside their natural slot. -/
  misplaced : Nat := 0
  /-- Overflow elements whose natural slot is vacant. -/
  placeable : Nat := 0
  /-- Overflow elements whose natural slot lacks the matching tag. -/
  untagged : Nat := 0
  /-- Stored classes that a lookup fails to find. -/
  unreachable : Nat := 0
  /-- Cells that repeat a class stored before. -/
  duplicates : Nat := 0
  /-- Secondary supertypes absent from the table. -/
  missing : Nat := 0
  /-- Stored classes that are no secondary supertypes. -/
  unexpected : Nat := 0
deriving DecidableEq, Repr

namespace Report

def clean : Report := {}

def isOk (r : Report) : Bool := r == clean

def add (r s : Report) : Report where
  misplaced := r.misplaced + s.misplaced
  placeable := r.placeable + s.placeable
  untagged := r.untagged + s.untagged
  unreachable := r.unreachable + s.unreachable
  duplicates := r.duplicates + s.duplicates
  missing := r.missing + s.missing
  unexpected := r.unexpected + s.unexpected

instance : Add Report := ⟨add⟩

theorem isOk_iff {r : Report} : r.isOk = true ↔
    r.misplaced = 0 ∧ r.placeable = 0 ∧ r.untagged = 0 ∧ r.unreachable = 0 ∧
      r.duplicates = 0 ∧ r.missing = 0 ∧ r.unexpected = 0 := by
  cases r
  simp [isOk, clean]

@[simp] theorem isOk_clean : clean.isOk = true := by simp [isOk]

theorem add_def (r s : Report) : r + s = r.add s := rfl

@[simp] theorem isOk_add {r s : Report} : (r + s).isOk = (r.isOk && s.isOk) := by
  rw [Bool.eq_iff_iff, Bool.and_eq_true, isOk_iff, isOk_iff, isOk_iff, add_def]
  simp only [add, Nat.add_eq_zero_iff]
  constructor <;> intro h <;> simp only [h, and_self]

@[simp] theorem clean_add (r : Report) : clean + r = r := by
  cases r
  simp [add_def, add, clean]

@[simp] theorem add_clean (r : Report) : r + clean = r := rfl

/-- The counts in one line, as `kind=count` pairs. -/
def text (r : Report) : String :=
  String.intercalate " "
    [s!"misplaced={r.misplaced}", s!"placeable={r.placeable}", s!"untagged={r.untagged}",
      s!"unreachable={r.unreachable}", s!"duplicates={r.duplicates}",
      s!"missing={r.missing}", s!"unexpected={r.unexpected}"]

def record (r : Report) : Text.Record where
  name := "Report"
  fields :=
    [("misplaced", toString r.misplaced), ("placeable", toString r.placeable),
      ("untagged", toString r.untagged), ("unreachable", toString r.unreachable),
      ("duplicates", toString r.duplicates), ("missing", toString r.missing),
      ("unexpected", toString r.unexpected)]

end Report

end Supertypes
