/-
  Supertypes/Once.lean
  ====================
  **Cells that are written at most once.**

  A cell starts empty.  The first value published stays; a later one is handed back.
-/

namespace Supertypes

/-- A cell that is empty or has its final value. -/
inductive Once (α : Type) where
  | unset
  | set (value : α)
deriving DecidableEq, Repr

namespace Once

variable {α : Type}

instance : Inhabited (Once α) := ⟨unset⟩

def get? : Once α → Option α
  | unset => none
  | set value => some value

def isSet (cell : Once α) : Bool := cell.get?.isSome

/-- Gives the cell its value, or hands the value back if the cell has one. -/
def publish (cell : Once α) (value : α) : Except α (Once α) :=
  match cell with
  | unset => .ok (set value)
  | set _ => .error value

def text (render : α → String) : Once α → String
  | unset => "Published(<unset>)"
  | set value => "Published(" ++ render value ++ ")"

theorem publish_eq_ok_iff {cell next : Once α} {value : α} :
    cell.publish value = .ok next ↔ cell = unset ∧ next = set value := by
  cases cell with
  | unset => simp [publish, eq_comm]
  | set _ => simp [publish]

end Once

end Supertypes
