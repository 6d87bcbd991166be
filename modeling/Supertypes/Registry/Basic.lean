/-
  Supertypes/Registry/Basic.lean
  ==============================
  **A hierarchy and the tables of its classes.**

  A registry has one set-once cell per class for its lookup table.  Declarations extend
  the hierarchy; building a table draws seeds, verifies the result and publishes it.
  The hierarchy itself never changes by that: a table is only another way to answer a
  question that the hierarchy answers already.
-/
import Supertypes.Hierarchy.Declare
import Supertypes.Once
import Supertypes.Table.Layout
import Supertypes.Table.Verify

namespace Supertypes

/-- A hierarchy with a cell for the table of each class. -/
structure Registry (cfg : Config) where
  hierarchy : Hierarchy cfg
  tables : Array (Once (Table cfg Member))
  size_tables : tables.size = hierarchy.size

namespace Registry

variable {cfg : Config}

def empty : Registry cfg where
  hierarchy := .empty
  tables := #[]
  size_tables := rfl

def size (reg : Registry cfg) : Nat := reg.hierarchy.size

def name (reg : Registry cfg) (r : Nat) : String := (reg.hierarchy.descriptor r).name

def member (reg : Registry cfg) (r : Nat) : Member := reg.hierarchy.member r

/-- The cell for the table of a class. -/
def cell (reg : Registry cfg) (r : Nat) : Once (Table cfg Member) := reg.tables.getD r .unset

def table? (reg : Registry cfg) (r : Nat) : Option (Table cfg Member) := (reg.cell r).get?

/-! ### Declarations -/

/-- Adds a class, which has no table yet. -/
def push (reg : Registry cfg) (d : reg.hierarchy.Fresh) : Registry cfg where
  hierarchy := reg.hierarchy.push d
  tables := reg.tables.push .unset
  size_tables := by rw [Array.size_push, reg.size_tables, Hierarchy.size_push]

/-- Declares a class or an interface, without a table. -/
def declare (reg : Registry cfg) (d : Declaration reg.size) (alloc : Allocator) :
    Logged Failure Allocator (Registry cfg) :=
  (reg.hierarchy.draft d alloc).map reg.push

/-- A declaration leaves the registry as it is or adds what was drafted. -/
theorem after_declare_cases (reg : Registry cfg) (d : Declaration reg.size) (alloc : Allocator) :
    (reg.declare d alloc).after reg = reg ∨
      ∃ fresh, (reg.hierarchy.draft d alloc).outcome = .ok fresh ∧
        (reg.declare d alloc).after reg = reg.push fresh := by
  rcases (reg.declare d alloc).after_cases reg with hsame | ⟨next, houtcome, hnext⟩
  · exact Or.inl hsame
  · obtain ⟨fresh, hdraft, rfl⟩ := Logged.outcome_map_eq_ok_iff.1 houtcome
    exact Or.inr ⟨fresh, hdraft, hnext⟩

@[simp] theorem size_push (reg : Registry cfg) (d : reg.hierarchy.Fresh) :
    (reg.push d).size = reg.size + 1 :=
  Hierarchy.size_push reg.hierarchy d

@[simp] theorem cell_push (reg : Registry cfg) (d : reg.hierarchy.Fresh) (r : Nat) :
    (reg.push d).cell r = reg.cell r := by
  unfold cell push
  rw [Array.getD_eq_getD_getElem?, Array.getD_eq_getD_getElem?, Array.getElem?_push]
  split
  · rename_i hr
    rw [hr, Array.getElem?_eq_none (Nat.le_refl _)]
    rfl
  · rfl

/-! ### Tables -/

/-- Puts a table into the cell of a class, or hands it back if there is one already. -/
def install (reg : Registry cfg) (r : Nat) (table : Table cfg Member) :
    Except (Table cfg Member) (Registry cfg) :=
  match (reg.cell r).publish table with
  | .error table => .error table
  | .ok cell =>
    .ok
      { reg with
        tables := reg.tables.setIfInBounds r cell
        size_tables := by rw [Array.size_setIfInBounds, reg.size_tables] }

section

variable {σ : Type} [SeedSource σ]

/-- The candidates of a class as packed by a table: superclasses first.

    Packing reads the code of a candidate and compares candidates, and no class is a
    candidate twice.  So the classes are packed themselves: if their positions in the list
    were packed, looking a position up at the end would give back the class it stands for. -/
def candidateGroups (reg : Registry cfg) (r : Nat) : List (List Member) :=
  let c := reg.hierarchy.candidates r
  [c.primaries.map reg.member, c.secondaries.map reg.member]

/-- Builds the table of a class, provided that the configuration can be used. -/
def build (reg : Registry cfg) (r : Nat) (source : σ) : Logged Fault σ (Table cfg Member) :=
  match cfg.check with
  | .error fault => .stop fault source
  | .ok () =>
    let groups := reg.candidateGroups r
    (Layout.arrange cfg groups source).andThen Layout.table fun layout =>
      [.packed (reg.name r) groups.flatten.length layout.primary.size layout.secondary.size
        layout.tail.size]

/-- Passes on a table that verifies without a defect. -/
def audit (reg : Registry cfg) (r : Nat) (table : Table cfg Member) :
    Except Fault (Table cfg Member) :=
  match table.verify with
  | .error fault => .error fault
  | .ok report =>
    if report.isOk then .ok table else .error (.corruptTable (reg.name r) report)

/-- Puts a table into its cell, which must still be empty. -/
def release (reg : Registry cfg) (r : Nat) (table : Table cfg Member) :
    Except Fault (Registry cfg) :=
  match reg.install r table with
  | .error _ => .error (.publishedMeanwhile (reg.name r))
  | .ok reg => .ok reg

/-- Builds, verifies and publishes the table of a class that has none. -/
def publish (reg : Registry cfg) (r : Nat) (source : σ) : Logged Fault σ (Registry cfg) :=
  if (reg.cell r).isSet then .stop (.alreadyPublished (reg.name r)) source
  else
    let verified := (reg.build r source).andThen (reg.audit r) fun _ => []
    verified.andThen (reg.release r) fun table =>
      [.publishing (reg.name r) table.primary.size table.secondary.size table.tailZone.length]

end

/-- Declares a class or an interface and publishes its table, with seeds from the same
    allocator.  If the table cannot be built there is no new class, but what was drawn
    stays drawn. -/
def create (reg : Registry cfg) (d : Declaration reg.size) (alloc : Allocator) :
    Logged Failure Allocator (Registry cfg) :=
  (reg.declare d alloc).bind fun extended alloc =>
    (extended.publish reg.size alloc).mapError Failure.faulted

/-! ### Cells -/

/-- Beyond the classes there are no tables. -/
theorem cell_of_size_le {reg : Registry cfg} {r : Nat} (hr : reg.size ≤ r) :
    reg.cell r = .unset := by
  have htables : reg.tables.size ≤ r := by
    rw [reg.size_tables]
    exact hr
  rw [cell, Array.getD_eq_getD_getElem?, Array.getElem?_eq_none htables]
  rfl

theorem hierarchy_of_install {reg next : Registry cfg} {r : Nat} {table : Table cfg Member}
    (hok : reg.install r table = .ok next) : next.hierarchy = reg.hierarchy := by
  unfold install at hok
  split at hok
  · cases hok
  · cases hok
    rfl

theorem cell_of_install {reg next : Registry cfg} {r : Nat} {table : Table cfg Member}
    (hok : reg.install r table = .ok next) (hr : r < reg.size) (s : Nat) :
    next.cell s = if s = r then .set table else reg.cell s := by
  unfold install at hok
  split at hok
  · cases hok
  · rename_i cell hcell
    cases hok
    have hbound : r < reg.tables.size := reg.size_tables ▸ hr
    rw [(Once.publish_eq_ok_iff.1 hcell).2]
    simp only [Registry.cell, Array.getD_eq_getD_getElem?, Array.getElem?_setIfInBounds]
    by_cases h : s = r
    · simp [h, hbound]
    · simp [h, Ne.symm h]

end Registry

end Supertypes
