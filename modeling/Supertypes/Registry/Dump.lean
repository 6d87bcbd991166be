/-
  Supertypes/Registry/Dump.lean
  =============================
  **Tables for readers.**

  The dump of a table has a line for each zone and, if asked for, a line for each of its
  cells.  A resident outside its natural slot is marked.
-/
import Supertypes.Registry.Basic
import Supertypes.Text.Transcript

namespace Supertypes

namespace Registry

variable {cfg : Config}

/-- Numbers of cells and slots stand in columns of this width. -/
def numberColumn (n : Nat) : String := Text.padStart 4 ' ' (toString n)

def memberColumns (reg : Registry cfg) (x : Member) : String :=
  Text.padEnd 24 (reg.name x.ref) ++ " hash=" ++ Text.hexHalf x.code

def cellLine (reg : Registry cfg) (seed : Seed cfg.capacity) (cell : Entry Member × Nat) :
    Except Fault String :=
  let number := "[" ++ numberColumn cell.2 ++ "] "
  match cell.1.resident with
  | none => .ok ("  " ++ number ++ "<empty> " ++ cell.1.tag.marker)
  | some x =>
    match naturalSlot cfg.sizing x seed with
    | .error fault => .error fault
    | .ok natural =>
      let mark := if natural.val = cell.2 then " " else "!"
      .ok (mark ++ " " ++ number ++ reg.memberColumns x ++ " slot=" ++
        numberColumn natural.val ++ " " ++ cell.1.tag.marker)

def zoneLines (reg : Registry cfg) (verbose : Bool) (label : String) (seed : Seed cfg.capacity)
    (zone : List (Entry Member)) : List (Except Fault String) :=
  let empty := zone.countP fun cell => cell.resident.isNone
  let conflicts := zone.countP fun cell => !cell.tag.isEmpty
  let summary :=
    label ++ " seed=" ++ seed.text ++ " size=" ++ toString zone.length ++ " empty=" ++
      toString empty ++ " conflicts=" ++ toString conflicts
  .ok summary :: if verbose then zone.zipIdx.map (reg.cellLine seed) else []

/-- The lines of the tail, whose members are numbered among themselves. -/
def tailLines (reg : Registry cfg) (verbose : Bool) (zone : List (Entry Member)) :
    List (Except Fault String) :=
  let line (x : Member × Nat) : Except Fault String :=
    .ok ("  [" ++ numberColumn x.2 ++ "] " ++ reg.memberColumns x.1)
  .ok ("tail size=" ++ toString zone.length) ::
    if verbose then (zone.filterMap Entry.resident).zipIdx.map line else []

/-- The lines of a table.  An absent secondary zone is left out. -/
def tableLines (reg : Registry cfg) (verbose : Bool) (r : Nat) (table : Table cfg Member) :
    List (Except Fault String) :=
  let header :=
    "--- " ++ reg.name r ++ ": " ++ toString table.length ++ " secondary supers, storage=" ++
      toString table.storage.size ++ " ---"
  let secondary :=
    if table.secondary.size = 0 then []
    else reg.zoneLines verbose "secondary" table.secondary table.secondaryZone
  .ok header :: reg.zoneLines verbose "primary" table.primary table.primaryZone ++ secondary ++
    reg.tailLines verbose table.tailZone

def dump (reg : Registry cfg) (verbose : Bool) (r : Nat) : Text.Transcript :=
  .ofLines
    (match reg.table? r with
      | none => [.ok ("--- " ++ reg.name r ++ ": secondary supers not initialized ---")]
      | some table => reg.tableLines verbose r table)

end Registry

end Supertypes
