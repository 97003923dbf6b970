import SchemaPlan.Catalog.Inspector
import SchemaPlan.Declaration.Table
import SchemaPlan.TypeName

/-!
# Comparing a declaration with the live schema

A table that does not exist is created from its whole declaration. For a
table that does, every declared column is compared with the live one of its
name: it is unchanged, new, modified or to be dropped. Columns that the
framework looks after are left alone, and a column marked for removal that
is not there is skipped with a warning, or is a fault when drops are
strict.
-/

namespace SchemaPlan

/-- What happens to the table as a whole. Removing a table is never called for;
it only occurs as the inverse of a creation. -/
inductive TableAction where
  /-- The table is created, with a primary key of its own making if
  `implicitKey`. -/
  | create (implicitKey : Bool)
  /-- The table exists and its columns are compared. -/
  | alter
deriving DecidableEq, Repr

/-- What happens to a column. What a later step needs to know of the live
column is kept with the action, so that it is not looked up again. -/
inductive ColumnAction where
  /-- The live column is as declared, or not ours to change. -/
  | unchanged
  /-- There is no such live column. -/
  | new (column : ColumnDecl)
  /-- The live column has another type or another nullability; the canonical
  type and the nullability it has. -/
  | modified (column : ColumnDecl) (type : String) (nullable : Bool)
  /-- The live column is to be removed; the canonical type it has, when that
  is not the declared one, and its nullability. The declaration comes without
  the mark for removal. -/
  | dropped (column : ColumnDecl) (type : Option String) (nullable : Bool)
deriving DecidableEq

namespace ColumnAction

/-- The action in one word. -/
def label : ColumnAction → String
  | unchanged => "unchanged"
  | new _ => "new"
  | modified _ _ _ => "modified"
  | dropped _ _ _ => "dropped"

/-- The action as a mark in front of a column. -/
def mark : ColumnAction → String
  | unchanged => " "
  | new _ => "+"
  | modified _ _ _ => "~"
  | dropped _ _ _ => "-"

end ColumnAction

/-- A declared column and what happens to it. -/
structure ColumnChange where
  /-- The name of the column. -/
  name : String
  /-- What happens to it. -/
  action : ColumnAction
deriving DecidableEq

/-- Why a mark for removal has no effect. -/
inductive WarningReason where
  /-- The table is only now created. -/
  | tableNotLive (table : String)
  /-- The table has no such column. -/
  | columnNotLive (table : String)
deriving DecidableEq, Repr

namespace WarningReason

/-- The reason in words. -/
def message : WarningReason → String
  | tableNotLive table => s!"table '{table}' does not exist yet, nothing to drop"
  | columnNotLive table => s!"column does not exist in table '{table}'"

end WarningReason

/-- A note on a mark for removal that has no effect. It does not stop a run,
and no artifact depends on it. -/
structure DiffWarning where
  /-- The name of the column. -/
  column : String
  /-- Why nothing is removed. -/
  reason : WarningReason
deriving DecidableEq, Repr

/-- How comparisons are made. The options only count where the table exists: a
table that is created gets the declared columns whatever they are called, and
no drop is a fault there. -/
structure DiffOptions where
  /-- The columns that are never compared. -/
  systemColumns : List String
  /-- Whether removing a column that does not exist is a fault. -/
  strictDrops : Bool
deriving DecidableEq, Repr

namespace DiffOptions

/-- The primary key and the timestamps are left alone, and drops of missing
columns are skipped. -/
def standard : DiffOptions where
  systemColumns := ["id", "created_at", "updated_at"]
  strictDrops := false

end DiffOptions

/-- The outcome of comparing one table. A declared column that is to be dropped
and is not there is among the warnings and not among the changes. -/
structure TableDiff where
  /-- The name of the table. -/
  table : String
  /-- What happens to the table as a whole. -/
  tableAction : TableAction
  /-- What happens to each column, in declared order. -/
  changes : List ColumnChange
  /-- The marks for removal that have no effect, in declared order. -/
  warnings : List DiffWarning
deriving DecidableEq

namespace TableDiff

/-! ## A table that is created -/

/-- Whether a column is declared and to be kept. -/
def isKept (column : ColumnDecl) : Bool :=
  !column.isMarkedForDrop

/-- Whether a column says no more than the primary key that every table
gets by itself. -/
def isImpliedKey (column : ColumnDecl) : Bool :=
  column.name == "id" && column.isDefaultKey

/-- The outcome for a table that does not exist: all columns are new, except
those marked for removal and an `id` that the table gets anyway. Any other
`id` takes the place of the primary key. -/
def creation (decl : TableDecl) : TableDiff :=
  let kept := decl.columns.filter isKept
  let explicit := kept.filter fun c => !isImpliedKey c
  { table := decl.name
    tableAction := .create (!explicit.any fun c => c.name == "id")
    changes := explicit.map fun c => ⟨c.name, .new c⟩
    warnings := (decl.columns.filter fun c => c.isMarkedForDrop).map fun c =>
      ⟨c.name, .tableNotLive decl.name⟩ }

/-! ## A table that exists -/

/-- What a declared column calls for, given the live column of its name:
an action, or nothing when it is marked for removal and not there. -/
def actionFor (column : ColumnDecl) : Option LiveColumn → Option ColumnAction
  | none => if column.isMarkedForDrop then none else some (.new column)
  | some live =>
    let agrees := TypeName.agrees column.kind live.type
    if column.isMarkedForDrop then
      some (.dropped column.withoutDrop
        (if agrees then none else some (TypeName.canonical live.type)) live.nullable)
    else if agrees && column.isNullable == live.nullable then
      some .unchanged
    else
      some (.modified column (TypeName.canonical live.type) live.nullable)

/-- Compares one column. There is no action for one that is marked for
removal and not there; with strict drops that is a fault. -/
def compareColumn (options : DiffOptions) (inspector : Inspector) (table : String)
    (column : ColumnDecl) : Except Fault (Option ColumnAction) :=
  if options.systemColumns.contains column.name then .ok (some .unchanged)
  else do
    let live ← inspector.lookup table column.name
    match actionFor column live with
    | some action => return some action
    | none =>
      if options.strictDrops then throw (.missingDrop table column.name) else return none

/-- Compares columns in order, up to the first fault. Columns after it are not
looked up. -/
def compareColumns (options : DiffOptions) (inspector : Inspector) (table : String) :
    List ColumnDecl → Except Fault (List (String × Option ColumnAction))
  | [] => .ok []
  | column :: rest => do
    let action ← compareColumn options inspector table column
    let later ← compareColumns options inspector table rest
    return (column.name, action) :: later

/-- The outcome for a table that exists. The flags and the indexes of the
declaration are not compared, and neither is what is live and not declared. -/
def alteration (options : DiffOptions) (inspector : Inspector) (decl : TableDecl) :
    Except Fault TableDiff := do
  let compared ← compareColumns options inspector decl.name decl.columns
  return {
    table := decl.name
    tableAction := .alter
    changes := compared.filterMap fun (name, action) => action.map fun a => ⟨name, a⟩
    warnings := compared.filterMap fun (name, action) =>
      if action.isNone then some ⟨name, .columnNotLive decl.name⟩ else none }

/-- Compares a declared table with the live schema. Only a table that exists
is looked up. -/
def compare (options : DiffOptions) (inspector : Inspector) (decl : TableDecl)
    (tableExists : Bool) : Except Fault TableDiff :=
  if tableExists then alteration options inspector decl else .ok (creation decl)

/-! ## Reading the outcome -/

/-- The new columns, in declared order. -/
def newColumns (diff : TableDiff) : List ColumnDecl :=
  diff.changes.filterMap fun change =>
    match change.action with
    | .new column => some column
    | _ => none

/-- The modified columns with the type and the nullability they have, in
declared order. -/
def modifiedColumns (diff : TableDiff) : List (ColumnDecl × String × Bool) :=
  diff.changes.filterMap fun change =>
    match change.action with
    | .modified column type nullable => some (column, type, nullable)
    | _ => none

/-- The columns to be removed with the type, when it is not the declared one,
and the nullability they have, in declared order. -/
def droppedColumns (diff : TableDiff) : List (ColumnDecl × Option String × Bool) :=
  diff.changes.filterMap fun change =>
    match change.action with
    | .dropped column type nullable => some (column, type, nullable)
    | _ => none

/-- Whether there is nothing to do: the table exists and no column changes. -/
def isUpToDate (diff : TableDiff) : Bool :=
  diff.tableAction == .alter && diff.changes.all fun change => change.action == .unchanged

end TableDiff

end SchemaPlan
