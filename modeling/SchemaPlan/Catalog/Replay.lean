import SchemaPlan.Artifact
import SchemaPlan.Catalog.Basic

/-!
# Replaying migrations

What operations do to a live schema. An operation is a sequence of edits,
each of which either changes the table or fails and leaves it as it is; the
edits of an operation, the operations of a list and with them whole
artifacts are carried out one after the other up to the first that fails,
and what was done before stays done.

Adding a column needs a name that is free. A column can only be removed once
its foreign key is dropped, and a foreign key only be dropped where there is
one. An index makes nothing that a catalog records, but its columns must
exist.
-/

namespace SchemaPlan

/-- Takes steps one after the other, up to the first that fails: the state
that was reached, and the failure if there was one. A step that fails may
have changed the state. -/
def runUntilFault {σ α ε : Type} (step : σ → α → σ × Option ε) : σ → List α → σ × Option ε
  | s, [] => (s, none)
  | s, a :: rest =>
    match step s a with
    | (next, none) => runUntilFault step next rest
    | (next, some e) => (next, some e)

/-- A failure in the first of two lists of steps is that of both; otherwise
the second list goes on where the first ends. -/
theorem runUntilFault_append {σ α ε : Type} (step : σ → α → σ × Option ε) (s : σ)
    (first later : List α) :
    runUntilFault step s (first ++ later) =
      match runUntilFault step s first with
      | (next, none) => runUntilFault step next later
      | (next, some e) => (next, some e) := by
  induction first generalizing s with
  | nil => rfl
  | cons a rest ih =>
    rw [List.cons_append, runUntilFault, runUntilFault]
    rcases step s a with ⟨next, _ | e⟩
    · exact ih next
    · rfl

/-- A change of one table that is made as a whole or not at all. An operation
may take several edits, and it can fail between them. -/
inductive Edit where
  /-- Adds a column at the end. -/
  | add (column : LiveColumn)
  /-- Changes the type of a column and whether it accepts NULL. -/
  | retype (column type : String) (nullable : Bool)
  /-- Removes a column. -/
  | remove (column : String)
  /-- Removes the foreign key of a column. -/
  | release (column : String)
  /-- Changes nothing, and needs a column to exist. -/
  | require (column : String)
deriving DecidableEq, Repr

namespace LiveColumn

/-- The live column that a specification makes. Its type is the canonical name
of the type that the kind is stored as; a length or a default leaves no trace.
-/
def ofSpec (spec : ColumnSpec) : LiveColumn where
  name := spec.name
  type := TypeName.storage spec.kind
  nullable := spec.nullable
  foreign := spec.foreign

/-- The column that the primary key operation makes. It is always called `id`,
whatever the table is called. -/
def key : LiveColumn where
  name := "id"
  type := "bigint"
  nullable := false
  foreign := none

/-- A column that records a time. It accepts NULL, so that rows from before it
was added need no time. -/
def time (name : String) : LiveColumn where
  name := name
  type := "timestamp"
  nullable := true
  foreign := none

end LiveColumn

namespace Operation

/-- The edits of an operation on the columns of a table. Removing the table
is no edit of its columns. -/
def edits : Operation → List Edit
  | id => [.add .key]
  | addColumn spec => [.add (.ofSpec spec)]
  | changeColumn spec => [.retype spec.name (TypeName.storage spec.kind) spec.nullable]
  | dropColumn column => [.remove column]
  | dropForeign column => [.release column]
  | createIndex index => index.columns.map .require
  | softDeletes => [.add (.time "deleted_at")]
  | timestamps => [.add (.time "created_at"), .add (.time "updated_at")]
  | dropTable => []

end Operation

namespace LiveTable

/-- Changes the first column of a given name, which is the one that a look-up
finds, and leaves the others where they are. -/
def changeFirst (name : String) (change : LiveColumn → LiveColumn) :
    List LiveColumn → List LiveColumn
  | [] => []
  | first :: rest =>
    if first.name = name then change first :: rest else first :: changeFirst name change rest

/-- Carries out one edit. A name that is taken, or not there, is the only thing
that can be wrong with it, apart from a foreign key that is in the way or
missing. -/
def edit (table : LiveTable) : Edit → Except ReplayProblem LiveTable
  | .add column =>
    match table.column? column.name with
    | some _ => .error (.columnExists column.name table.name)
    | none => .ok { table with columns := table.columns ++ [column] }
  | .retype name type nullable =>
    match table.column? name with
    | none => .error (.noColumn name table.name)
    | some _ =>
      let change := fun c : LiveColumn => { c with type := type, nullable := nullable }
      .ok { table with columns := changeFirst name change table.columns }
  | .remove name =>
    match table.column? name with
    | none => .error (.noColumn name table.name)
    | some column =>
      if column.foreign.isSome then .error (.hasForeignKey name table.name)
      else .ok { table with columns := table.columns.filter fun c => c.name != name }
  | .release name =>
    match table.column? name with
    | none => .error (.noColumn name table.name)
    | some column =>
      if column.foreign.isSome then
        let change := fun c : LiveColumn => { c with foreign := none }
        .ok { table with columns := changeFirst name change table.columns }
      else .error (.noForeignKey name table.name)
  | .require name =>
    match table.column? name with
    | none => .error (.noColumn name table.name)
    | some _ => .ok table

/-- The table after an edit, unchanged when the edit fails, and the failure. -/
def editOrKeep (table : LiveTable) (e : Edit) : LiveTable × Option ReplayProblem :=
  match table.edit e with
  | .ok changed => (changed, none)
  | .error problem => (table, some problem)

/-- Carries out edits, up to the first that fails. Those before it stay done,
and the table is given as they left it. -/
def editAll (table : LiveTable) (edits : List Edit) : LiveTable × Option ReplayProblem :=
  runUntilFault editOrKeep table edits

end LiveTable

namespace Catalog

/-- Carries out an operation on the table of a given name. The result is the
schema as far as it was changed, and what stopped the change. -/
def apply (catalog : Catalog) (table : String) (operation : Operation) :
    Catalog × Option ReplayProblem :=
  match catalog.table? table with
  | none => (catalog, some (.noTable table))
  | some found =>
    if operation = .dropTable then (catalog.erase table, none)
    else
      let (changed, problem) := found.editAll operation.edits
      (catalog.put changed, problem)

/-- Carries out operations on one table, up to the first that fails. -/
def applyAll (catalog : Catalog) (table : String) (operations : List Operation) :
    Catalog × Option ReplayProblem :=
  runUntilFault (fun c operation => c.apply table operation) catalog operations

/-- Makes the change of an artifact. One that creates its table begins with
an empty table of that name. -/
def applyArtifact (catalog : Catalog) (artifact : Artifact) :
    Catalog × Option ReplayProblem :=
  if artifact.kind = .create then
    match catalog.table? artifact.table with
    | some _ => (catalog, some (.tableExists artifact.table))
    | none => (catalog.put ⟨artifact.table, []⟩).applyAll artifact.table artifact.forward
  else
    catalog.applyAll artifact.table artifact.forward

/-- Takes the change of an artifact back. The inverse operations are carried
out like any others, whether or not the change was ever made. -/
def revertArtifact (catalog : Catalog) (artifact : Artifact) :
    Catalog × Option ReplayProblem :=
  catalog.applyAll artifact.table artifact.inverse

/-- Makes the changes of artifacts in order, up to the first that fails. -/
def applyArtifacts (catalog : Catalog) (artifacts : List Artifact) :
    Catalog × Option ReplayProblem :=
  runUntilFault applyArtifact catalog artifacts

end Catalog

end SchemaPlan
