import SchemaPlan.Artifact
import SchemaPlan.TableDiff

/-!
# The artifacts of a comparison

A comparison calls for at most one artifact of each kind: one that creates
the table, or else up to three that add, modify and drop columns, in this
order. What the forward operations of an artifact do, the inverse ones take
back. A dropped column is put back with the type and the nullability it has
in the live schema and not with those declared for it, but keeps its
declared default, comment and foreign key.

The options of every column are checked before any artifact is made. The
artifacts of one comparison are made one second apart, so that the order of
their names should be the order in which they are to be applied.
-/

namespace SchemaPlan

/-- An artifact that is not yet given a table and a time. All bodies of a
comparison are made before the first of them is dated, so a fault in one leaves
no artifact at all. -/
structure ArtifactBody where
  /-- What the artifact does. -/
  kind : ArtifactKind
  /-- The operations that make the change. -/
  forward : List Operation
  /-- The operations that take the change back. -/
  inverse : List Operation
deriving DecidableEq, Repr

namespace ColumnSpec

/-- The operations that remove a column; its foreign key goes first. -/
def removal (spec : ColumnSpec) : List Operation :=
  (if spec.foreign.isSome then [.dropForeign spec.name] else []) ++ [.dropColumn spec.name]

/-- The column to put back for a declared one that is removed, given the live
type, when it is not the declared one, and the live nullability. -/
def restoreDropped (declared : ColumnSpec) (type : Option String) (nullable : Bool) :
    Except Fault ColumnSpec :=
  match type with
  | none => .ok { declared with nullable := nullable }
  | some liveType => do
    let restored ← restore declared.name liveType nullable
    return { restored with
      default := declared.default
      comment := declared.comment
      foreign := declared.foreign }

end ColumnSpec

namespace TableDiff

/-- Makes the body of an artifact, unless it would do nothing. Whether it would
is decided by the forward operations alone. -/
def bodyOf (kind : ArtifactKind) (forward inverse : List Operation) : List ArtifactBody :=
  if forward.isEmpty then [] else [⟨kind, forward, inverse⟩]

/-- The body that creates the table: the primary key, the new columns, the
indexes of the declaration, and the columns of its flags. -/
def creationBody (diff : TableDiff) (decl : TableDecl) (implicitKey : Bool) :
    Except Fault ArtifactBody := do
  let specs ← diff.newColumns.mapM ColumnSpec.ofDecl
  return {
    kind := .create
    forward :=
      (if implicitKey then [.id] else []) ++ specs.map .addColumn ++
      decl.indexes.map .createIndex ++
      (if decl.flags.softDeletes then [.softDeletes] else []) ++
      (if decl.flags.timestamps then [.timestamps] else [])
    inverse := [.dropTable] }

/-- The body that adds the new columns, if there are any. Its inverse removes
them in the same order, each after its foreign key. -/
def additionBody (diff : TableDiff) : Except Fault (List ArtifactBody) := do
  let specs ← diff.newColumns.mapM ColumnSpec.ofDecl
  return bodyOf .addColumns (specs.map .addColumn) (specs.flatMap ColumnSpec.removal)

/-- The column to change a modified column to, and the one to change it back
to. -/
def modification (column : ColumnDecl) (type : String) (nullable : Bool) :
    Except Fault (ColumnSpec × ColumnSpec) := do
  let declared ← ColumnSpec.ofDecl column
  let previous ← ColumnSpec.restore column.name type nullable
  return (declared, previous)

/-- The body that changes the modified columns, if there are any. To change a
column back its live type has to belong to a kind. -/
def modificationBody (diff : TableDiff) : Except Fault (List ArtifactBody) := do
  let pairs ← diff.modifiedColumns.mapM fun (column, type, nullable) =>
    modification column type nullable
  return bodyOf .modifyColumns (pairs.map fun (declared, _) => .changeColumn declared)
    (pairs.map fun (_, previous) => .changeColumn previous)

/-- The column to remove for a dropped column, and the one to put back. -/
def replacement (column : ColumnDecl) (type : Option String) (nullable : Bool) :
    Except Fault (ColumnSpec × ColumnSpec) := do
  let declared ← ColumnSpec.ofDecl column
  let previous ← declared.restoreDropped type nullable
  return (declared, previous)

/-- The body that removes the dropped columns, if there are any. The inverse
puts them back at the end of the table, wherever they stood. -/
def removalBody (diff : TableDiff) : Except Fault (List ArtifactBody) := do
  let pairs ← diff.droppedColumns.mapM fun (column, type, nullable) =>
    replacement column type nullable
  return bodyOf .dropColumns (pairs.flatMap fun (declared, _) => declared.removal)
    (pairs.map fun (_, previous) => .addColumn previous)

/-- The bodies of all artifacts that the comparison calls for, in order. -/
def bodies (diff : TableDiff) (decl : TableDecl) : Except Fault (List ArtifactBody) :=
  match diff.tableAction with
  | .create implicitKey => do
    let creation ← diff.creationBody decl implicitKey
    return [creation]
  | .alter => do
    let added ← diff.additionBody
    let modified ← diff.modificationBody
    let removed ← diff.removalBody
    return added ++ modified ++ removed

/-- Gives bodies their table and their times: the first is made so many
seconds after the given time, and each later one a second after the one
before. -/
def dated (table : String) (now : Instant) (seconds : Nat) :
    List ArtifactBody → Except Fault (List Artifact)
  | [] => .ok []
  | body :: rest =>
    match now.later? seconds with
    | none => .error .timeOutOfRange
    | some time => do
      let later ← dated table now (seconds + 1) rest
      return ⟨body.kind, table, time, body.forward, body.inverse⟩ :: later

/-- The artifacts that the comparison of a declaration calls for, the first of
them made at the given time. -/
def artifacts (diff : TableDiff) (decl : TableDecl) (now : Instant) :
    Except Fault (List Artifact) := do
  let bodies ← diff.bodies decl
  dated diff.table now 0 bodies

end TableDiff

end SchemaPlan
