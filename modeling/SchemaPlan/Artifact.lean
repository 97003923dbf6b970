import SchemaPlan.Calendar.Instant
import SchemaPlan.Source.Expression

/-!
# Artifacts

An artifact is one generated migration: operations that make a change and
operations that take it back, for one table, with the time it was made. Its
name begins with that time and says what it does to which table; it is the
name of the file the artifact is stored in, so that files in order of their
names are meant to be in order of their making.
-/

namespace SchemaPlan

/-- What an artifact does to its table. No artifact does two of these things,
and a comparison calls for at most one of each kind. -/
inductive ArtifactKind where
  /-- It creates the table. -/
  | create
  /-- It adds columns. -/
  | addColumns
  /-- It changes types or nullability of columns. -/
  | modifyColumns
  /-- It removes columns. -/
  | dropColumns
deriving DecidableEq, Repr

namespace ArtifactKind

/-- The part of a name after the time, for an artifact of this kind. -/
def slug (kind : ArtifactKind) (table : String) : String :=
  match kind with
  | create => "create_" ++ table ++ "_table"
  | addColumns => "add_columns_to_" ++ table ++ "_table"
  | modifyColumns => "modify_columns_in_" ++ table ++ "_table"
  | dropColumns => "drop_columns_from_" ++ table ++ "_table"

end ArtifactKind

/-- A generated migration. The operations do not name their table, so the
artifact has to; what the two lists have to do with each other is left open
here. -/
structure Artifact where
  /-- What it does. -/
  kind : ArtifactKind
  /-- The table it changes. -/
  table : String
  /-- When it was made. -/
  createdAt : Instant
  /-- The operations that make the change. -/
  forward : List Operation
  /-- The operations that take the change back. -/
  inverse : List Operation
deriving DecidableEq

namespace Artifact

/-- The part of the name after the time. -/
def slug (artifact : Artifact) : String :=
  artifact.kind.slug artifact.table

/-- The name of the artifact. -/
def name (artifact : Artifact) : String :=
  artifact.createdAt.stamp ++ "_" ++ artifact.slug

end Artifact

end SchemaPlan
