import SchemaPlan.Declaration.Column

/-!
# Table declarations

A table declaration is a name, columns in the order of their first mention,
two flags for the columns that many tables share, and indexes over several
columns. A column that is declared twice stands where it was first declared
and is as it was last declared.
-/

namespace SchemaPlan

/-- What an index demands of its columns. There are only these two; a primary
key is declared on a column and is no index here. -/
inductive IndexKind where
  /-- No two rows agree in all columns. -/
  | unique
  /-- Nothing; the index only speeds up look-ups. -/
  | plain
deriving DecidableEq, Repr

namespace IndexKind

/-- The word that declares an index of this kind. -/
def keyword : IndexKind → String
  | unique => "unique"
  | plain => "index"

/-- The kind of index that a word declares. The word has to be in small letters
and without blanks. -/
def ofKeyword? (word : String) : Option IndexKind :=
  if word == "unique" then some unique else if word == "index" then some plain else none

/-- The kind as a constant of generated code. -/
def constant (kind : IndexKind) : String :=
  Text.capitalize kind.keyword

end IndexKind

/-- An index over one or more columns. That it has a column, and that the
columns exist, is not checked where it is declared. -/
structure CompositeIndex where
  /-- What the index demands. -/
  kind : IndexKind
  /-- The columns, in the order of the index. -/
  columns : List String
  /-- The name of the index, if it was given one. -/
  name : Option String
deriving DecidableEq, Repr

/-- The flags of a table that add columns to it. They only count for a table
that is created. -/
structure TableFlags where
  /-- The table has a nullable `deleted_at`. -/
  softDeletes : Bool
  /-- The table has `created_at` and `updated_at`. -/
  timestamps : Bool
deriving DecidableEq, Repr

/-- A table as it is declared. Its columns have different names when it was
read from a text, which is what a look-up by name relies on. -/
structure TableDecl where
  /-- The name of the table. -/
  name : String
  /-- The columns, in the order of their first declaration. -/
  columns : List ColumnDecl
  /-- The flags of the table. -/
  flags : TableFlags
  /-- The indexes, in the order of their declaration. -/
  indexes : List CompositeIndex
deriving DecidableEq

namespace TableDecl

/-- A table with a name and nothing else. -/
def empty (name : String) : TableDecl where
  name := name
  columns := []
  flags := ⟨false, false⟩
  indexes := []

/-- Puts a column into a list of columns: in the place of the first one of
its name, or at the end when there is none. -/
def putColumn (column : ColumnDecl) : List ColumnDecl → List ColumnDecl
  | [] => [column]
  | first :: rest =>
    if first.name = column.name then column :: rest else first :: putColumn column rest

/-- The table with a column declared, again or for the first time. -/
def declare (table : TableDecl) (column : ColumnDecl) : TableDecl :=
  { table with columns := putColumn column table.columns }

/-- The column of a given name. -/
def column? (table : TableDecl) (name : String) : Option ColumnDecl :=
  table.columns.find? fun c => c.name == name

/-- The names of the columns, in order. -/
def columnNames (table : TableDecl) : List String :=
  table.columns.map fun c => c.name

end TableDecl

end SchemaPlan
