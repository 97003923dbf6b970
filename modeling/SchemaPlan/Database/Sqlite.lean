import SchemaPlan.Catalog.Basic

/-!
# SQLite databases

What is read of the schema of a SQLite database. It is read with two queries:
one lists the entries of the schema, tables and other things, the other one the
columns of a table. What their rows say is up to SQLite and not decided here. A
column that is computed has no row, for instance, and whether a column of a
primary key excludes NULL depends on what sort of table it is in. A database is
therefore given by the rows of these queries (`Sqlite.Database`).

Of the entries, the tables are shown whose names do not match the pattern
`sqlite_%`, in which `_` is any one character and `%` any text, ASCII case
ignored. They come in order of their names, and the columns of each in order of
their places in the table.

For the tables that a plain statement creates, with ordinary columns, rows and
types, it is known what the rows of the queries are
(`Sqlite.Database.ofObjects`). Types are shown as they were written, except that
the six names that SQLite knows by itself are shown in capitals, and every column
may hold NULL that is not declared otherwise.
-/

namespace SchemaPlan.Sqlite

/-! ## The rows of a database -/

/-- An entry of the schema. Tables, indexes, views and triggers all have one,
and SQLite makes some of its own. -/
structure SchemaEntry where
  /-- What the entry is: a table is a `table`. -/
  type : String
  /-- The name of the entry. -/
  name : String
deriving DecidableEq, Repr

/-- What is listed of a column. A default and a place in the primary key are
listed as well, and not read. -/
structure ColumnInfo where
  /-- The place of the column in its table. -/
  place : Nat
  /-- The name of the column. -/
  name : String
  /-- The type of the column as it is shown; it may be empty. -/
  type : String
  /-- Zero if the column may hold NULL. -/
  notNull : Int
deriving DecidableEq, Repr

/-- **A database**, as the queries show it. -/
structure Database where
  /-- The entries of the schema. -/
  entries : List SchemaEntry
  /-- The columns that are listed for a table. -/
  columnInfo : String → List ColumnInfo

/-! ## What is read of it -/

/-- Whether a text matches a pattern, in which `%` stands for any text and `_`
for any one character, and ASCII case does not matter. -/
def matchesPattern : List Char → List Char → Bool
  | [], cs => cs.isEmpty
  | p :: pattern, cs =>
    if p = '%' then (List.range (cs.length + 1)).any fun n => matchesPattern pattern (cs.drop n)
    else
      match cs with
      | [] => false
      | c :: rest => (p = '_' || p.toLower == c.toLower) && matchesPattern pattern rest

/-- Whether a table of the given name is shown. The pattern is meant to leave
out the names that SQLite keeps to itself. -/
def isShown (name : String) : Bool :=
  !matchesPattern "sqlite_%".toList name.toList

/-- The names of the tables that are shown, in order. Texts compare by their
code points, and so do their octets. -/
def tableNames (db : Database) : List String :=
  ((db.entries.filter fun entry => entry.type == "table" && isShown entry.name).map
    fun entry => entry.name).mergeSort fun a b => a ≤ b

/-- The live column that a row tells of. Foreign keys are not read, so it has
none. -/
def ColumnInfo.live (info : ColumnInfo) : LiveColumn :=
  ⟨info.name, info.type, info.notNull == 0, none⟩

/-- The columns of a table, in the order of their places. -/
def columns (db : Database) (table : String) : List LiveColumn :=
  ((db.columnInfo table).mergeSort fun a b => a.place ≤ b.place).map ColumnInfo.live

/-- The schema that the database shows. Tables are put in one by one, so of two
with one name the later would replace the earlier. -/
def snapshot (db : Database) : Catalog :=
  (tableNames db).foldl (fun catalog name => catalog.put ⟨name, columns db name⟩) .empty

/-! ## Plain tables and views -/

/-- A column of a table, as declared. -/
structure Column where
  /-- The name of the column. -/
  name : String
  /-- The type of the column as written; it may be empty. -/
  type : String
  /-- Whether NULL is excluded. -/
  notNull : Bool
deriving DecidableEq, Repr

/-- What a statement creates that has a name. -/
inductive Object where
  /-- A table with ordinary columns and rows. -/
  | table (name : String) (columns : List Column)
  /-- A view. -/
  | view (name : String)
deriving DecidableEq, Repr

/-- The type names that are shown in capitals. -/
def standardTypes : List String :=
  ["any", "blob", "int", "integer", "real", "text"]

/-- The type of a column as it is shown: one of the names that SQLite knows by
itself in capitals, and any other as it was written. -/
def shownType (type : String) : String :=
  if standardTypes.contains (String.ofList (type.toList.map Char.toLower)) then
    String.ofList (type.toList.map Char.toUpper)
  else
    type

/-- What is listed of a column at a place. -/
def Column.info (place : Nat) (column : Column) : ColumnInfo :=
  ⟨place, column.name, shownType column.type, if column.notNull then 1 else 0⟩

namespace Object

/-- The entry of an object in the schema. -/
def entry : Object → SchemaEntry
  | table name _ => ⟨"table", name⟩
  | view name => ⟨"view", name⟩

/-- What is listed of the columns of a table, if the object is the table. -/
def columnInfo? (name : String) : Object → Option (List ColumnInfo)
  | table other columns => if other = name then some (columns.mapIdx Column.info) else none
  | view _ => none

end Object

/-- The database in which the objects were created. -/
def Database.ofObjects (objects : List Object) : Database where
  entries := objects.map Object.entry
  columnInfo name := (objects.findSome? (Object.columnInfo? name)).getD []

/-- The objects of a database stand for it. -/
instance : Coe (List Object) Database :=
  ⟨Database.ofObjects⟩

end SchemaPlan.Sqlite
