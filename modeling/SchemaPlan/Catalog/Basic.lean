import SchemaPlan.Operation.ForeignKey

/-!
# Live schemas

A catalog is a live schema held in memory: its tables in the order in which
they appeared, and the columns of each. A live column has the type text that
the database reports for it, or a canonical name once an operation has made
it, and it may or may not carry a foreign key.
-/

namespace SchemaPlan

/-- A column of a live table. This is all that a comparison or a replay looks
at: a default, a length or an index of a live column is not recorded. -/
structure LiveColumn where
  /-- The name of the column. -/
  name : String
  /-- The type of the column, as reported or as made. -/
  type : String
  /-- Whether the column accepts NULL. -/
  nullable : Bool
  /-- The foreign key of the column, if it has one. -/
  foreign : Option ForeignKey
deriving DecidableEq, Repr

/-- A live table. Nothing here keeps two of its columns from having one name;
that they do not is an invariant of replaying. -/
structure LiveTable where
  /-- The name of the table. -/
  name : String
  /-- The columns, in order. -/
  columns : List LiveColumn
deriving DecidableEq, Repr

namespace LiveTable

/-- The column of a given name. -/
def column? (table : LiveTable) (name : String) : Option LiveColumn :=
  table.columns.find? fun c => c.name == name

end LiveTable

/-- A live schema. As for columns, that no two tables have one name is an
invariant and not part of the type. -/
structure Catalog where
  /-- The tables, in the order in which they appeared. -/
  tables : List LiveTable
deriving DecidableEq, Repr

namespace Catalog

/-- A schema without tables. -/
def empty : Catalog where
  tables := []

/-- The table of a given name, the first one if there are several. Names are
compared letter by letter, their case included. -/
def table? (catalog : Catalog) (name : String) : Option LiveTable :=
  catalog.tables.find? fun t => t.name == name

/-- The column of a given name in the table of a given name. -/
def column? (catalog : Catalog) (table column : String) : Option LiveColumn :=
  (catalog.table? table).bind fun t => t.column? column

/-- Puts a table into a list of tables: in the place of the first one of its
name, or at the end when there is none. -/
def putTable (table : LiveTable) : List LiveTable → List LiveTable
  | [] => [table]
  | first :: rest =>
    if first.name = table.name then table :: rest else first :: putTable table rest

/-- The schema with a table added, or replaced where one of its name is. -/
def put (catalog : Catalog) (table : LiveTable) : Catalog where
  tables := putTable table catalog.tables

/-- The schema without the tables of a given name. -/
def erase (catalog : Catalog) (name : String) : Catalog where
  tables := catalog.tables.filter fun t => t.name != name

/-! ## What the operations do to a look-up -/

/-- What was put is found. The table takes the place of the first one of its
name, and that is the one that a look-up finds. -/
@[simp] theorem find?_putTable_self (table : LiveTable) (tables : List LiveTable) :
    (putTable table tables).find? (fun t => t.name == table.name) = some table := by
  induction tables with
  | nil => simp [putTable]
  | cons first rest ih =>
    rw [putTable]
    split
    · simp
    · rename_i different
      simp [different, ih]

theorem find?_putTable_of_ne {table : LiveTable} {name : String} (h : name ≠ table.name)
    (tables : List LiveTable) :
    (putTable table tables).find? (fun t => t.name == name) =
      tables.find? (fun t => t.name == name) := by
  have different : ¬ table.name = name := fun h' => h h'.symm
  induction tables with
  | nil => simp [putTable, different]
  | cons first rest ih =>
    rw [putTable]
    split
    · rename_i same
      simp [different, same]
    · rw [List.find?_cons, List.find?_cons, ih]

/-- **A table that was put is found under its name**, and by the next statement
every other table as before. -/
@[simp] theorem table?_put_self (catalog : Catalog) (table : LiveTable) :
    (catalog.put table).table? table.name = some table :=
  find?_putTable_self table catalog.tables

@[simp] theorem table?_put_of_ne (catalog : Catalog) {table : LiveTable} {name : String}
    (h : name ≠ table.name) : (catalog.put table).table? name = catalog.table? name :=
  find?_putTable_of_ne h catalog.tables

/-- A table that was erased is not found any more, even if several of its name
were there. -/
@[simp] theorem table?_erase_self (catalog : Catalog) (name : String) :
    (catalog.erase name).table? name = none := by
  simp [erase, table?]

@[simp] theorem table?_erase_of_ne (catalog : Catalog) {name other : String} (h : other ≠ name) :
    (catalog.erase name).table? other = catalog.table? other := by
  simp only [erase, table?, List.find?_filter]
  congr 1
  funext t
  by_cases same : t.name = other
  · simp [same, h]
  · simp [same]

end Catalog

end SchemaPlan
