import SchemaPlan.Declaration.Table

/-!
# Writing a table declaration

The written form of a table declaration: the name of the table, then its
columns, its flags and its indexes, with commas between them. A column is
its name, its kind when that was declared, and its options in the order of
their names, with colons between them. Where names and texts are free of
the separators, reading the written form gives the table back.
-/

namespace SchemaPlan

namespace OptionValue

/-- An option of the given name in this form, as it is written. -/
def written (key : String) : OptionValue → String
  | flag => key
  | value text => key ++ "=" ++ text
  | list items => key ++ "=" ++ "|".intercalate items

end OptionValue

namespace ColumnDecl

/-- The parts of a column between its colons. The part for the kind is there
even if it is empty, so that options are never taken for a kind. -/
def parts (column : ColumnDecl) : List String :=
  column.name :: (if column.kindDeclared then column.kind.name else "") ::
    column.options.entries.map fun (key, value) => value.written key

/-- The column as it is written. -/
def written (column : ColumnDecl) : String :=
  ":".intercalate column.parts

end ColumnDecl

namespace CompositeIndex

/-- The index as it is written. Its name is not. -/
def written (index : CompositeIndex) : String :=
  index.kind.keyword ++ ":" ++ "|".intercalate index.columns

end CompositeIndex

namespace TableFlags

/-- The flags that are set, as they are written. -/
def written (flags : TableFlags) : List String :=
  (if flags.softDeletes then ["softDeletes"] else []) ++
    (if flags.timestamps then ["timestamps"] else [])

end TableFlags

namespace TableDecl

/-- The table as it is written. -/
def written (table : TableDecl) : String :=
  ",".intercalate
    (table.name :: (table.columns.map ColumnDecl.written ++ table.flags.written ++
      table.indexes.map CompositeIndex.written))

end TableDecl

end SchemaPlan
