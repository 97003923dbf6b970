import SchemaPlan.Declaration.Table
import SchemaPlan.Operation.ColumnSpec

/-!
# Operations

The steps a migration consists of. Each one changes one table, and the
table it changes is not part of it: a list of operations can be carried out
on any table.
-/

namespace SchemaPlan

/-- One step of a migration. The columns that the flags of a table and its
primary key stand for have operations of their own, which carry no
specification. -/
inductive Operation where
  /-- Adds the primary key `id` that counts up. -/
  | id
  /-- Adds a column. -/
  | addColumn (spec : ColumnSpec)
  /-- Changes type and modifiers of a column. -/
  | changeColumn (spec : ColumnSpec)
  /-- Removes a column. -/
  | dropColumn (column : String)
  /-- Removes the foreign key of a column. -/
  | dropForeign (column : String)
  /-- Makes an index over several columns. -/
  | createIndex (index : CompositeIndex)
  /-- Adds a nullable `deleted_at`. -/
  | softDeletes
  /-- Adds `created_at` and `updated_at`. -/
  | timestamps
  /-- Removes the table. -/
  | dropTable
deriving DecidableEq, Repr

namespace Operation

/-- The operation in words. -/
def description : Operation → String
  | id => "Add auto-increment primary key 'id'"
  | addColumn spec => "Add " ++ spec.kind.name ++ " column '" ++ spec.name ++ "'"
  | changeColumn spec => "Change column '" ++ spec.name ++ "' to " ++ spec.kind.name
  | dropColumn column => s!"Drop column '{column}'"
  | dropForeign column => s!"Drop foreign key on '{column}'"
  | createIndex index =>
    "Create " ++ index.kind.keyword ++ " on (" ++ ", ".intercalate index.columns ++ ")"
  | softDeletes => "Add soft delete timestamp"
  | timestamps => "Add timestamps"
  | dropTable => "Drop table"

end Operation

end SchemaPlan
