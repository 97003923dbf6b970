/-!
# Faults

Everything that can go wrong between reading a declaration and storing the
migrations it calls for. A fault says what went wrong and where;
`Fault.message` is the one place where it is put into words. Each of the
broader kinds also has an open form, for a description that comes from
outside.

Problems in one declaration are reported together: `Fault.collect?` turns
the list of them into one fault, and a fault of several has the message of
each on a line of its own.
-/

namespace SchemaPlan

/-- What can be wrong with the text of a declaration. -/
inductive DeclarationProblem where
  /-- There is nothing but blanks. -/
  | empty
  /-- There is no token that could begin with the name of the table. -/
  | noTableName
  /-- The token that begins the table has no name in front. -/
  | blankTableName (token : String)
  /-- The name of the table is no identifier. -/
  | badTableName (name : String)
  /-- A column token has no name in front. -/
  | blankColumnName (token : String)
  /-- The name of a column is no identifier. -/
  | badColumnName (name : String)
  /-- Another problem, in words. -/
  | other (text : String)
deriving DecidableEq, Repr

/-- What can be wrong with an option of a column. -/
inductive OptionProblem where
  /-- The text is no number in range. -/
  | notANumber (text : String)
  /-- An enumeration has no list of values. -/
  | missingValues
  /-- A default is declared without a text. -/
  | missingDefault
  /-- The text is not the name of a referential action. -/
  | unknownAction (text : String)
  /-- Another problem, in words. -/
  | other (text : String)
deriving DecidableEq, Repr

/-- Why a live schema cannot be looked at. -/
inductive InspectionProblem where
  /-- No database is configured. -/
  | offline (table column : String)
  /-- The database is of a kind that cannot be read. -/
  | unsupportedUrl (url : String)
  /-- Another problem, in words. -/
  | other (text : String)
deriving DecidableEq, Repr

/-- Why an operation cannot be carried out on a catalog. -/
inductive ReplayProblem where
  /-- The table is there already. -/
  | tableExists (table : String)
  /-- There is no such table. -/
  | noTable (table : String)
  /-- The column is there already. -/
  | columnExists (column table : String)
  /-- There is no such column. -/
  | noColumn (column table : String)
  /-- The column has a foreign key that was not dropped before. -/
  | hasForeignKey (column table : String)
  /-- The column has no foreign key that could be dropped. -/
  | noForeignKey (column table : String)
  /-- Another problem, in words. -/
  | other (text : String)
deriving DecidableEq, Repr

/-- What can go wrong. -/
inductive Fault where
  /-- The declaration cannot be read. -/
  | invalidDeclaration (problem : DeclarationProblem)
  /-- A column has a kind that is not known. -/
  | invalidKind (column kind : String)
  /-- An option of a column cannot be used. -/
  | invalidOption (column option : String) (problem : OptionProblem)
  /-- The live schema is needed and cannot be looked at. -/
  | inspectionUnavailable (problem : InspectionProblem)
  /-- A column to be removed does not exist. -/
  | missingDrop (table column : String)
  /-- A live type belongs to no kind, so the column could not be put back. -/
  | unrestorableType (column type : String)
  /-- An operation cannot be carried out. -/
  | invalidReplay (problem : ReplayProblem)
  /-- A migration of the same name is stored already. -/
  | migrationExists (path : String)
  /-- The database failed. -/
  | database
  /-- The file system failed. -/
  | io
  /-- A time lies beyond the last one that can be represented. -/
  | timeOutOfRange
  /-- Several things are wrong. -/
  | several (faults : List Fault)

namespace DeclarationProblem

/-- The problem in words. -/
def message : DeclarationProblem → String
  | empty => "schema definition is empty"
  | noTableName => "no table name found"
  | blankTableName token => s!"cannot determine table name from '{token}'"
  | badTableName name => s!"table name '{name}' is not a valid identifier"
  | blankColumnName token => s!"column without a name in '{token}'"
  | badColumnName name => s!"column name '{name}' is not a valid identifier"
  | other text => text

end DeclarationProblem

namespace OptionProblem

/-- The problem in words. -/
def message : OptionProblem → String
  | notANumber text => s!"'{text}' is not a valid number"
  | missingValues => "enum columns require values=a|b|..."
  | missingDefault => "default requires a value"
  | unknownAction text => s!"unknown referential action '{text}'"
  | other text => text

end OptionProblem

namespace InspectionProblem

/-- The problem in words. -/
def message : InspectionProblem → String
  | offline table column => s!"no database configured to inspect '{table}.{column}'"
  | unsupportedUrl url => s!"unsupported database URL '{url}' (only sqlite: is supported)"
  | other text => text

end InspectionProblem

namespace ReplayProblem

/-- The problem in words. -/
def message : ReplayProblem → String
  | tableExists table => s!"Table '{table}' already exists"
  | noTable table => s!"Table '{table}' does not exist"
  | columnExists column table => s!"Column '{column}' already exists in table '{table}'"
  | noColumn column table => s!"Column '{column}' does not exist in table '{table}'"
  | hasForeignKey column table => s!"Column '{column}' in table '{table}' still has a foreign key"
  | noForeignKey column table => s!"Column '{column}' in table '{table}' has no foreign key"
  | other text => text

end ReplayProblem

namespace Fault

mutual

/-- The fault in words. -/
def message : Fault → String
  | invalidDeclaration problem => "Invalid schema: " ++ problem.message
  | invalidKind column kind => s!"Invalid column type '{kind}' for column '{column}'"
  | invalidOption column option problem =>
    s!"Invalid option '{option}' on column '{column}': " ++ problem.message
  | inspectionUnavailable problem => "Schema introspection is unavailable: " ++ problem.message
  | missingDrop table column =>
    s!"Cannot drop column '{column}': it does not exist in table '{table}'"
  | unrestorableType column type => s!"Cannot restore column '{column}' to live type '{type}'"
  | invalidReplay problem => "Invalid schema state: " ++ problem.message
  | migrationExists path => s!"Migration file already exists: {path}"
  | database => "Database error"
  | io => "IO error"
  | timeOutOfRange => "Time out of range"
  | several faults => "Multiple errors occurred:\n" ++ "\n".intercalate (bullets faults)

/-- The messages of several faults, each marked as an item of a list. -/
def bullets : List Fault → List String
  | [] => []
  | fault :: rest => ("  - " ++ message fault) :: bullets rest

end

/-- One fault for a list of them: none for the empty list, the fault itself
when it is the only one, and all of them together otherwise. -/
def collect? : List Fault → Option Fault
  | [] => none
  | [fault] => some fault
  | faults => some (several faults)

end Fault

end SchemaPlan
