import SchemaPlan.Declaration.Column
import SchemaPlan.Fault
import SchemaPlan.Operation.ForeignKey
import SchemaPlan.TypeName

/-!
# Column specifications

A specification is everything a database needs to know to make a column. It
is built in one of three ways: step by step from a plain column, from a
declared column whose options are checked on the way, or from a live type
that is to be put back.
-/

namespace SchemaPlan

/-- A full description of a column. What the parts mean for a kind is not
looked at: a text may have a precision, and an enumeration no values. -/
structure ColumnSpec where
  /-- The name of the column. -/
  name : String
  /-- The kind of the column. -/
  kind : ColumnKind
  /-- The length of a text, below 2^32. -/
  length : Option Nat
  /-- The number of digits of a decimal and how many of them are behind the
  point, both below 2^8. -/
  precision : Option (Nat × Nat)
  /-- The values of an enumeration. -/
  values : List String
  /-- Whether the column accepts NULL. -/
  nullable : Bool
  /-- The default, as written. -/
  default : Option String
  /-- Whether negative numbers are excluded. -/
  unsigned : Bool
  /-- Whether the column has an index of its own. -/
  index : Bool
  /-- Whether the values of the column differ. -/
  unique : Bool
  /-- Whether the column is the primary key. -/
  primary : Bool
  /-- The column after which this one stands. -/
  after : Option String
  /-- A comment on the column. -/
  comment : Option String
  /-- The foreign key of the column. -/
  foreign : Option ForeignKey
deriving DecidableEq, Repr

namespace ColumnSpec

/-- The largest length of a text: what an unsigned number of 32 bits can be. -/
def maxLength : Nat := 4294967295

/-- The largest precision and the largest scale of a decimal: what an unsigned
number of 8 bits can be. -/
def maxPrecision : Nat := 255

/-! ## Building step by step -/

/-- A column that does not accept NULL and has nothing else. -/
def new (name : String) (kind : ColumnKind) : ColumnSpec where
  name := name
  kind := kind
  length := none
  precision := none
  values := []
  nullable := false
  default := none
  unsigned := false
  index := false
  unique := false
  primary := false
  after := none
  comment := none
  foreign := none

/-- One step in the building of a column. A step sets one part and leaves the
others, and a later step of its sort takes its place. -/
inductive Modifier where
  /-- Sets the length. -/
  | length (n : Nat)
  /-- Sets precision and scale. -/
  | precision (digits scale : Nat)
  /-- Sets the values of an enumeration. -/
  | values (items : List String)
  /-- Lets the column accept NULL. -/
  | nullable
  /-- Sets the default. -/
  | default (text : String)
  /-- Excludes negative numbers. -/
  | unsigned
  /-- Adds an index. -/
  | index
  /-- Makes the values differ. -/
  | unique
  /-- Makes the column the primary key. -/
  | primary
  /-- Puts the column after another one. -/
  | after (column : String)
  /-- Sets the comment. -/
  | comment (text : String)
  /-- Adds a foreign key without actions, instead of an earlier one. -/
  | constrained (table column : String)
  /-- Sets what a deletion does. Without a foreign key, nothing. -/
  | onDelete (action : ReferentialAction)
  /-- Sets what an update does. Without a foreign key, nothing. -/
  | onUpdate (action : ReferentialAction)
deriving DecidableEq, Repr

/-- The column after one step. -/
def modify (spec : ColumnSpec) : Modifier → ColumnSpec
  | .length n => { spec with length := some n }
  | .precision digits scale => { spec with precision := some (digits, scale) }
  | .values items => { spec with values := items }
  | .nullable => { spec with nullable := true }
  | .default text => { spec with default := some text }
  | .unsigned => { spec with unsigned := true }
  | .index => { spec with index := true }
  | .unique => { spec with unique := true }
  | .primary => { spec with primary := true }
  | .after column => { spec with after := some column }
  | .comment text => { spec with comment := some text }
  | .constrained table column => { spec with foreign := some ⟨table, column, none, none⟩ }
  | .onDelete action =>
    { spec with foreign := spec.foreign.map fun key => { key with onDelete := some action } }
  | .onUpdate action =>
    { spec with foreign := spec.foreign.map fun key => { key with onUpdate := some action } }

/-- The column after several steps, from left to right. -/
def build (name : String) (kind : ColumnKind) (steps : List Modifier) : ColumnSpec :=
  steps.foldl modify (new name kind)

/-- The steps that build a foreign key. -/
def foreignModifiers (key : ForeignKey) : List Modifier :=
  .constrained key.table key.column ::
    ((key.onDelete.map .onDelete).toList ++ (key.onUpdate.map .onUpdate).toList)

/-- The steps that build a column from its name and kind, in a fixed order
and without a step for what a plain column has already. -/
def modifiers (spec : ColumnSpec) : List Modifier :=
  (spec.length.map .length).toList ++
  (spec.precision.map fun (digits, scale) => .precision digits scale).toList ++
  (if spec.values.isEmpty then [] else [.values spec.values]) ++
  (if spec.nullable then [.nullable] else []) ++
  (spec.default.map .default).toList ++
  (if spec.unsigned then [.unsigned] else []) ++
  (if spec.index then [.index] else []) ++
  (if spec.unique then [.unique] else []) ++
  (if spec.primary then [.primary] else []) ++
  (spec.after.map .after).toList ++
  (spec.comment.map .comment).toList ++
  (spec.foreign.map foreignModifiers).getD []

/-! ## From a declared column -/

/-- Reads a number from an option, if the option has a text. A bare flag counts
as no number, and so does an option that is missing. -/
def readNumber (column : ColumnDecl) (option : String) (limit : Nat) :
    Except Fault (Option Nat) :=
  match column.value? option with
  | none => .ok none
  | some text =>
    match Text.readNumber? limit text with
    | some n => .ok (some n)
    | none => .error (.invalidOption column.name option (.notANumber text))

/-- Reads precision and scale, which only a decimal has and only when one of
them is declared; 8 and 2 stand for a missing one. -/
def readPrecision (column : ColumnDecl) : Except Fault (Option (Nat × Nat)) :=
  if column.kind == .decimal && (column.has "precision" || column.has "scale") then do
    let digits ← readNumber column "precision" maxPrecision
    let scale ← readNumber column "scale" maxPrecision
    return some (digits.getD 8, scale.getD 2)
  else
    .ok none

/-- Reads the values of an enumeration, which must have some. For any other
kind the option is not looked at. -/
def readValues (column : ColumnDecl) : Except Fault (List String) :=
  if column.kind == .enum then
    match column.list? "values" with
    | some (first :: rest) => .ok (first :: rest)
    | _ => .error (.invalidOption column.name "values" .missingValues)
  else
    .ok []

/-- Reads the default, which must have a text when it is declared. -/
def readDefault (column : ColumnDecl) : Except Fault (Option String) :=
  match column.value? "default" with
  | some text => .ok (some text)
  | none =>
    if column.has "default" then .error (.invalidOption column.name "default" .missingDefault)
    else .ok none

/-- Reads a referential action from an option, if the option has a text. -/
def readAction (column : ColumnDecl) (option : String) :
    Except Fault (Option ReferentialAction) :=
  match column.value? option with
  | none => .ok none
  | some text =>
    match ReferentialAction.ofText? text with
    | some action => .ok (some action)
    | none => .error (.invalidOption column.name option (.unknownAction text))

/-- Reads the foreign key of a column that refers to another table. The table
is named by `constrained` or `on`, or else derived from the column; the
column is the one named by `references`, or else `id`. -/
def readForeign (column : ColumnDecl) : Except Fault (Option ForeignKey) :=
  if column.isForeignKey then do
    let onDelete ← readAction column "onDelete"
    let onUpdate ← readAction column "onUpdate"
    return some
      { table := ((column.value? "constrained").orElse fun _ => column.value? "on").getD
          (ForeignKey.referencedTable column.name)
        column := (column.value? "references").getD "id"
        onDelete := onDelete
        onUpdate := onUpdate }
  else
    .ok none

/-- The specification of a declared column, or what is wrong with the first
of its options that cannot be used. -/
def ofDecl (column : ColumnDecl) : Except Fault ColumnSpec := do
  let length ← readNumber column "length" maxLength
  let precision ← readPrecision column
  let values ← readValues column
  let default ← readDefault column
  let foreign ← readForeign column
  return {
    name := column.name
    kind := column.kind
    length := length
    precision := precision
    values := values
    nullable := column.isNullable
    default := default
    unsigned := column.isSet "unsigned"
    index := column.isSet "index"
    unique := column.isSet "unique"
    primary := column.isSet "primary"
    after := column.value? "after"
    comment := column.value? "comment"
    foreign := foreign }

/-! ## From a live type -/

/-- A column of the first plain kind stored as the given canonical type. -/
def restore (name type : String) (nullable : Bool) : Except Fault ColumnSpec :=
  match TypeName.kindStoredAs? type with
  | some kind => .ok { new name kind with nullable := nullable }
  | none => .error (.unrestorableType name type)

end ColumnSpec

end SchemaPlan
