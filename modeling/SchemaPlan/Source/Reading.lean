import SchemaPlan.Source.Expression

/-!
# Reading operations back from source

The other direction of `SchemaPlan.Source.Expression`. Reading has two
steps: the characters of an expression give its structure, in which string
literals are already decoded, and the structure is evaluated, the calls on a
column from left to right as they stand. Nothing here looks at how
operations are written, so that an operation is read back says that its
source means this operation and no other.

Each reader gives what it read and the characters after it. Those that read
any number of items take fuel, one unit for each item.
-/

namespace SchemaPlan

/-! ## From characters to expressions -/

/-- Whether a character can be part of a path of names. -/
def isPathChar (c : Char) : Bool :=
  c.isAlphanum || c == '_' || c == ':'

/-- Reads a path of names, which may be empty. -/
def readPath (cs : List Char) : String × List Char :=
  (String.ofList (cs.takeWhile isPathChar), cs.dropWhile isPathChar)

/-- Reads string literals between commas up to a closing bracket. -/
def readTexts? : Nat → List Char → Option (List String × List Char)
  | 0, _ => none
  | _ + 1, ']' :: rest => some ([], rest)
  | fuel + 1, '"' :: cs =>
    match Text.decodeChars? cs with
    | some (s, ']' :: rest) => some ([String.ofList s], rest)
    | some (s, ',' :: ' ' :: rest) =>
      (readTexts? fuel rest).map fun (items, after) => (String.ofList s :: items, after)
    | _ => none
  | _ + 1, _ => none

/-- Reads an argument that begins with a path: a constant, or a text that may
be missing. -/
def readNamedArgument? (cs : List Char) : Option (Argument × List Char) :=
  match readPath cs with
  | ("None", rest) => some (.optionalText none, rest)
  | ("Some", '(' :: '"' :: rest) =>
    match Text.decodeChars? rest with
    | some (s, ')' :: after) => some (.optionalText (some (String.ofList s)), after)
    | _ => none
  | (path, rest) => if path.isEmpty then none else some (.constant path, rest)

/-- Reads an argument of a call. -/
def readArgument? (cs : List Char) : Option (Argument × List Char) :=
  match cs with
  | '"' :: rest =>
    (Text.decodeChars? rest).map fun (s, after) => (.text (String.ofList s), after)
  | '[' :: rest =>
    (readTexts? (rest.length + 1) rest).map fun (items, after) => (.texts items, after)
  | '&' :: '[' :: rest =>
    (readTexts? (rest.length + 1) rest).map fun (items, after) => (.borrowedTexts items, after)
  | c :: _ =>
    if c.isDigit then
      some (.number (Text.digitsValue (cs.takeWhile Char.isDigit)), cs.dropWhile Char.isDigit)
    else
      readNamedArgument? cs
  | [] => none

/-- Reads arguments between commas up to a closing bracket. -/
def readArguments? : Nat → List Char → Option (List Argument × List Char)
  | 0, _ => none
  | _ + 1, ')' :: rest => some ([], rest)
  | fuel + 1, cs =>
    match readArgument? cs with
    | some (argument, ')' :: rest) => some ([argument], rest)
    | some (argument, ',' :: ' ' :: rest) =>
      (readArguments? fuel rest).map fun (arguments, after) => (argument :: arguments, after)
    | _ => none

/-- Reads a call. -/
def readCall? (cs : List Char) : Option (Call × List Char) :=
  match readPath cs with
  | (function, '(' :: rest) =>
    (readArguments? (rest.length + 1) rest).map fun (arguments, after) =>
      (⟨function, arguments⟩, after)
  | _ => none

/-- Reads calls of methods, each after a point, as many as there are. -/
def readMethods? : Nat → List Char → Option (List Call × List Char)
  | fuel + 1, '.' :: cs => do
    let (method, rest) ← readCall? cs
    let (methods, after) ← readMethods? fuel rest
    return (method :: methods, after)
  | 0, '.' :: _ => none
  | _, cs => some ([], cs)

/-- Reads a call whose argument is a call followed by calls of methods, after
its opening bracket. -/
def readChain? (function : String) (cs : List Char) : Option (Expression × List Char) := do
  let (first, rest) ← readCall? cs
  match ← readMethods? rest.length rest with
  | (methods, ')' :: after) => return (.chain function first methods, after)
  | _ => none

/-- Reads an expression. -/
def Expression.readChars? (cs : List Char) : Option (Expression × List Char) :=
  match readPath cs with
  | (function, '(' :: rest) =>
    match readChain? function rest with
    | some result => some result
    | none => (readCall? cs).map fun (c, after) => (.call c, after)
  | (path, rest) => if path.isEmpty then none else some (.constant path, rest)

/-- The expression that a text is, if it is one from beginning to end. -/
def Expression.read? (s : String) : Option Expression :=
  match readChars? s.toList with
  | some (expression, []) => some expression
  | _ => none

/-! ## From expressions to operations -/

/-- The kind of column that a constant denotes. -/
def ColumnKind.ofConstant? (path : String) : Option ColumnKind :=
  ColumnKind.all.find? fun kind => "ColumnType::" ++ kind.constant == path

/-- The referential action that a constant denotes. -/
def ReferentialAction.ofConstant? (path : String) : Option ReferentialAction :=
  ReferentialAction.all.find? fun action => "ForeignKeyAction::" ++ action.constant == path

/-- The kind of index that a constant denotes. -/
def IndexKind.ofConstant? (path : String) : Option IndexKind :=
  [IndexKind.unique, .plain].find? fun kind => "IndexKind::" ++ kind.constant == path

namespace ColumnSpec

/-- What the call of a method does to a column. -/
def Modifier.ofCall? (method : Call) : Option Modifier :=
  match method.function, method.arguments with
  | "length", [.number n] => some (.length n)
  | "precision", [.number digits, .number scale] => some (.precision digits scale)
  | "values", [.texts items] => some (.values items)
  | "nullable", [] => some .nullable
  | "default", [.text text] => some (.default text)
  | "unsigned", [] => some .unsigned
  | "index", [] => some .index
  | "unique", [] => some .unique
  | "primary", [] => some .primary
  | "after", [.text column] => some (.after column)
  | "comment", [.text text] => some (.comment text)
  | "constrained", [.text table, .text column] => some (.constrained table column)
  | "on_delete", [.constant path] => (ReferentialAction.ofConstant? path).map .onDelete
  | "on_update", [.constant path] => (ReferentialAction.ofConstant? path).map .onUpdate
  | _, _ => none

/-- The column that a call and the calls of methods after it build. -/
def ofCalls? (first : Call) (methods : List Call) : Option ColumnSpec :=
  match first with
  | ⟨"ColumnSpec::new", [.text name, .constant path]⟩ => do
    let kind ← ColumnKind.ofConstant? path
    let steps ← methods.mapM Modifier.ofCall?
    return build name kind steps
  | _ => none

end ColumnSpec

namespace Operation

/-- The operation that an expression builds. -/
def ofExpression? : Expression → Option Operation
  | .constant "BlueprintOp::SoftDeletes" => some softDeletes
  | .constant "BlueprintOp::Timestamps" => some timestamps
  | .constant "BlueprintOp::DropTable" => some dropTable
  | .call ⟨"BlueprintOp::id", []⟩ => some id
  | .call ⟨"BlueprintOp::drop_column", [.text column]⟩ => some (dropColumn column)
  | .call ⟨"BlueprintOp::drop_foreign", [.text column]⟩ => some (dropForeign column)
  | .call ⟨"BlueprintOp::composite_index", [.constant path, .borrowedTexts columns,
      .optionalText name]⟩ =>
    (IndexKind.ofConstant? path).map fun kind => createIndex ⟨kind, columns, name⟩
  | .chain "BlueprintOp::add_column" first methods =>
    (ColumnSpec.ofCalls? first methods).map addColumn
  | .chain "BlueprintOp::change_column" first methods =>
    (ColumnSpec.ofCalls? first methods).map changeColumn
  | _ => none

/-- The operation that a text builds, if it is an expression for one. -/
def read? (s : String) : Option Operation :=
  (Expression.read? s).bind ofExpression?

end Operation

end SchemaPlan
