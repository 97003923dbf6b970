import SchemaPlan.Operation.Basic
import SchemaPlan.Text.Literal

/-!
# Operations as expressions

Generated code builds each operation by an expression: a constant, a call,
or a call around a chain of calls that builds a column. The chain holds one
call per modifier of the column, always in the order of
`ColumnSpec.modifiers`, so the same operation is always written the same
way.

The expression is a value of its own here. `Operation.expression` says which
expression builds an operation, `Expression.render` how an expression is
written.
-/

namespace SchemaPlan

/-- An argument of a call, of one of the forms that occur in generated code. -/
inductive Argument where
  /-- A string literal. -/
  | text (s : String)
  /-- A number. -/
  | number (n : Nat)
  /-- A constant. -/
  | constant (path : String)
  /-- A list of string literals. -/
  | texts (items : List String)
  /-- A list of string literals that is only lent to the call. -/
  | borrowedTexts (items : List String)
  /-- A string literal that may be missing. -/
  | optionalText (s : Option String)
deriving DecidableEq, Repr

/-- A call of a function or a method. What a method is called on is not part of
it. -/
structure Call where
  /-- The function or method. -/
  function : String
  /-- The arguments, in order. -/
  arguments : List Argument
deriving DecidableEq, Repr

/-- An expression that builds an operation. These three forms are all that is
needed, and each operation has one of them. -/
inductive Expression where
  /-- A constant. -/
  | constant (path : String)
  /-- A call. -/
  | call (call : Call)
  /-- A call whose only argument is a call followed by calls of methods. -/
  | chain (function : String) (first : Call) (methods : List Call)
deriving DecidableEq, Repr

/-! ## The expression of an operation -/

namespace ReferentialAction

/-- The action as an argument. -/
def argument (action : ReferentialAction) : Argument :=
  .constant ("ForeignKeyAction::" ++ action.constant)

end ReferentialAction

namespace ColumnSpec

/-- The call that begins the building of a column. -/
def newCall (spec : ColumnSpec) : Call :=
  ⟨"ColumnSpec::new", [.text spec.name, .constant ("ColumnType::" ++ spec.kind.constant)]⟩

/-- The call of the method for a modifier. -/
def Modifier.call : Modifier → Call
  | .length n => ⟨"length", [.number n]⟩
  | .precision digits scale => ⟨"precision", [.number digits, .number scale]⟩
  | .values items => ⟨"values", [.texts items]⟩
  | .nullable => ⟨"nullable", []⟩
  | .default text => ⟨"default", [.text text]⟩
  | .unsigned => ⟨"unsigned", []⟩
  | .index => ⟨"index", []⟩
  | .unique => ⟨"unique", []⟩
  | .primary => ⟨"primary", []⟩
  | .after column => ⟨"after", [.text column]⟩
  | .comment text => ⟨"comment", [.text text]⟩
  | .constrained table column => ⟨"constrained", [.text table, .text column]⟩
  | .onDelete action => ⟨"on_delete", [action.argument]⟩
  | .onUpdate action => ⟨"on_update", [action.argument]⟩

/-- The calls of the methods that build a column, in the order of its
modifiers. -/
def methodCalls (spec : ColumnSpec) : List Call :=
  spec.modifiers.map Modifier.call

end ColumnSpec

namespace CompositeIndex

/-- The call that builds an index. -/
def call (index : CompositeIndex) : Call :=
  ⟨"BlueprintOp::composite_index",
    [.constant ("IndexKind::" ++ index.kind.constant), .borrowedTexts index.columns,
     .optionalText index.name]⟩

end CompositeIndex

namespace Operation

/-- The expression that builds an operation. -/
def expression : Operation → Expression
  | id => .call ⟨"BlueprintOp::id", []⟩
  | addColumn spec => .chain "BlueprintOp::add_column" spec.newCall spec.methodCalls
  | changeColumn spec => .chain "BlueprintOp::change_column" spec.newCall spec.methodCalls
  | dropColumn column => .call ⟨"BlueprintOp::drop_column", [.text column]⟩
  | dropForeign column => .call ⟨"BlueprintOp::drop_foreign", [.text column]⟩
  | createIndex index => .call index.call
  | softDeletes => .constant "BlueprintOp::SoftDeletes"
  | timestamps => .constant "BlueprintOp::Timestamps"
  | dropTable => .constant "BlueprintOp::DropTable"

end Operation

/-! ## Writing an expression -/

namespace Argument

/-- The argument as it is written. -/
def render : Argument → String
  | text s => Text.quote s
  | number n => toString n
  | constant path => path
  | texts items => "[" ++ Text.quoteAll items ++ "]"
  | borrowedTexts items => "&[" ++ Text.quoteAll items ++ "]"
  | optionalText none => "None"
  | optionalText (some s) => "Some(" ++ Text.quote s ++ ")"

end Argument

namespace Call

/-- The call as it is written. -/
def render (call : Call) : String :=
  call.function ++ "(" ++ ", ".intercalate (call.arguments.map Argument.render) ++ ")"

end Call

namespace Expression

/-- A call of a method as it is written after what it is called on. -/
def renderMethod (method : Call) : String :=
  "." ++ method.render

/-- The expression as it is written. -/
def render : Expression → String
  | constant path => path
  | call c => c.render
  | chain function first methods =>
    function ++ "(" ++ first.render ++ "".intercalate (methods.map renderMethod) ++ ")"

end Expression

namespace Operation

/-- The operation as it is written in generated code. -/
def render (operation : Operation) : String :=
  operation.expression.render

end Operation

end SchemaPlan
