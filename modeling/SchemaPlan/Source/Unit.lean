import SchemaPlan.Artifact

/-!
# The source of a migration

A migration is stored as the source of a type that carries the name of the
artifact, its table and the two lists of operations. The type is named after
the artifact, in camel case.
-/

namespace SchemaPlan

namespace Artifact

/-- Joins the parts of a name between underscores, the first letter of each
part a capital: at the start of a part if `fresh`. -/
def camelChars (fresh : Bool) : List Char → List Char
  | [] => []
  | c :: cs =>
    if c = '_' then camelChars true cs
    else (if fresh then c.toUpper else c) :: camelChars false cs

/-- The name of the type that carries an artifact of the given name. -/
def typeName (name : String) : String :=
  "Migration" ++ String.ofList (camelChars true name.toList)

/-- One operation on a line of its own in a list of operations. No operation
takes more than one line, because a literal never does. -/
def operationLine (operation : Operation) : String :=
  "            " ++ operation.render ++ ",\n"

/-- The lines of a list of operations. -/
def operationLines (operations : List Operation) : String :=
  "".intercalate (operations.map operationLine)

/-- A function of the type that gives a list of operations. -/
def functionSource (name : String) (operations : List Operation) : String :=
  "    fn " ++ name ++ "() -> Vec<BlueprintOp> \x7b\n" ++
  "        vec![\n" ++
  operationLines operations ++
  "        ]\n" ++
  "    \x7d\n"

/-- The source of an artifact. The time of the artifact is only in its name,
and its kind as well. -/
def source (artifact : Artifact) : String :=
  "use oxide_blueprint::prelude::*;\n" ++
  "\n" ++
  "pub struct " ++ typeName artifact.name ++ ";\n" ++
  "\n" ++
  "impl Migration for " ++ typeName artifact.name ++ " \x7b\n" ++
  "    const ID: &'static str = " ++ Text.quote artifact.name ++ ";\n" ++
  "    const TABLE: &'static str = " ++ Text.quote artifact.table ++ ";\n" ++
  "\n" ++
  functionSource "up" artifact.forward ++
  "\n" ++
  functionSource "down" artifact.inverse ++
  "\x7d\n"

end Artifact

end SchemaPlan
