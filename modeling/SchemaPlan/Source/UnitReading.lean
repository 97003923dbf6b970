import SchemaPlan.Source.Reading
import SchemaPlan.Source.Unit

/-!
# Reading migrations back from source

The other direction of `SchemaPlan.Source.Unit`. The source is read line by
line: the frame of the type and its two functions must stand as it is
expected, and what is in the frame is taken from its lines, the literals
decoded and every operation read from the one line it stands on.
-/

namespace SchemaPlan

namespace Text

/-- The text after a given beginning, if it has that beginning. -/
def withoutBeginning? (beginning s : String) : Option String :=
  if beginning.toList.isPrefixOf s.toList then
    some (String.ofList (s.toList.drop beginning.toList.length))
  else
    none

/-- The text between a given beginning and a given ending, if it has both. -/
def enclosed? (beginning ending s : String) : Option String :=
  (withoutBeginning? beginning s).bind (withoutEnding? ending)

/-- The text that a literal denotes, if the literal ends where it does. -/
def unquote? (s : String) : Option String :=
  match s.toList with
  | '"' :: cs =>
    match decodeChars? cs with
    | some (text, []) => some (String.ofList text)
    | _ => none
  | _ => none

end Text

/-- What the source of a migration says. The name of the type is kept apart
from that of the migration, since nothing in the source ties one to the other.
-/
structure SourceUnit where
  /-- The name of the type. -/
  typeName : String
  /-- The name of the migration. -/
  name : String
  /-- The table it changes. -/
  table : String
  /-- The operations that make the change. -/
  forward : List Operation
  /-- The operations that take the change back. -/
  inverse : List Operation
deriving DecidableEq

namespace SourceUnit

/-- Reads operations, one from each line, up to the end of the function that
gives them, and the lines after it. -/
def readOperations? : List String → Option (List Operation × List String)
  | "        ]" :: "    \x7d" :: rest => some ([], rest)
  | line :: rest => do
    let operation ← (Text.enclosed? "            " "," line).bind Operation.read?
    let (operations, after) ← readOperations? rest
    return (operation :: operations, after)
  | [] => none

/-- Reads a function of the given name that gives a list of operations, and the
lines after it. -/
def readFunction? (name : String) : List String → Option (List Operation × List String)
  | header :: "        vec![" :: rest =>
    if header = "    fn " ++ name ++ "() -> Vec<BlueprintOp> \x7b" then readOperations? rest
    else none
  | _ => none

/-- Reads the two functions of a migration up to the end of the source. -/
def readFunctions? (lines : List String) : Option (List Operation × List Operation) :=
  match readFunction? "up" lines with
  | some (forward, "" :: rest) =>
    match readFunction? "down" rest with
    | some (inverse, ["\x7d", ""]) => some (forward, inverse)
    | _ => none
  | _ => none

/-- Reads the lines of a migration. The type that is declared must be the one
that is implemented. -/
def readLines? : List String → Option SourceUnit
  | "use oxide_blueprint::prelude::*;" :: "" :: declared :: "" :: implemented :: id :: table :: "" ::
      rest => do
    let typeName ← Text.enclosed? "pub struct " ";" declared
    guard (implemented = "impl Migration for " ++ typeName ++ " \x7b")
    let name ← (Text.enclosed? "    const ID: &'static str = " ";" id).bind Text.unquote?
    let table ← (Text.enclosed? "    const TABLE: &'static str = " ";" table).bind Text.unquote?
    let (forward, inverse) ← readFunctions? rest
    return ⟨typeName, name, table, forward, inverse⟩
  | _ => none

/-- Reads the source of a migration. Every line has to be as it would be
written, down to its indentation. -/
def read? (source : String) : Option SourceUnit :=
  readLines? (Text.pieces '\n' source)

end SourceUnit

end SchemaPlan
