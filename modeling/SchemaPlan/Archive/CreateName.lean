import SchemaPlan.Text.Pieces
import SchemaPlan.Text.WordChar

/-!
# Names of migrations that create a table

Whether a migration creates a table, and which, is read off its name: a
stamp of four, two, two and six digits between underscores, then `create_`,
the table, and `_table`, with or without the ending of a source file. The
digits may be of any script and the table of any word characters. A table
whose own name ends in `_table` is not cut short: the last `_table` of the
name is the one that closes it.
-/

namespace SchemaPlan.Archive

/-- The characters after a given start, if that is how they start. -/
def afterStart? (start cs : List Char) : Option (List Char) :=
  if start.isPrefixOf cs then some (cs.drop start.length) else none

/-- The characters after so many decimal digits, if that is how they
start. -/
def afterDigits? : Nat → List Char → Option (List Char)
  | 0, cs => some cs
  | _ + 1, [] => none
  | n + 1, c :: cs => if Text.isDecimalDigit c then afterDigits? n cs else none

/-- The characters after the stamp of a name, which is taken by its form alone:
the thirteenth month and the sixty-first second have one too. -/
def afterStamp? (cs : List Char) : Option (List Char) := do
  let cs ← afterDigits? 4 cs
  let cs ← afterStart? ['_'] cs
  let cs ← afterDigits? 2 cs
  let cs ← afterStart? ['_'] cs
  let cs ← afterDigits? 2 cs
  let cs ← afterStart? ['_'] cs
  let cs ← afterDigits? 6 cs
  afterStart? ['_'] cs

/-- The table that a migration of the given name creates, if its name says
that it creates one. -/
def createdTable? (name : String) : Option String := do
  let rest ← afterStamp? ((Text.withoutEnding? ".rs" name).getD name).toList
  let rest ← afterStart? "create_".toList rest
  let table ← Text.withoutEnding? "_table" (String.ofList rest)
  if !table.isEmpty && table.toList.all Text.isWordChar then some table else none

/-- Whether one of the names is that of a migration that creates the
table. -/
def creates (names : List String) (table : String) : Bool :=
  names.any fun name => createdTable? name == some table

end SchemaPlan.Archive
