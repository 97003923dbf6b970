import SchemaPlan.Text.Ascii
import SchemaPlan.Text.Pieces

/-!
# Foreign keys

A foreign key names the table and the column it refers to and what happens
to a row when the row it refers to is deleted or its key is updated. An
action is recognised by its letters and digits alone, so `set null`,
`SET_NULL` and `setNull` are one action. When a declaration names no table,
it is derived from the column: `author_id` refers to `authors`.
-/

namespace SchemaPlan

/-- What happens to a row when the row it refers to changes. An action that is
not named is left to the database. -/
inductive ReferentialAction where
  /-- The change is refused once it is complete. -/
  | noAction
  /-- The change is refused at once. -/
  | restrict
  /-- The row is deleted or updated as well. -/
  | cascade
  /-- The column becomes NULL. -/
  | setNull
  /-- The column takes its default. -/
  | setDefault
deriving DecidableEq, Repr

namespace ReferentialAction

/-- The letters and digits of a text, in lower case. Blanks and underscores are
taken out by this, and so is any character outside ASCII. -/
def key (text : String) : String :=
  Text.lower (String.ofList (text.toList.filter Char.isAlphanum))

/-- The action that a text denotes, if any. -/
def ofText? (text : String) : Option ReferentialAction :=
  match key text with
  | "noaction" => some noAction
  | "restrict" => some restrict
  | "cascade" => some cascade
  | "setnull" => some setNull
  | "null" => some setNull
  | "nullify" => some setNull
  | "setdefault" => some setDefault
  | _ => none

/-- The action in SQL. -/
def sql : ReferentialAction → String
  | noAction => "NO ACTION"
  | restrict => "RESTRICT"
  | cascade => "CASCADE"
  | setNull => "SET NULL"
  | setDefault => "SET DEFAULT"

/-- The action as a constant of generated code. -/
def constant : ReferentialAction → String
  | noAction => "NoAction"
  | restrict => "Restrict"
  | cascade => "Cascade"
  | setNull => "SetNull"
  | setDefault => "SetDefault"

/-- Every action. -/
def all : List ReferentialAction :=
  [noAction, restrict, cascade, setNull, setDefault]

end ReferentialAction

/-- A foreign key of a column. -/
structure ForeignKey where
  /-- The table it refers to. -/
  table : String
  /-- The column it refers to. -/
  column : String
  /-- What happens when the row it refers to is deleted. -/
  onDelete : Option ReferentialAction
  /-- What happens when the key it refers to is updated. -/
  onUpdate : Option ReferentialAction
deriving DecidableEq, Repr

namespace ForeignKey

/-- Whether a character is one of the vowels `a`, `e`, `i`, `o` and `u`. -/
def isVowel (c : Char) : Bool :=
  c == 'a' || c == 'e' || c == 'i' || c == 'o' || c == 'u'

/-- The plural of an English noun, by its last letters. Nouns with a plural of
their own are not known: `child` becomes `childs`. -/
def plural (noun : String) : String :=
  if ["s", "x", "z", "ch", "sh"].any fun ending => Text.hasEnding ending noun then noun ++ "es"
  else
    match Text.withoutEnding? "y" noun with
    | none => noun ++ "s"
    | some stem => if stem.toList.getLast?.any isVowel then noun ++ "s" else stem ++ "ies"

/-- The table that a column refers to by its name: the plural of the name
without a closing `_id`. -/
def referencedTable (column : String) : String :=
  plural ((Text.withoutEnding? "_id" column).getD column)

end ForeignKey

end SchemaPlan
