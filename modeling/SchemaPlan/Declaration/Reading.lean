import SchemaPlan.Declaration.Table
import SchemaPlan.Fault
import SchemaPlan.Identifier
import SchemaPlan.Text.Blank
import SchemaPlan.Text.Pieces

/-!
# Reading a table declaration

A declaration is one line of tokens between commas, blanks around them
ignored and empty ones skipped:

* `unique:a|b` and `index:a|b` declare an index, wherever they stand;
* the first other token begins with the name of the table, and what follows
  its first colon is an entry like those of the later tokens;
* an entry is `softDeletes`, `timestamps`, or a column: a name, a kind and
  options between colons, the kind `string` when it is missing or empty.

Names and kinds are checked for all tokens before anything is reported, so
one reading lists every defect, in the order of the tokens.
-/

namespace SchemaPlan.TableDecl

/-! ## Tokens -/

/-- The tokens of a declaration: its pieces between commas without blanks at
their ends, the empty ones left out. -/
def tokens (text : String) : List String :=
  ((Text.pieces ',' text).map Text.trim).filter fun token => !token.isEmpty

/-- Whether a character may stand in the column list of an index. With one that
may not, such as a blank or a colon, a token is no index. -/
def isIndexChar (c : Char) : Bool :=
  c.isAlphanum || c == '_' || c == '|'

/-- Reads an index: its keyword, a colon, and column names between bars. A
token of any other form declares no index. -/
def readIndex? (token : String) : Option CompositeIndex := do
  let (word, rest) ← Text.cutAt? ':' token
  let kind ← IndexKind.ofKeyword? word
  if !rest.isEmpty && rest.toList.all isIndexChar then
    some ⟨kind, (Text.pieces '|' rest).filter fun name => !name.isEmpty, none⟩
  else
    none

/-! ## Entries -/

/-- What a token after the name of the table declares. Indexes are no entries:
they are sorted out before, wherever they stand. -/
inductive Entry where
  /-- The flag for `deleted_at`. -/
  | softDeletes
  /-- The flag for `created_at` and `updated_at`. -/
  | timestamps
  /-- A column. -/
  | column (decl : ColumnDecl)
deriving DecidableEq

/-- Reads the kind of a column, which may be missing; with it, whether it
was written. -/
def readKind (column : String) : Option String → Except Fault (ColumnKind × Bool)
  | none => .ok (.string, false)
  | some written =>
    if written.isEmpty then .ok (.string, false)
    else
      match ColumnKind.ofName? written with
      | some kind => .ok (kind, true)
      | none => .error (.invalidKind column written)

/-- The length that stands directly after a kind that accepts one, and the
segments after it. -/
def takeLength (kind : ColumnKind) : List String → Option String × List String
  | [] => (none, [])
  | segment :: rest =>
    if kind.acceptsLength && Text.areDigits segment.toList then (some segment, rest)
    else (none, segment :: rest)

/-- Reads an option: a list for the `values` of an enumeration, a text after
`=`, or a flag. -/
def readOption (kind : ColumnKind) (segment : String) : String × OptionValue :=
  match Text.cutAt? '=' segment with
  | none => (segment, .flag)
  | some (key, text) =>
    if kind == .enum && key == "values" then
      (key, .list (((Text.pieces '|' text).map Text.trim).filter fun item => !item.isEmpty))
    else
      (key, .value text)

/-- Reads the options after the kind of a column; the last of several with
one name counts. -/
def readOptions (kind : ColumnKind) (segments : List String) : Options :=
  let (length, rest) := takeLength kind segments
  let options := (rest.filter fun segment => !segment.isEmpty).map (readOption kind)
  Options.ofList ((length.map fun digits => ("length", OptionValue.value digits)).toList ++ options)

/-- Reads a column: its name, its kind and its options between colons. -/
def readColumn (token : String) : Except Fault ColumnDecl :=
  match (Text.pieces ':' token).map Text.trim with
  | [] => .error (.invalidDeclaration (.blankColumnName token))
  | name :: segments =>
    if name.isEmpty then .error (.invalidDeclaration (.blankColumnName token))
    else if !isIdentifier name then .error (.invalidDeclaration (.badColumnName name))
    else do
      let (kind, declared) ← readKind name segments.head?
      return ⟨name, kind, declared, readOptions kind segments.tail⟩

/-- Reads an entry: a flag of the table or a column. A flag is only recognised
by its very letters; in any other case its word is the name of a column. -/
def readEntry (token : String) : Except Fault Entry :=
  if token == "softDeletes" then .ok .softDeletes
  else if token == "timestamps" then .ok .timestamps
  else (readColumn token).map .column

/-- The table with what an entry declares. A flag may be declared more than
once, and a column declared again replaces the one of its name. -/
def add (table : TableDecl) : Entry → TableDecl
  | .softDeletes => { table with flags := { table.flags with softDeletes := true } }
  | .timestamps => { table with flags := { table.flags with timestamps := true } }
  | .column decl => table.declare decl

/-! ## The whole declaration -/

/-- The name of the table in the token that begins it, and what follows the
first colon. -/
def cutTableName (token : String) : String × String :=
  match Text.cutAt? ':' token with
  | none => (token, "")
  | some (name, rest) => (Text.trim name, Text.trim rest)

/-- What is wrong with the name of the table, if anything is. The fault of a
blank name shows the token, and that of a bad one the name. -/
def nameFault? (token name : String) : Option Fault :=
  if name.isEmpty then some (.invalidDeclaration (.blankTableName token))
  else if !isIdentifier name then some (.invalidDeclaration (.badTableName name))
  else none

/-- The faults among results, in order. -/
def faultsOf {α : Type} (results : List (Except Fault α)) : List Fault :=
  results.filterMap fun
    | .ok _ => none
    | .error fault => some fault

/-- The values among results, in order. -/
def valuesOf {α : Type} (results : List (Except Fault α)) : List α :=
  results.filterMap fun
    | .ok value => some value
    | .error _ => none

/-- Reads the tokens that are not indexes. All defects are collected before
any is reported. -/
def readBody (indexes : List CompositeIndex) : List String → Except Fault TableDecl
  | [] => .error (.invalidDeclaration .noTableName)
  | first :: later =>
    let (name, rest) := cutTableName first
    let results := ((if rest.isEmpty then [] else [rest]) ++ later).map readEntry
    match Fault.collect? ((nameFault? first name).toList ++ faultsOf results) with
    | some fault => .error fault
    | none => .ok { (valuesOf results).foldl add (empty name) with indexes := indexes }

/-- Reads a table declaration. A blank text is a fault of its own; in any other
text the indexes are sorted out first, and what is left has to begin with the
name of the table. -/
def parse (text : String) : Except Fault TableDecl :=
  if (Text.trim text).isEmpty then .error (.invalidDeclaration .empty)
  else
    let all := tokens text
    readBody (all.filterMap readIndex?) (all.filter fun token => (readIndex? token).isNone)

end SchemaPlan.TableDecl
