import SchemaPlan.Database.Target
import SchemaPlan.Fault

/-!
# Database addresses

Which database an address means. Only addresses that begin with `sqlite:`
can be read. What follows, with or without two slashes in front, is
`:memory:` or the name of a database with percent escapes; parameters may
come after a question mark, and `mode=memory` among them makes any address
one of a database in memory.

A driver among the parameters, or the promise that the file does not change,
makes the name a bare path, which no longer has parameters of its own.
-/

namespace SchemaPlan.Database

/-- The characters after all repetitions of a text that they start with;
`fuel` bounds the number of repetitions taken off. -/
def withoutStarts (start : List Char) : Nat → List Char → List Char
  | 0, cs => cs
  | fuel + 1, cs =>
    if start.isPrefixOf cs then withoutStarts start fuel (cs.drop start.length) else cs

/-- The part of an address after the scheme. The scheme with two slashes is
taken off before the one without, so further slashes are part of a path. -/
def location (url : String) : String :=
  let cs := url.toList
  let rest := withoutStarts "sqlite://".toList cs.length cs
  String.ofList (withoutStarts "sqlite:".toList rest.length rest)

/-! ## Parameters -/

/-- The values that each parameter may have; any text where no list is
given. -/
def parameters : List (String × Option (List String)) :=
  [("mode", some ["ro", "rw", "rwc", "memory"]), ("cache", some ["private", "shared"]),
   ("immutable", some ["true", "1", "false", "0"]), ("vfs", none)]

/-- Whether a parameter is known and has a value that it may have. -/
def isKnown (parameter : String × String) : Bool :=
  match parameters.find? fun row => row.1 == parameter.1 with
  | none => false
  | some (_, none) => true
  | some (_, some values) => values.contains parameter.2

/-- The text of the key or the value of a parameter: a plus sign is a space,
and escapes are resolved. -/
def parameterText (part : String) : String :=
  let spaced := part.toList.map fun c => if c == '+' then ' ' else c
  Text.ofOctets (Text.unescape (Text.octets (String.ofList spaced)))

/-- The parameters after the question mark of an address. -/
def readParameters (text : String) : List (String × String) :=
  ((Text.pieces '&' text).filter fun piece => !piece.isEmpty).map fun piece =>
    let (key, value) := (Text.cutAt? '=' piece).getD (piece, "")
    (parameterText key, parameterText value)

/-- The values of a parameter, in order. -/
def valuesOf (key : String) (settings : List (String × String)) : List String :=
  settings.filterMap fun setting => if setting.1 == key then some setting.2 else none

/-- The access that all modes together ask for. Memory comes before a file,
and reading before making one. -/
def accessOf (modes : List String) : Access :=
  if modes.contains "memory" then .memory
  else if modes.contains "ro" then .readOnly
  else if modes.contains "rwc" then .create
  else .readWrite

/-- The text up to its first NUL. -/
def beforeNul (s : String) : String :=
  String.ofList (s.toList.takeWhile fun c => c != '\x00')

/-! ## Addresses -/

/-- The request for the database of a name that is not `:memory:`. A name
with NUL in it cannot be asked for, but as a bare path it is cut there. -/
def namedRequest? (name : String) (settings : List (String × String)) : Option Request :=
  let access := accessOf (valuesOf "mode" settings)
  let driver := (valuesOf "vfs" settings).getLast?
  let fixed := (valuesOf "immutable" settings).getLast?.any ["true", "1"].contains
  if fixed || driver.isSome then
    some ⟨beforeNul name, access, driver.map beforeNul⟩
  else if name.toList.contains '\x00' then
    none
  else
    Request.ofName? name access

/-- The request of an address without the scheme, if it can be made. -/
def request? (text : String) : Option Request :=
  let (name, settings) := match Text.cutAt? '?' text with
    | some (name, rest) => (name, readParameters rest)
    | none => (text, [])
  if !settings.all isKnown then none
  else if name == ":memory:" then
    some ⟨name, .memory, (valuesOf "vfs" settings).getLast?.map beforeNul⟩
  else
    (Text.ofOctets? (Text.unescape (Text.octets name))).bind fun name =>
      namedRequest? name settings

/-- The database that an address means, or why it means none that can be
read. -/
def Target.ofUrl (url : String) : Except Fault Target :=
  if !"sqlite:".toList.isPrefixOf url.toList then
    .error (.inspectionUnavailable (.unsupportedUrl url))
  else
    match (request? (location url)).bind Request.target? with
    | some target => .ok target
    | none => .error .database

end SchemaPlan.Database
