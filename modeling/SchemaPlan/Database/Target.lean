import SchemaPlan.Text.Percent
import SchemaPlan.Text.Pieces

/-!
# Names of databases

A database is named by the path of its file. The name may also be a text
that begins with `file:`, which gives the path with percent escapes and,
after a question mark, parameters: `mode` says how to open the database,
`cache` how its pages are shared, and `vfs` which driver to use. A name can
ask for less than was granted, not for more.

The empty name and `:memory:` name no file, and the driver `memdb` keeps
none. Such a database exists only while it is open.
-/

namespace SchemaPlan.Database

/-- How a database is opened. -/
inductive Access where
  /-- Without a file. -/
  | memory
  /-- From a file that is there, for reading. -/
  | readOnly
  /-- From a file that is there. -/
  | readWrite
  /-- From a file that is made if it is not there. -/
  | create
deriving DecidableEq, Repr

namespace Access

/-- The access that a word of a parameter asks for. -/
def ofWord? : String → Option Access
  | "memory" => some memory
  | "ro" => some readOnly
  | "rw" => some readWrite
  | "rwc" => some create
  | _ => none

/-- How much an access allows to be done with files. -/
def rank : Access → Nat
  | memory => 0
  | readOnly => 1
  | readWrite => 2
  | create => 3

/-- Whether a name may ask for an access where another was granted. A
database that was to be in memory may be put anywhere. -/
def grants (granted wanted : Access) : Bool :=
  granted == memory || wanted.rank ≤ granted.rank

end Access

/-- The database that is meant. -/
inductive Target where
  /-- A database in memory, empty when it is opened. -/
  | memory
  /-- A database in a file. -/
  | file (path : String) (access : Access)
deriving DecidableEq, Repr

/-- What is known of a database before it is opened. -/
structure Request where
  /-- The path of its file. -/
  path : String
  /-- How it is opened. -/
  access : Access
  /-- The driver that reaches its file, where one is named. -/
  driver : Option String
deriving DecidableEq, Repr

namespace Request

/-- The driver that keeps databases in memory. -/
def memoryDriver : String := "memdb"

/-- The drivers there are. -/
def drivers : List String :=
  ["unix", "unix-none", "unix-dotfile", "unix-excl", memoryDriver]

/-- The database that is requested, if its driver exists. -/
def target? (request : Request) : Option Target :=
  if request.driver.all drivers.contains then
    if request.access == .memory || request.path.isEmpty || request.path == ":memory:" ||
        request.driver == some memoryDriver then
      some .memory
    else
      some (.file request.path request.access)
  else
    none

/-! ## Names that begin with `file:` -/

/-- How names begin that have escapes and parameters. -/
def scheme : String := "file:"

/-- What follows the authority, if there is one after two slashes; it must be
empty or the local host. -/
def withoutAuthority? : List Char → Option (List Char)
  | '/' :: '/' :: rest =>
    let authority := String.ofList (rest.takeWhile fun c => c != '/')
    if authority.isEmpty || authority == "localhost" then
      some (rest.dropWhile fun c => c != '/')
    else
      none
  | cs => some cs

/-- The text of a part of a name. It ends where its escapes give NUL. -/
def partText (part : String) : String :=
  Text.ofOctets (Text.untilNul (Text.unescape (Text.octets part)))

/-- The parameters in a name, without those that have no name. -/
def readParameters (text : String) : List (String × String) :=
  ((Text.pieces '&' text).map fun piece =>
    let (key, value) := (Text.cutAt? '=' piece).getD (piece, "")
    (partText key, partText value)).filter fun parameter => !parameter.1.isEmpty

/-- The request after a parameter. A parameter that is not known changes
nothing. -/
def set? (request : Request) : String × String → Option Request
  | ("vfs", value) => some { request with driver := some value }
  | ("cache", value) => if value == "shared" || value == "private" then some request else none
  | ("mode", value) =>
    (Access.ofWord? value).bind fun wanted =>
      if request.access.grants wanted then some { request with access := wanted } else none
  | _ => some request

/-- The request of a name, given the access that was granted. -/
def ofName? (name : String) (granted : Access) : Option Request :=
  if scheme.toList.isPrefixOf name.toList then
    (withoutAuthority? (name.toList.drop scheme.length)).bind fun cs =>
      let text := String.ofList (cs.takeWhile fun c => c != '#')
      let (path, parameters) := match Text.cutAt? '?' text with
        | some (path, rest) => (path, readParameters rest)
        | none => (text, [])
      parameters.foldlM set? ⟨partText path, granted, none⟩
  else
    some ⟨name, granted, none⟩

end Request

end SchemaPlan.Database
