import SchemaPlan.Fault
import SchemaPlan.Text.Pieces

/-!
# File trees

The files and directories that can be reached from a working directory. A
location is the list of names that lead to a file or a directory; the empty
location is the working directory itself. A path is written with slashes
between names, `.` for staying and `..` for going back, and is followed name
by name: only what is inside a directory can be reached. A name has at most
255 bytes, a path fewer than 4096, and neither holds NUL.
-/

namespace SchemaPlan

/-- What stands at a location. Of a file nothing but its text is known: there
are no permissions, no times and no links. -/
inductive FileNode where
  | directory
  | file (text : String)
deriving DecidableEq, Repr

/-- Files and directories by location. The working directory, what it is
inside of, and the root are always there. -/
structure FileTree where
  /-- The other files and directories, each location once. -/
  entries : List (List String × FileNode)
deriving DecidableEq, Repr

namespace FileTree

/-- A working directory with nothing in it. -/
def empty : FileTree where
  entries := []

/-! ## Paths -/

/-- The name that stands for the root at the beginning of a location. -/
def root : String := "/"

/-- The names of a path that have to be followed; an absolute path begins
with the root. -/
def names (path : String) : List String :=
  (if "/".toList.isPrefixOf path.toList then [root] else []) ++
    (Text.pieces '/' path).filter fun name => !name.isEmpty && name != "."

/-- Whether a path can only mean a directory, by how it ends: in a slash, in
`.` or in `..`. A file is never found under such a path. -/
def meansDirectory (path : String) : Bool :=
  match (Text.pieces '/' path).getLast? with
  | some last => last.isEmpty || last == "." || last == ".."
  | none => true

/-- Whether a path ends in a name that stands for staying, slashes after it
ignored. Making a directory treats such a path in its own way. -/
def endsInStay (path : String) : Bool :=
  ((Text.pieces '/' path).filter fun name => !name.isEmpty).getLast? == some "."

/-- Whether a path is one that a file system takes. The limits are on the
octets of the whole path, and every access checks them before anything else. -/
def isLegal (path : String) : Bool :=
  path.utf8ByteSize < 4096 && !path.toList.contains '\x00'

/-- Whether a name is one that a file or a directory can have. The limit is on
its octets, and it is checked for each name that is followed or made. -/
def isName (name : String) : Bool :=
  name.utf8ByteSize ≤ 255

/-- The path of a name inside a directory. A name that is a path from the root
stands for itself. -/
def join (directory name : String) : String :=
  if "/".toList.isPrefixOf name.toList then name
  else if directory.isEmpty || Text.hasEnding "/" directory then directory ++ name
  else directory ++ "/" ++ name

/-- The location one step back. Back from the working directory there is no end
of directories, and the root leads back to itself. -/
def parent (location : List String) : List String :=
  match location.getLast? with
  | none => [".."]
  | some last =>
    if last == ".." then location ++ [".."]
    else if last == root then location
    else location.dropLast

/-- The location one name further. The name is that of something inside, or one
of the two with a meaning of their own. -/
def step (location : List String) (name : String) : List String :=
  if name == root then [root]
  else if name == ".." then parent location
  else location ++ [name]

/-! ## Looking -/

/-- What stands at a location. The working directory, the directories it is in,
and the root need no entry to be there. -/
def at? (tree : FileTree) (location : List String) : Option FileNode :=
  if location.all fun name => name == ".." || name == root then some .directory
  else (tree.entries.find? fun e => e.1 == location).map fun e => e.2

/-- Follows names from a location. Each but the last must lead to a
directory; what the last leads to need not exist. -/
def follow? (tree : FileTree) (location : List String) : List String → Option (List String)
  | [] => some location
  | name :: rest =>
    if isName name && tree.at? location = some .directory then
      tree.follow? (step location name) rest
    else
      none

/-- The location that a path leads to, from the working directory. -/
def locate? (tree : FileTree) (path : String) : Option (List String) :=
  if isLegal path then tree.follow? [] (names path) else none

/-- What a path leads to, if it can be followed to its end and anything is
there. Where a path can only mean a directory a file is not found. -/
def find? (tree : FileTree) (path : String) : Option FileNode := do
  let node ← tree.at? (← tree.locate? path)
  if meansDirectory path && node != .directory then none else some node

/-- The names in a directory, in the order in which their entries were made, so
a caller that needs an order has to sort them. -/
def children (tree : FileTree) (location : List String) : List String :=
  tree.entries.filterMap fun e =>
    if e.1.length = location.length + 1 ∧ e.1.dropLast = location then e.1.getLast? else none

/-! ## Changing -/

/-- Puts something at a location, in place of what is there. That the location
is inside a directory is for the caller to see to. -/
def put (tree : FileTree) (location : List String) (node : FileNode) : FileTree where
  entries := tree.entries.filter (fun e => e.1 != location) ++ [(location, node)]

/-- Makes the directories on the way along names, where they are missing. The
result holds what could be made, and whether the way is open to its end. -/
def makeWay (tree : FileTree) (location : List String) : List String → FileTree × Bool
  | [] => (tree, true)
  | name :: rest =>
    let next := step location name
    match tree.at? next with
    | some .directory => tree.makeWay next rest
    | some (.file _) => (tree, false)
    | none => if isName name then (tree.put next .directory).makeWay next rest else (tree, false)

/-- Makes a directory and those it is in, where they are missing. A path that
ends in staying cannot make the directory in which it stays, only those before
it. -/
def makeDirectory (tree : FileTree) (path : String) : FileTree × Except Fault Unit :=
  let way := if endsInStay path then (names path).dropLast else names path
  if isLegal path then
    match tree.makeWay [] way with
    | (made, true) =>
      (made, if made.find? path = some .directory then .ok () else .error .io)
    | (made, false) => (made, .error .io)
  else
    (tree, .error .io)

/-- Writes a file, in place of one that is there. The directory it is in has to
be there, and where a directory is no file is written. -/
def write (tree : FileTree) (path text : String) : FileTree × Except Fault Unit :=
  match tree.locate? path with
  | none => (tree, .error .io)
  | some location =>
    if meansDirectory path || tree.at? location = some .directory then (tree, .error .io)
    else (tree.put location (.file text), .ok ())

/-- The text of a file. A directory has none, and what is not there has none
either; the two faults are not told apart. -/
def read (tree : FileTree) (path : String) : Except Fault String :=
  match tree.find? path with
  | some (.file text) => .ok text
  | _ => .error .io

/-- Removes a file. A directory is not removed, empty or not, and a failure
leaves the tree as it is. -/
def remove (tree : FileTree) (path : String) : FileTree × Except Fault Unit :=
  match tree.find? path, tree.locate? path with
  | some (.file _), some location =>
    (⟨tree.entries.filter fun e => e.1 != location⟩, .ok ())
  | _, _ => (tree, .error .io)

end FileTree

end SchemaPlan
