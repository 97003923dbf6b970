import SchemaPlan.Archive.FileTree
import SchemaPlan.Catalog.Basic
import SchemaPlan.Database.Target

/-!
# Opening databases in a file tree

An empty file is a database without tables. The content of other files is
not read here, so they cannot be opened. A path is followed by its names
alone: `..` takes back the name before it, whether or not that leads to
anything.
-/

namespace SchemaPlan

namespace FileTree

/-- Opens the database of a file. -/
def openDatabase (tree : FileTree) (path : String) (access : Database.Access) :
    Except Fault Catalog × FileTree :=
  let location := (names path).foldl step []
  match tree.at? location with
  | some (.file text) => (if text.isEmpty then .ok .empty else .error .database, tree)
  | some .directory => (.error .database, tree)
  | none =>
    if isLegal path && (names path).all isName && access == .create &&
        tree.at? location.dropLast = some .directory then
      (.ok .empty, tree.put location (.file ""))
    else
      (.error .database, tree)

end FileTree

/-- Opens a database, in the file tree if it has a file. -/
def Database.Target.openIn : Database.Target → StateM FileTree (Except Fault Catalog)
  | memory => return .ok .empty
  | file path access => fun tree => tree.openDatabase path access

end SchemaPlan
