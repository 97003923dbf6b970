import SchemaPlan.Archive.Basic
import SchemaPlan.Archive.FileTree

/-!
# Folders as archives

An archive kept in a directory of a file tree, one file for each migration.
The file has the name of the migration and the ending `.rs`. Whatever else
has that ending counts as stored, be it a directory; a name that is nothing
but the ending does not. The directory is made when the first migration is
stored.
-/

namespace SchemaPlan.Archive

/-- The ending of the files in an archive. -/
def fileEnding : String := ".rs"

/-- The name of the migration in a file of the given name, if it is one. -/
def storedName? (file : String) : Option String :=
  match Text.withoutEnding? fileEnding file with
  | none => none
  | some name => if name.isEmpty then none else some name

/-- The names of the migrations in a directory, in ascending order. -/
def folderNames (directory : String) (tree : FileTree) : Except Fault (List String) :=
  match tree.find? directory, tree.locate? directory with
  | none, _ => .ok []
  | some .directory, some location =>
    .ok (((tree.children location).filterMap storedName?).mergeSort fun a b => a ≤ b)
  | _, _ => .error .io

/-- Stores a migration in a directory under a name that is free. Nothing is
ever replaced: what is in the way, a file or a directory, makes the migration
one that exists. A directory that was made on the way stays, even after a
failure. -/
def folderPersist (directory name source : String) (tree : FileTree) :
    Except Fault String × FileTree :=
  match tree.makeDirectory directory with
  | (made, .error fault) => (.error fault, made)
  | (made, .ok _) =>
    let path := FileTree.join directory (name ++ fileEnding)
    if (made.find? path).isSome then (.error (.migrationExists path), made)
    else
      match made.write path source with
      | (written, .error fault) => (.error fault, written)
      | (written, .ok _) => (.ok path, written)

/-- The archive in a directory of a file tree. What it lists is looked up in
the tree each time, so files that came there in another way are listed as well.
-/
def folder (directory : String) : Archive (StateM FileTree) where
  names := do return folderNames directory (← get)
  persist name source := fun tree => folderPersist directory name source tree
  remove path := fun tree =>
    let (rest, result) := tree.remove path
    (result, rest)

end SchemaPlan.Archive
