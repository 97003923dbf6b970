import SchemaPlan.Archive.Folder
import SchemaPlan.Cli.Run
import SchemaPlan.Database.Url
import Std.Time.DateTime.Timestamp

/-!
# The program

The command line program: `SchemaPlan.Cli.run` with the real clock, the
real file system and the real environment. Databases in memory can be
opened and are empty, and so is the database of an empty file; the format of
other databases on disk is not read here, so they are a fault.
-/

namespace SchemaPlan.Cli

/-- The result of an action, any failure of the file system being the same
fault. -/
def attempt {α : Type} (action : IO α) : IO (Except Fault α) := do
  try
    return .ok (← action)
  catch _ =>
    return .error .io

/-- The names of the migrations in a directory, none when there is no such
directory. -/
def diskNames (directory : String) : IO (Except Fault (List String)) := do
  let path := (← IO.currentDir) / directory
  if ← path.pathExists then
    attempt do
      let files ← path.readDir
      let names := files.toList.filterMap fun file => Archive.storedName? file.fileName
      return names.mergeSort fun a b => a ≤ b
  else
    return .ok []

/-- Stores a migration in a directory under a name that is free. -/
def diskPersist (directory name source : String) : IO (Except Fault String) := do
  let path := FileTree.join directory (name ++ Archive.fileEnding)
  match ← attempt (IO.FS.createDirAll directory) with
  | .error fault => return .error fault
  | .ok _ =>
    try
      let handle ← IO.FS.Handle.mk path .writeNew
      handle.putStr source
      return .ok path
    catch
      | .alreadyExists _ _ _ => return .error (.migrationExists path)
      | _ => return .error .io

/-- The archive in a directory of the file system. -/
def diskArchive (directory : String) : Archive IO where
  names := diskNames directory
  persist := diskPersist directory
  remove path := attempt (IO.FS.removeFile path)

/-- Opens the database of a file. -/
def openDisk (path : String) (access : Database.Access) : IO (Except Fault Catalog) := do
  match ← attempt (IO.FS.readBinFile path) with
  | .ok content => return if content.isEmpty then .ok .empty else .error .database
  | .error _ =>
    if access == .create then
      match ← attempt (IO.FS.Handle.mk path .writeNew) with
      | .ok _ => return .ok .empty
      | .error _ => return .error .database
    else
      return .error .database

/-- Opens the database at an address. -/
def connect (url : String) : IO (Except Fault Catalog) := do
  match Database.Target.ofUrl url with
  | .error fault => return .error fault
  | .ok .memory => return .ok .empty
  | .ok (.file path access) => openDisk path access

/-- The time. -/
def clock : IO Instant := do
  let time ← Std.Time.Timestamp.now
  match Instant.ofUnix? time.val.second.val time.val.nano.val.toNat with
  | some now => return now
  | none => throw (IO.userError "the clock shows a time that cannot be represented")

/-- The world outside the program. -/
def realWorld : World IO where
  now := clock
  connect := connect
  archive := diskArchive

end SchemaPlan.Cli

/-- Runs the program with its arguments, prints what it has to say, and
gives its exit code. -/
def main (arguments : List String) : IO UInt32 := do
  let defaults : SchemaPlan.Cli.Defaults :=
    ⟨← IO.getEnv "DATABASE_URL", ← IO.getEnv "BLUEPRINT_MIGRATIONS_DIR"⟩
  let exit ← SchemaPlan.Cli.run SchemaPlan.Cli.realWorld defaults arguments
  IO.print exit.stdout
  IO.eprint exit.stderr
  return exit.code.toUInt32
