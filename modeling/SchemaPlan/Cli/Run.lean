import SchemaPlan.Cli.Arguments
import SchemaPlan.Json.Outcome
import SchemaPlan.Log

/-!
# Running the program

One program call from its arguments to what it prints. Where the clock, the
databases and the archives are, is left open in `World`; everything else is
decided here. The log goes to the output before the result does.
-/

namespace SchemaPlan.Cli

/-- What a program call can reach. -/
structure World (m : Type → Type) where
  /-- The time. -/
  now : m Instant
  /-- The live schema of the database at an address. -/
  connect (url : String) : m (Except Fault Catalog)
  /-- The archive in a directory. -/
  archive (directory : String) : Archive m

/-- What the environment says where the arguments say nothing. -/
structure Defaults where
  /-- The address of the database. -/
  database : Option String
  /-- The directory of the migrations. -/
  directory : Option String
deriving DecidableEq, Repr

/-- What a program call leaves behind. -/
structure Exit where
  /-- The code of success or failure. -/
  code : Nat
  /-- What was printed. -/
  stdout : String
  /-- What was printed as an error. -/
  stderr : String
deriving DecidableEq, Repr

namespace Exit

/-- The end of a call whose arguments are wrong. -/
def usage : Exit where
  code := 2
  stdout := ""
  stderr := "Usage: oxide-blueprint [-v] [-d URL] [-m DIR] <make|diff> [FLAGS] <DSL>\n"

/-- The end of a call that was stopped after printing some output. -/
def failed (output : String) (fault : Fault) : Exit where
  code := 1
  stdout := output
  stderr := "Error: " ++ fault.message ++ "\n"

/-- The end of a call that succeeded. -/
def succeeded (output : String) : Exit where
  code := 0
  stdout := output
  stderr := ""

end Exit

/-! ## Printing results -/

/-- What is printed for an artifact: where it is, or, in a trial run, its
source. -/
def artifactText (stored : StoredArtifact) : String :=
  match stored.path with
  | some path => "Created " ++ path ++ "\n"
  | none =>
    "Would create migration: " ++ stored.artifact.name ++ "\n\n" ++ stored.artifact.source ++ "\n"

/-- What is printed for an outcome. -/
def outcomeText : Outcome → String
  | .upToDate => "Nothing to migrate.\n"
  | .generated artifacts => "".intercalate (artifacts.map artifactText)

/-- What is printed for a column of a comparison. -/
def changeText (change : ColumnChange) : String :=
  " [" ++ change.action.mark ++ "] " ++ change.name ++ " (" ++ change.action.label ++ ")\n"

/-- What is printed for a comparison. -/
def diffText (diff : TableDiff) : String :=
  (match diff.tableAction with
   | .create implicitKey =>
     "\nTable '" ++ diff.table ++ "' will be created\n" ++
       if implicitKey then " [+] id (implicit primary key)\n" else ""
   | .alter => "\nTable '" ++ diff.table ++ "' exists\n") ++
  String.ofList (List.replicate 60 '-') ++ "\n" ++
  "".intercalate (diff.changes.map changeText) ++ "\n"

/-- The lines of the log that are shown: details only on demand. -/
def logText (verbose : Bool) (lines : List LogLine) : String :=
  "".intercalate ((lines.filter fun line => verbose || line.level != .debug).map LogLine.render)

/-! ## Running -/

/-- How comparisons are made in a program call. -/
def diffOptions (strictDrops : Bool) : DiffOptions :=
  { DiffOptions.standard with strictDrops := strictDrops }

/-- The name of the table in a declaration that can be read. -/
def tableName (text : String) : String :=
  match TableDecl.parse text with
  | .ok decl => decl.name
  | .error _ => ""

variable {m : Type → Type} [Monad m]

/-- Runs a command on an archive, looking at a live schema; `opened` is what
was printed before. -/
def runCommand (world : World m) (archive : Archive m) (inspector : Inspector) (verbose : Bool)
    (opened : String) : Command → m Exit
  | .make text trial json strictDrops => do
    let options : RunOptions := ⟨trial, diffOptions strictDrops⟩
    let planned ← archive.planLog options.diff inspector text
    let report ← archive.generate options inspector (← world.now) text
    let output := opened ++ logText verbose (planned ++ report.log (tableName text))
    match report.result with
    | .error fault => return .failed output fault
    | .ok outcome =>
      return .succeeded
        (output ++ if json then outcome.json.render ++ "\n" else outcomeText outcome)
  | .diff text strictDrops => do
    let options := diffOptions strictDrops
    let planned ← archive.planLog options inspector text
    let output := opened ++ logText verbose planned
    match ← archive.plan options inspector text with
    | .error fault => return .failed output fault
    | .ok plan => return .succeeded (output ++ diffText plan.diff)

/-- The directory of the migrations when none is named. -/
def standardDirectory : String := "migrations"

/-- Runs an invocation: opens the database, if one is named, and runs the
command. -/
def runInvocation (world : World m) (defaults : Defaults) (call : Invocation) : m Exit := do
  let directory := (call.options.directory.orElse fun _ => defaults.directory).getD
    standardDirectory
  let verbose := call.options.verbose
  if directory.isEmpty then
    return .usage
  else
    match call.options.database.orElse fun _ => defaults.database with
    | none =>
      let opened := logText verbose
        [.info "No database configured, existing tables cannot be inspected."]
      runCommand world (world.archive directory) .offline verbose opened call.command
    | some url =>
      match ← world.connect url with
      | .error fault => return .failed "" fault
      | .ok catalog =>
        runCommand world (world.archive directory) (.online catalog) verbose "" call.command

/-- Runs a program call. -/
def run (world : World m) (defaults : Defaults) (arguments : List String) : m Exit :=
  match Invocation.read? arguments with
  | none => return .usage
  | some call => runInvocation world defaults call

end SchemaPlan.Cli
