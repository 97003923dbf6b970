import SchemaPlan.Generator

/-!
# The log of a run

What a run tells about itself while it works. Each line has a level: what
the user may want to know, what the user should look at, and details that
only show on demand. The lines follow from what the run was given and what
it reports, so nothing in the run itself has to keep a log.

A line may hold text that the user gave, a path for instance. The control
characters in it with which a terminal can be told to do something are
written by their codes.
-/

namespace SchemaPlan

/-- How much a line of the log matters. -/
inductive LogLevel where
  /-- A detail. -/
  | debug
  /-- A matter of course. -/
  | info
  /-- Something to look at. -/
  | warn
deriving DecidableEq, Repr

/-- A line of the log. -/
structure LogLine where
  /-- How much it matters. -/
  level : LogLevel
  /-- What it says. -/
  text : String
deriving DecidableEq, Repr

namespace LogLevel

/-- The level as it begins a line, right-aligned. -/
def label : LogLevel → String
  | debug => "DEBUG"
  | info => " INFO"
  | warn => " WARN"

end LogLevel

namespace LogLine

/-- A line with a detail. -/
def debug (text : String) : LogLine := ⟨.debug, text⟩

/-- A line with a matter of course. -/
def info (text : String) : LogLine := ⟨.info, text⟩

/-- A line with something to look at. -/
def warn (text : String) : LogLine := ⟨.warn, text⟩

/-- How one character is written in a line: the bell, the backspace, the form
feed, the escape and the delete character by two hexadecimal digits, the
controls beyond ASCII by their code in braces, and all others as they are. -/
def shownChar (c : Char) : List Char :=
  let digits := Nat.toDigits 16 c.toNat
  if ['\x07', '\x08', '\x0c', '\x1b', '\x7f'].contains c then
    ['\\', 'x'] ++ List.leftpad 2 '0' digits
  else if 0x80 ≤ c.toNat ∧ c.toNat ≤ 0x9F then
    ['\\', 'u', '\x7b'] ++ digits ++ ['\x7d']
  else
    [c]

/-- The line as it is written. -/
def render (line : LogLine) : String :=
  line.level.label ++ " " ++ String.ofList (line.text.toList.flatMap shownChar) ++ "\n"

end LogLine

namespace TableDiff

/-! ## Comparing -/

/-- What is said of a column of a table that is created. -/
def creationLine (table : String) (column : ColumnDecl) : List LogLine :=
  let name := column.name
  if column.isMarkedForDrop then
    [.warn s!"Ignoring drop of '{name}' while creating table '{table}'"]
  else if isImpliedKey column then
    [.debug "Column 'id' becomes the implicit primary key"]
  else
    []

/-- The lines of a comparison with a table that does not exist. -/
def creationLog (decl : TableDecl) : List LogLine :=
  let table := decl.name
  let count := (creation decl).changes.length
  decl.columns.flatMap (creationLine table) ++
    [.debug s!"Table '{table}' will be created with {count} column(s)"]

/-- What is said of a column of a table that exists, given its outcome. -/
def alterationLine (options : DiffOptions) (table : String) (column : ColumnDecl) :
    Option ColumnAction → LogLine
  | none =>
    let name := column.name
    .warn s!"Column '{name}' does not exist in table '{table}', skipping drop"
  | some action =>
    .debug (table ++ "." ++ column.name ++ ": " ++
      if options.systemColumns.contains column.name then "system column" else action.label)

/-- The lines of a comparison of columns, up to the first fault; after the
last column follow the given lines. -/
def alterationLines (options : DiffOptions) (inspector : Inspector) (table : String)
    (closing : List LogLine) : List ColumnDecl → List LogLine
  | [] => closing
  | column :: rest =>
    match compareColumn options inspector table column with
    | .error _ => []
    | .ok action =>
      alterationLine options table column action ::
        alterationLines options inspector table closing rest

/-- The lines of a comparison with a table that exists. -/
def alterationLog (options : DiffOptions) (inspector : Inspector) (decl : TableDecl) :
    List LogLine :=
  let table := decl.name
  let closing :=
    if !decl.indexes.isEmpty || decl.flags.softDeletes || decl.flags.timestamps then
      [LogLine.debug
        s!"Composite indexes and table flags on existing table '{table}' are ignored"]
    else
      []
  alterationLines options inspector table closing decl.columns

end TableDiff

/-! ## Planning -/

namespace Plan

/-- The lines of a plan. There are no more when it cannot be told whether the
table is live. -/
def log (options : DiffOptions) (names : List String) (inspector : Inspector)
    (decl : TableDecl) : List LogLine :=
  let table := decl.name
  (if Archive.creates names table then
    [.info s!"Found existing create migration for table '{table}'"]
   else []) ++
  (match findsTable names inspector table with
   | .error _ => []
   | .ok tableExists =>
    .debug s!"Table '{table}' exists: {tableExists}" ::
      (if tableExists then TableDiff.alterationLog options inspector decl
       else TableDiff.creationLog decl))

end Plan

namespace Archive

/-- The lines that planning the run of a declaration has. -/
def planLog {m : Type → Type} [Monad m] (archive : Archive m) (options : DiffOptions)
    (inspector : Inspector) (text : String) : m (List LogLine) := do
  match TableDecl.parse text with
  | .error _ => return []
  | .ok decl =>
    match ← archive.names with
    | .error _ => return []
    | .ok names => return Plan.log options names inspector decl

end Archive

/-! ## Storing -/

namespace JournalEntry

/-- What is said of a change to an archive. -/
def line : JournalEntry → LogLine
  | stored path => .info s!"Created migration: {path}"
  | removed path => .warn s!"Rolled back {path}"
  | stuck path fault => .warn (s!"Failed to roll back {path}: " ++ fault.message)

end JournalEntry

namespace Artifact

/-- What is said of an artifact that was made. -/
def line (artifact : Artifact) : LogLine :=
  let name := artifact.name
  let forward := artifact.forward.length
  let inverse := artifact.inverse.length
  .debug s!"Emitted {name} ({forward} forward, {inverse} inverse operations)"

end Artifact

namespace StoredArtifact

/-- What is said of an artifact that was not stored in a trial run. -/
def trialLine (stored : StoredArtifact) : Option LogLine :=
  let name := stored.artifact.name
  if stored.path.isNone then some (.info s!"Would create migration: {name}") else none

end StoredArtifact

namespace RunReport

/-- The lines of a run after it was planned; `table` is the table of its
declaration. -/
def log (report : RunReport) (table : String) : List LogLine :=
  report.artifacts.map Artifact.line ++
  (match report.result with
   | .ok .upToDate => [.info s!"Table '{table}' is up to date"]
   | .ok (.generated artifacts) => artifacts.filterMap StoredArtifact.trialLine
   | .error _ => []) ++
  report.journal.map JournalEntry.line

end RunReport

end SchemaPlan
