import SchemaPlan.Archive.Basic
import SchemaPlan.Archive.CreateName
import SchemaPlan.Declaration.Reading
import SchemaPlan.Source.Unit
import SchemaPlan.TableDiff.Artifacts

/-!
# From a declaration to stored migrations

A run reads a declaration, decides whether its table exists, compares the
two, and stores the artifacts that the comparison calls for. A table exists
when the archive has a migration that creates it or when it is live.

Everything is computed before anything is stored, and either all artifacts
of a run are stored or none: when one cannot be stored, those before it are
removed again. A trial run stores nothing and gives the same artifacts.
-/

namespace SchemaPlan

/-- What a declaration calls for, before any artifact is made. Options of
columns are not checked yet, so a plan may be made of which no artifact can be.
-/
structure Plan where
  /-- The declaration. -/
  decl : TableDecl
  /-- Whether the table was found to exist. -/
  tableExists : Bool
  /-- The outcome of the comparison. -/
  diff : TableDiff

/-- How a run is made. Where the migrations are stored and where the live
schema is looked up are not among the options. -/
structure RunOptions where
  /-- Whether this is a trial run, which stores nothing. -/
  trial : Bool
  /-- How the comparison is made. -/
  diff : DiffOptions

/-- An artifact and where its source was stored, if it was. In a trial run it
has no place. -/
structure StoredArtifact where
  /-- The artifact. -/
  artifact : Artifact
  /-- The place of its source. -/
  path : Option String

/-- What a run gives that succeeds. Having nothing to do is an outcome of its
own, and no failure. -/
inductive Outcome where
  /-- The live schema is as declared. -/
  | upToDate
  /-- Artifacts were made. -/
  | generated (artifacts : List StoredArtifact)

namespace Outcome

/-- The artifacts that were made, in order. -/
def artifacts : Outcome → List StoredArtifact
  | upToDate => []
  | generated artifacts => artifacts

end Outcome

namespace Plan

/-- Whether a table exists, given the names of the stored migrations: one of
them creates it, or it is live. The live schema is only asked when none of them
does, so that it cannot fail to answer when one does. -/
def findsTable (names : List String) (inspector : Inspector) (table : String) :
    Except Fault Bool :=
  if Archive.creates names table then .ok true else inspector.isLive table

/-- Compares a declaration with the live schema, given the names of the
stored migrations. -/
def make (options : DiffOptions) (names : List String) (inspector : Inspector)
    (decl : TableDecl) : Except Fault Plan := do
  let tableExists ← findsTable names inspector decl.name
  let diff ← TableDiff.compare options inspector decl tableExists
  return ⟨decl, tableExists, diff⟩

/-- The artifacts that a plan calls for; none when there is nothing to do. -/
def artifacts (plan : Plan) (now : Instant) : Except Fault (List Artifact) :=
  if plan.diff.isUpToDate then .ok [] else plan.diff.artifacts plan.decl now

end Plan

/-- What a run did. A run can fail after it has changed the archive; what it
changed is in the journal in any case. -/
structure RunReport where
  /-- The artifacts that were made, whether or not they could be stored. -/
  artifacts : List Artifact
  /-- The outcome, or what stopped the run. -/
  result : Except Fault Outcome
  /-- The changes made to the archive, in order. -/
  journal : List JournalEntry

/-- The report of a run that was stopped before anything was made. -/
def RunReport.stopped (fault : Fault) : RunReport where
  artifacts := []
  result := .error fault
  journal := []

namespace Archive

variable {m : Type → Type} [Monad m]

/-- Plans the run of a declaration. The archive is only asked for its names,
and only once the declaration is known to be right. -/
def plan (archive : Archive m) (options : DiffOptions) (inspector : Inspector)
    (text : String) : m (Except Fault Plan) := do
  match TableDecl.parse text with
  | .error fault => return .error fault
  | .ok decl =>
    match ← archive.names with
    | .error fault => return .error fault
    | .ok names => return Plan.make options names inspector decl

/-- Stores artifacts in order. When one cannot be stored, those of this run
are removed again, the last one first; `paths` are the places of those
stored before. -/
def persistAll (archive : Archive m) (paths : List String) :
    List Artifact → m (Except Fault (List StoredArtifact) × List JournalEntry)
  | [] => return (.ok [], [])
  | artifact :: rest => do
    match ← archive.persist artifact.name artifact.source with
    | .error fault => return (.error fault, ← archive.rollBack paths)
    | .ok path =>
      let (result, journal) ← archive.persistAll (path :: paths) rest
      return (result.map fun later => ⟨artifact, some path⟩ :: later, .stored path :: journal)

/-- Stores the artifacts of a plan, unless the run is a trial. Where there are
no artifacts the archive is not asked for anything. -/
def carryOut (archive : Archive m) (trial : Bool) (artifacts : List Artifact) :
    m RunReport := do
  if artifacts.isEmpty then
    return ⟨[], .ok .upToDate, []⟩
  else if trial then
    return ⟨artifacts, .ok (.generated (artifacts.map fun artifact => ⟨artifact, none⟩)), []⟩
  else
    let (result, journal) ← archive.persistAll [] artifacts
    return ⟨artifacts, result.map .generated, journal⟩

/-- Runs a declaration: plans it, makes its artifacts and stores them. -/
def generate (archive : Archive m) (options : RunOptions) (inspector : Inspector)
    (now : Instant) (text : String) : m RunReport := do
  match ← archive.plan options.diff inspector text with
  | .error fault => return .stopped fault
  | .ok plan =>
    match plan.artifacts now with
    | .error fault => return .stopped fault
    | .ok artifacts => archive.carryOut options.trial artifacts

end Archive

end SchemaPlan
