import SchemaPlan.Fault

/-!
# Archives

An archive is where the sources of migrations are stored, each under the
name of its artifact. Planning reads the names; storing gives the place
where a source went, and what was stored can be removed from that place. How
an archive does this, and in which world, is left open: `m` is the monad its
operations live in.

`Archive.rollBack` removes what one run has stored. It starts with what was
stored last, and a failure does not keep it from trying the rest.
-/

namespace SchemaPlan

/-- A store for the sources of migrations. Any of its operations may fail, and
nothing is assumed of how they work together; what a theorem needs of that is a
hypothesis of its own. -/
structure Archive (m : Type → Type) where
  /-- The names of the stored migrations. -/
  names : m (Except Fault (List String))
  /-- Stores a source under a name and gives the place where it went. -/
  persist (name source : String) : m (Except Fault String)
  /-- Removes what was stored at a place. -/
  remove (path : String) : m (Except Fault Unit)

/-- One change that a run made to an archive, or tried to make. A source that
could not be stored leaves no entry, since nothing came of it. -/
inductive JournalEntry where
  /-- A source was stored at a place. -/
  | stored (path : String)
  /-- What was stored at a place was removed again. -/
  | removed (path : String)
  /-- What was stored at a place could not be removed. -/
  | stuck (path : String) (fault : Fault)

namespace Archive

variable {m : Type → Type} [Monad m]

/-- Removes what is stored at the given places, in order, and records for
each whether it succeeded. -/
def rollBack (archive : Archive m) : List String → m (List JournalEntry)
  | [] => return []
  | path :: rest => do
    let entry := match ← archive.remove path with
      | .ok _ => JournalEntry.removed path
      | .error fault => JournalEntry.stuck path fault
    let later ← archive.rollBack rest
    return entry :: later

end Archive

end SchemaPlan
