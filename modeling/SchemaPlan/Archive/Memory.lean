import SchemaPlan.Archive.Basic

/-!
# Archives in memory

An archive that is a list of names and sources and holds at most so many of
them. The place of a source is its name. A source cannot be stored under a
name that is taken or when there is no room.
-/

namespace SchemaPlan.Archive

/-- Stores a source at the end of a list that may have so many entries. -/
def memoryPersist (capacity : Nat) (name source : String) (entries : List (String × String)) :
    Except Fault String × List (String × String) :=
  if name ∈ entries.map Prod.fst then (.error (.migrationExists name), entries)
  else if entries.length < capacity then (.ok name, entries ++ [(name, source)])
  else (.error .io, entries)

/-- The archive that is a list of at most so many names and sources. -/
def memory (capacity : Nat) : Archive (StateM (List (String × String))) where
  names := do return .ok ((← get).map Prod.fst)
  persist name source := fun entries => memoryPersist capacity name source entries
  remove path := fun entries => (.ok (), entries.filter fun entry => entry.1 != path)

end SchemaPlan.Archive
