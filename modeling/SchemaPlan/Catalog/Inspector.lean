import SchemaPlan.Catalog.Basic
import SchemaPlan.Fault

/-!
# Looking at the live schema

Planning needs to know whether a table is live and what a column of it looks
like. Whatever can answer these two questions can be planned with, and it may
fail to answer either: whether a table is live, for one column and not for
another, and with any fault.

Two inspectors come with the planner. With a database at hand a snapshot of its
schema answers (`Inspector.online`); without one no table is known, and asking
for a column is a fault (`Inspector.offline`).
-/

namespace SchemaPlan

/-- Where the live schema is looked up. The answers need not fit together: a
table may be live of which no column can be looked up. -/
structure Inspector where
  /-- Whether a table is live. -/
  isLive : String → Except Fault Bool
  /-- The live column of a table, if the table is live and has one of this
  name. -/
  lookup : String → String → Except Fault (Option LiveColumn)

namespace Inspector

/-- No database is configured. No table is live then, which is an answer, but
nothing is known of a column, which is a fault. -/
def offline : Inspector where
  isLive _ := .ok false
  lookup table column := .error (.inspectionUnavailable (.offline table column))

/-- The schema is known. It always answers, and a column of a table that is not
live is one that is not there. -/
def online (catalog : Catalog) : Inspector where
  isLive table := .ok (catalog.table? table).isSome
  lookup table column := .ok (catalog.column? table column)

/-- Whether the table is known to be live. A failure to answer counts as no
here; a run does not use this but stops at the failure. -/
def hasTable (inspector : Inspector) (table : String) : Bool :=
  match inspector.isLive table with
  | .ok live => live
  | .error _ => false

variable {catalog : Catalog} {table column : String}

@[simp] theorem isLive_offline : offline.isLive table = .ok false := rfl

@[simp] theorem lookup_offline :
    offline.lookup table column = .error (.inspectionUnavailable (.offline table column)) := rfl

@[simp] theorem isLive_online :
    (online catalog).isLive table = .ok (catalog.table? table).isSome := rfl

@[simp] theorem lookup_online :
    (online catalog).lookup table column = .ok (catalog.column? table column) :=
  rfl

end Inspector

end SchemaPlan
