import SchemaPlan.Proofs.AllOrNothing
import SchemaPlan.Proofs.Planning

/-!
# Running without a database

Without a database no table is known to be live, and a look-up of a column is a fault.
The creation of a table looks nothing up, so it is planned as with a database that does
not have the table. To alter one, every column is looked up that the framework does not
look after, before anything else about it is decided: whether it is marked for removal,
and whether drops are strict, does not matter any more (`TableDiff.compareColumns_offline`).

A table that is not live can still exist, since a migration that creates it may be
stored. That is how a run without a database comes to alter a table (`offline_runs`).
-/

namespace SchemaPlan

/-! ## Comparisons without a database -/

namespace TableDiff

variable {options : DiffOptions} {decl : TableDecl}

/-- **Without a database the first column that is looked up is a fault.** -/
theorem compareColumns_offline (table : String) (columns : List ColumnDecl) :
    compareColumns options .offline table columns =
      match columns.find? fun c => c.name ∉ options.systemColumns with
      | none => .ok (columns.map fun c => (c.name, some .unchanged))
      | some c => .error (.inspectionUnavailable (.offline table c.name)) := by
  induction columns with
  | nil => rfl
  | cons c rest ih =>
    rw [compareColumns, compareColumn]
    by_cases system : c.name ∈ options.systemColumns
    · rw [if_pos (List.contains_iff_mem.2 system), ih, List.find?_cons_of_neg (by simpa using system)]
      cases rest.find? fun c => c.name ∉ options.systemColumns <;> rfl
    · rw [if_neg fun found => system (List.contains_iff_mem.1 found),
        List.find?_cons_of_pos (by simpa using system)]
      rfl

/-- A table can be altered without a database if all of its columns are looked after by
the framework, and then there is nothing to do. -/
theorem exists_alteration_offline (system : ∀ c ∈ decl.columns, c.name ∈ options.systemColumns) :
    ∃ diff, alteration options .offline decl = .ok diff ∧ diff.isUpToDate = true := by
  have unseen : (decl.columns.find? fun c => c.name ∉ options.systemColumns) = none :=
    List.find?_eq_none.2 fun c hc => by simpa using system c hc
  refine ⟨_, bind_eq_ok_iff.2 ⟨_, by rw [compareColumns_offline, unseen], rfl⟩, ?_⟩
  rw [isUpToDate, Bool.and_eq_true, List.all_eq_true]
  refine ⟨rfl, fun change hm => ?_⟩
  obtain ⟨⟨name, action⟩, he, called⟩ := List.mem_filterMap.1 hm
  obtain ⟨c, -, same⟩ := List.mem_map.1 he
  cases same
  cases called
  rfl

theorem alteration_offline_eq_error {c : ColumnDecl}
    (first : (decl.columns.find? fun c => c.name ∉ options.systemColumns) = some c) :
    alteration options .offline decl =
      .error (.inspectionUnavailable (.offline decl.name c.name)) := by
  rw [alteration, compareColumns_offline, first]
  rfl

end TableDiff

/-! ## Plans without a database -/

namespace Plan

variable {options : DiffOptions} {names : List String} {decl : TableDecl} {catalog : Catalog}

/-- **To create a table, no database is needed.** -/
theorem make_offline_of_uncreated (uncreated : Archive.creates names decl.name = false)
    (absent : catalog.table? decl.name = none) :
    make options names .offline decl = make options names (.online catalog) decl := by
  have missing : findsTable names (.online catalog) decl.name = .ok false :=
    findsTable_eq_false_iff.2 ⟨uncreated, by rw [Inspector.isLive_online, absent]; rfl⟩
  rw [make, make, missing, findsTable_offline, uncreated]
  rfl

/-- A table that is found is altered. -/
theorem make_of_found {inspector : Inspector}
    (found : findsTable names inspector decl.name = .ok true) :
    make options names inspector decl =
      (TableDiff.alteration options inspector decl).map fun diff => ⟨decl, true, diff⟩ := by
  rw [make, found]
  show (TableDiff.alteration options inspector decl).bind _ = _
  cases TableDiff.alteration options inspector decl <;> rfl

end Plan

/-! ## Runs without a database -/

namespace Archive

variable {σ : Type} {archive : Archive (StateM σ)} {options : RunOptions} {now : Instant}
  {text : String} {s : σ} {decl : TableDecl}

/-- **The archive lists a migration that creates the table.** Then the table
counts as one that exists, whether or not the migration was ever replayed. -/
def ListsCreation (archive : Archive (StateM σ)) (s : σ) (table : String) : Prop :=
  ∃ names, (archive.names.run s).1 = .ok names ∧ creates names table = true

/-- Where no creation of the table is stored, a run cannot tell whether there is no
database or a database without the table. -/
theorem run_offline_of_unlisted {catalog : Catalog}
    (fresh : ∀ decl, TableDecl.parse text = .ok decl →
      ¬ archive.ListsCreation s decl.name ∧ catalog.table? decl.name = none) :
    (archive.generate options .offline now text).run s =
      (archive.generate options (.online catalog) now text).run s := by
  refine run_generate_congr fun decl names parsed listed => ?_
  obtain ⟨unlisted, absent⟩ := fresh decl parsed
  have uncreated : creates names decl.name = false :=
    Bool.eq_false_iff.2 fun created => unlisted ⟨names, listed, created⟩
  exact Plan.make_offline_of_uncreated uncreated absent

/-- Where its creation is stored, the first column that is to be looked up stops a run. -/
theorem run_offline_of_listed (parsed : TableDecl.parse text = .ok decl)
    (created : archive.ListsCreation s decl.name) {c : ColumnDecl}
    (first : (decl.columns.find? fun c => c.name ∉ options.diff.systemColumns) = some c) :
    (archive.generate options .offline now text).run s =
      (.stopped (.inspectionUnavailable (.offline decl.name c.name)), (archive.names.run s).2) := by
  obtain ⟨names, listed, created⟩ := created
  refine run_generate_of_refused parsed listed ?_
  rw [Plan.make_of_found (Plan.findsTable_of_created created), TableDiff.alteration_offline_eq_error first]
  rfl

/-- And where no column is to be looked up, there is nothing to do. -/
theorem run_offline_of_system (parsed : TableDecl.parse text = .ok decl)
    (created : archive.ListsCreation s decl.name)
    (system : ∀ c ∈ decl.columns, c.name ∈ options.diff.systemColumns) :
    (archive.generate options .offline now text).run s =
      (⟨[], .ok .upToDate, []⟩, (archive.names.run s).2) := by
  obtain ⟨names, listed, created⟩ := created
  obtain ⟨diff, altered, upToDate⟩ := TableDiff.exists_alteration_offline system
  have made : Plan.make options.diff names .offline decl = .ok ⟨decl, true, diff⟩ := by
    rw [Plan.make_of_found (Plan.findsTable_of_created created), altered]
    rfl
  exact run_generate_of_upToDate parsed listed made upToDate

end Archive

/-- **Runs without a database agree with those that find no table.** If the archive lists
no creation of the declared table, a run without a database is the same in all respects
as one with any schema that does not have the table: they give the same report, and leave
the archive in the same state. If the archive lists one, the run without a database stores
nothing. Then it has nothing to do if the framework looks after every declared column, and
otherwise the first of the other columns cannot be looked up; whether that column is marked
for removal and drops are strict makes no difference. -/
theorem offline_runs {σ : Type} {archive : Archive (StateM σ)}
    {content : σ → String → Option String} (keeps : archive.Keeps content) (options : RunOptions)
    (now : Instant) (text : String) (s : σ) :
    (∀ catalog : Catalog, (∀ decl, TableDecl.parse text = .ok decl →
        ¬ archive.ListsCreation s decl.name ∧ catalog.table? decl.name = none) →
      (archive.generate options .offline now text).run s =
        (archive.generate options (.online catalog) now text).run s) ∧
    ∀ decl, TableDecl.parse text = .ok decl → archive.ListsCreation s decl.name →
      content ((archive.generate options .offline now text).run s).2 = content s ∧
      ((∃ c ∈ decl.columns, c.name ∉ options.diff.systemColumns) →
        ∃ c, (decl.columns.find? fun c => c.name ∉ options.diff.systemColumns) = some c ∧
          ((archive.generate options .offline now text).run s).1 =
            .stopped (.inspectionUnavailable (.offline decl.name c.name))) ∧
      ((∀ c ∈ decl.columns, c.name ∈ options.diff.systemColumns) →
        ((archive.generate options .offline now text).run s).1 = ⟨[], .ok .upToDate, []⟩) := by
  refine ⟨fun catalog fresh => Archive.run_offline_of_unlisted fresh,
    fun decl parsed created => ?_⟩
  cases first : decl.columns.find? fun c => c.name ∉ options.diff.systemColumns with
  | none =>
    have system : ∀ c ∈ decl.columns, c.name ∈ options.diff.systemColumns := by
      simpa using first
    rw [Archive.run_offline_of_system parsed created system]
    refine ⟨keeps.names s, ?_, fun _ => rfl⟩
    rintro ⟨c, hc, own⟩
    exact absurd (system c hc) own
  | some c =>
    have own : c.name ∉ options.diff.systemColumns := by
      simpa using List.find?_some first
    rw [Archive.run_offline_of_listed parsed created first]
    exact ⟨keeps.names s, fun _ => ⟨c, rfl, rfl⟩,
      fun system => absurd (system c (List.mem_of_find?_eq_some first)) own⟩

namespace WaitingOrders

/-- Orders with a key of their own and a column to be removed. -/
def text : String := "orders:id:uuid,legacy:text:drop"

/-- The column to be removed. -/
def legacy : ColumnDecl := (ColumnDecl.new "legacy" .text).withFlag "drop"

/-- The orders that the text declares. -/
def decl : TableDecl where
  name := "orders"
  columns := [.new "id" .uuid, legacy]
  flags := ⟨false, false⟩
  indexes := []

/-- Orders with a key of their own. -/
def bare : String := "orders:id:uuid"

/-- The orders that the bare text declares. -/
def bareDecl : TableDecl where
  name := "orders"
  columns := [.new "id" .uuid]
  flags := ⟨false, false⟩
  indexes := []

/-- How the runs are made: drops are strict. -/
def options : RunOptions := ⟨false, DiffOptions.standard.systemColumns, true⟩

/-- An archive with the creation of the orders. -/
def entries : List (String × String) := [("1970_01_01_000000_create_orders_table", "")]

/-- What a run without a database does. -/
def run (text : String) (entries : List (String × String)) :
    RunReport × List (String × String) :=
  ((Archive.memory 1).generate options .offline LongerNotes.start text).run entries

theorem parsed : TableDecl.parse text = .ok decl := eq_ok_of_any_beq (by decide +kernel)

theorem parsed_bare : TableDecl.parse bare = .ok bareDecl := eq_ok_of_any_beq (by decide +kernel)

theorem listsCreation : (Archive.memory 1).ListsCreation entries "orders" :=
  ⟨["1970_01_01_000000_create_orders_table"], rfl, by decide +kernel⟩

theorem not_listsCreation : ¬ (Archive.memory 1).ListsCreation [] "orders" := by
  rintro ⟨names, listed, created⟩
  cases listed
  cases created

end WaitingOrders

/-- With nothing stored the orders are created as if there were a database without them.
Once their creation is stored the column to be removed has to be looked up, and the key
has not. -/
theorem offline_runs_orders :
    WaitingOrders.run WaitingOrders.text [] =
      ((Archive.memory 1).generate WaitingOrders.options (.online LongerNotes.before)
        LongerNotes.start WaitingOrders.text).run [] ∧
    (WaitingOrders.run WaitingOrders.text WaitingOrders.entries).1 =
      .stopped (.inspectionUnavailable (.offline "orders" "legacy")) ∧
    (WaitingOrders.run WaitingOrders.bare WaitingOrders.entries).1 = ⟨[], .ok .upToDate, []⟩ := by
  have runs := offline_runs (Archive.keeps_memory 1) WaitingOrders.options LongerNotes.start
  have listed := WaitingOrders.listsCreation
  refine ⟨?_, ?_, ?_⟩
  · refine (runs WaitingOrders.text []).1 LongerNotes.before fun decl parsed => ?_
    cases WaitingOrders.parsed.symm.trans parsed
    exact ⟨WaitingOrders.not_listsCreation, by decide⟩
  · -- the key is looked after by the framework, so the other column is the first to be looked up
    have own : "legacy" ∉ WaitingOrders.options.diff.systemColumns := by decide
    have other : (WaitingOrders.decl.columns.find? fun c =>
        c.name ∉ WaitingOrders.options.diff.systemColumns) = some WaitingOrders.legacy := by decide
    obtain ⟨c, first, stopped⟩ := ((runs WaitingOrders.text WaitingOrders.entries).2 _
      WaitingOrders.parsed listed).2.1
        ⟨WaitingOrders.legacy, List.mem_cons_of_mem _ List.mem_cons_self, own⟩
    cases other.symm.trans first
    exact stopped
  · have system : ∀ c ∈ WaitingOrders.bareDecl.columns,
        c.name ∈ WaitingOrders.options.diff.systemColumns := by
      intro c hc
      cases List.mem_singleton.1 hc
      decide
    exact ((runs WaitingOrders.bare WaitingOrders.entries).2 _ WaitingOrders.parsed_bare
      listed).2.2 system

end SchemaPlan
