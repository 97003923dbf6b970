import SchemaPlan.Proofs.FolderExchange
import SchemaPlan.Proofs.Replay

/-!
# Runs for different tables

A run reads the names that are stored and the live schema, and it changes both. It
reads little of either: of the names only whether one of them creates its own table
(`Archive.requested_congr`), and of the schema only its own table. What it adds are
names of its own table, which are never taken for a creation of another one, and
what its artifacts change is its own table. So a run finds the same before and after
one for another table, and of two such runs either can be the first
(`runs_for_different_tables`).

That their sources can be stored in either order is a matter of the archive, which
has to keep its sources apart (`Archive.KeepsApart`).
-/

namespace SchemaPlan

/-! ## What a run reads -/

section Reading

variable {options : DiffOptions} {c d : Catalog} {T : String}

theorem TableDiff.compareColumns_congr (same : c.table? T = d.table? T)
    (columns : List ColumnDecl) :
    compareColumns options (.online c) T columns = compareColumns options (.online d) T columns := by
  induction columns with
  | nil => rfl
  | cons column rest ih =>
    have live : c.column? T column.name = d.column? T column.name := by
      rw [Catalog.column?, same, Catalog.column?]
    simp [compareColumns, ih, compareColumn, live]

/-- **Planning looks at the declared table only**, and at names only for whether one of
them creates it. -/
theorem Archive.requested_congr {now : Instant} {text : String} {decl : TableDecl}
    {names others : List String} (parsed : TableDecl.parse text = .ok decl)
    (created : creates names decl.name = creates others decl.name)
    (same : c.table? decl.name = d.table? decl.name) :
    requested options (.ok names) (.online c) now text =
      requested options (.ok others) (.online d) now text := by
  have made : Plan.make options names (.online c) decl = Plan.make options others (.online d) decl := by
    simp only [Plan.make, Plan.findsTable_online, created, same, TableDiff.compare,
      TableDiff.alteration, TableDiff.compareColumns_congr same]
  unfold requested
  rw [parsed]
  show (Plan.make options names (.online c) decl).bind _ =
    (Plan.make options others (.online d) decl).bind _
  rw [made]

end Reading

/-! ## What a replay changes -/

namespace Catalog

variable {c d after : Catalog} {T : String}

theorem table?_erase_alike (c d : Catalog) (T : String) :
    (c.erase T).table? T = (d.erase T).table? T := by
  simp

theorem table?_put_alike (c d : Catalog) {table : LiveTable} (name : table.name = T) :
    (c.put table).table? T = (d.put table).table? T := by
  simp [← name]

theorem apply_alike (operation : Operation) (h : c.table? T = d.table? T) :
    (c.apply T operation).2 = (d.apply T operation).2 ∧
      (c.apply T operation).1.table? T = (d.apply T operation).1.table? T := by
  unfold apply
  rw [← h]
  cases live : c.table? T with
  | none => exact ⟨rfl, h⟩
  | some table =>
    dsimp only
    split
    · exact ⟨rfl, table?_erase_alike c d T⟩
    · rcases he : table.editAll operation.edits with ⟨changed, problem⟩
      have name : changed.name = T :=
        (LiveTable.name_of_editAll he).trans (name_of_table?_eq_some live)
      exact ⟨rfl, table?_put_alike c d name⟩

theorem applyAll_alike (operations : List Operation) (h : c.table? T = d.table? T) :
    (c.applyAll T operations).2 = (d.applyAll T operations).2 ∧
      (c.applyAll T operations).1.table? T = (d.applyAll T operations).1.table? T :=
  runUntilFault_congr (fun c : Catalog => c.table? T) (fun operation _ _ _ => apply_alike operation) h

/-- **Artifacts of one table do the same where this table is the same.** -/
theorem applyArtifacts_alike {artifacts : List Artifact}
    (tables : ∀ artifact ∈ artifacts, artifact.table = T) (h : c.table? T = d.table? T) :
    (c.applyArtifacts artifacts).2 = (d.applyArtifacts artifacts).2 ∧
      (c.applyArtifacts artifacts).1.table? T = (d.applyArtifacts artifacts).1.table? T := by
  refine runUntilFault_congr (fun c : Catalog => c.table? T) (fun artifact ha c d h => ?_) h
  have name := tables artifact ha
  unfold applyArtifact
  rw [name]
  split
  · rw [← h]
    cases c.table? T with
    | none => exact applyAll_alike _ (table?_put_alike c d rfl)
    | some table => exact ⟨rfl, h⟩
  · exact applyAll_alike _ h

/-- Artifacts that can be replayed can be replayed wherever their table is the same. -/
theorem exists_applyArtifacts {artifacts : List Artifact}
    (tables : ∀ artifact ∈ artifacts, artifact.table = T) (h : c.table? T = d.table? T)
    (applied : c.applyArtifacts artifacts = (after, none)) :
    ∃ other, d.applyArtifacts artifacts = (other, none) ∧ other.table? T = after.table? T := by
  obtain ⟨problem, same⟩ := applyArtifacts_alike tables h
  rw [applied] at problem same
  exact ⟨_, Prod.ext rfl problem.symm, same.symm⟩

/-- Artifacts of one table leave every other table as it was. -/
theorem table?_of_applyArtifacts {artifacts : List Artifact} {problem : Option ReplayProblem}
    (tables : ∀ artifact ∈ artifacts, artifact.table = T) {other : String} (different : other ≠ T)
    (applied : c.applyArtifacts artifacts = (after, problem)) : after.table? other = c.table? other := by
  rw [← table?_erase_of_ne after different, erase_of_applyArtifacts tables applied,
    table?_erase_of_ne c different]

end Catalog

/-! ## What a run adds -/

namespace Archive

variable {σ ε : Type} {archive : Archive (StateM σ)} {alike : σ → σ → Prop}
  {content : σ → String → Option ε} {entry : String → ε} {s t : σ} {artifacts : List Artifact}
  {paths names more : List String} {now : Instant} {T : String}

/-- **What is stored for one table is not taken for a creation of another one.** -/
theorem creates_of_storesAll (apart : archive.KeepsApart alike content entry) (sound : alike s s)
    (all : archive.StoresAll artifacts s paths t)
    (passes : ∀ artifact ∈ artifacts, MayPass now artifact.name)
    (others : ∀ artifact ∈ artifacts, isIdentifier artifact.table = true ∧ artifact.table ≠ T)
    (listed : archive.names.run s = (.ok names, s)) (listed' : archive.names.run t = (.ok more, t)) :
    creates more T = creates names T := by
  obtain ⟨sound', grown⟩ := all.names apart passes sound
  obtain ⟨_, again, lists⟩ := apart.names sound
  obtain ⟨_, again', lists'⟩ := apart.names sound'
  rw [listed] at again
  rw [listed'] at again'
  cases again
  cases again'
  have told (n : String) : n ∈ more ∧ createdTable? n = some T ↔
      n ∈ names ∧ createdTable? n = some T := by
    rw [lists', lists, grown]
    refine and_congr_left fun created => or_iff_right fun added => ?_
    obtain ⟨artifact, ha, rfl⟩ := List.mem_map.1 added
    exact (others artifact ha).2 (Artifact.table_of_createdTable? (others artifact ha).1 created).symm
  rw [Bool.eq_iff_iff]
  simp only [creates, List.any_eq_true, beq_iff_eq, told]

end Archive

/-! ## Two runs -/

/-- A run that is asked for: a declaration, how the run is to be made, and when. -/
structure RunRequest where
  /-- The text of the declaration. -/
  text : String
  /-- The options of the run. -/
  options : RunOptions
  /-- The time of the run. -/
  now : Instant

/-- **A run succeeds over an archive and a live schema, and its artifacts are replayed
in the schema**: from the state `s` and the schema `before` it leads to the state `t`
and the schema `after`. -/
structure Archive.Advances {σ : Type} (archive : Archive (StateM σ)) (request : RunRequest)
    (s : σ) (before : Catalog) (report : RunReport) (t : σ) (after : Catalog) : Prop where
  /-- This is what the run does. -/
  ran : (archive.generate request.options (.online before) request.now request.text).run s =
    (report, t)
  /-- It succeeds, and so does the replay. -/
  replayed : ∃ outcome, report.result = .ok outcome ∧
    before.applyArtifacts (outcome.artifacts.map StoredArtifact.artifact) = (after, none)

namespace Archive

variable {σ ε : Type} {archive : Archive (StateM σ)} {alike : σ → σ → Prop}
  {content : σ → String → Option ε} {entry : String → ε} {request : RunRequest} {s t : σ}
  {before after : Catalog} {report : RunReport} {names : List String}

/-- A run and its replay succeed exactly if the artifacts that are called for can be
stored and replayed. -/
theorem advances_iff (listed : archive.names.run s = (.ok names, s)) :
    archive.Advances request s before report t after ↔ ∃ artifacts paths,
      requested request.options.diff (.ok names) (.online before) request.now request.text =
        .ok artifacts ∧
      archive.StoresAll (kept request.options.trial artifacts) s paths t ∧
      report = succeeded request.options.trial artifacts paths ∧
      before.applyArtifacts artifacts = (after, none) := by
  constructor
  · rintro ⟨ran, outcome, result, applied⟩
    obtain ⟨_, _, artifacts, paths, again, made, all, rfl⟩ := generate_eq_iff.1 ⟨ran, _, result⟩
    rw [listed] at again
    cases again
    rw [artifacts_of_succeeded all result] at applied
    exact ⟨artifacts, paths, made, all, rfl, applied⟩
  · rintro ⟨artifacts, paths, made, all, rfl, applied⟩
    obtain ⟨ran, outcome, result⟩ :=
      generate_eq_iff.2 ⟨names, s, artifacts, paths, listed, made, all, rfl⟩
    refine ⟨ran, outcome, result, ?_⟩
    rw [artifacts_of_succeeded all result]
    exact applied

theorem mem_of_mem_kept {trial : Bool} {artifacts : List Artifact} {artifact : Artifact}
    (h : artifact ∈ kept trial artifacts) : artifact ∈ artifacts := by
  unfold kept at h
  split at h
  · exact absurd h List.not_mem_nil
  · exact h

/-- What a run makes is for the declared table and has names that may be passed on. -/
theorem of_requested_for {decl : TableDecl} {listed : Except Fault (List String)}
    {inspector : Inspector} {artifacts : List Artifact}
    (parsed : TableDecl.parse request.text = .ok decl)
    (made : requested request.options.diff listed inspector request.now request.text =
      .ok artifacts) :
    (∀ artifact ∈ artifacts, artifact.table = decl.name) ∧
      (∀ artifact ∈ artifacts, isIdentifier artifact.table = true) ∧
      ∀ artifact ∈ kept request.options.trial artifacts, MayPass request.now artifact.name := by
  obtain ⟨_, parsed', facts⟩ := of_requested made
  cases parsed.symm.trans parsed'
  have tables : ∀ artifact ∈ artifacts, artifact.table = decl.name := fun a ha => (facts a ha).1
  refine ⟨tables, fun a ha => ?_, fun a ha => mayPass_of_requested made a (mem_of_mem_kept ha)⟩
  rw [tables a ha]
  exact TableDecl.isIdentifier_of_parse parsed

end Archive

/-- **Runs for different tables can change places.** Let an archive keep its sources
apart, and let a run succeed and be replayed, and then a run for another table, each
with its own options and at its own time. Then the second run succeeds in place of the
first and the first after it, and both can be replayed. Each gives the same report as
before, with the same artifacts and places and the same changes to the archive. What
is stored in the end is the same under every name, and every table of the schema is
the same. -/
theorem runs_for_different_tables {σ ε : Type} {archive : Archive (StateM σ)}
    {alike : σ → σ → Prop} {content : σ → String → Option ε} {entry : String → ε}
    (apart : archive.KeepsApart alike content entry) {first second : RunRequest}
    {one other : TableDecl} (parsed : TableDecl.parse first.text = .ok one)
    (parsed' : TableDecl.parse second.text = .ok other) (different : one.name ≠ other.name)
    {s middle t : σ} {before between after : Catalog} {report report' : RunReport}
    (sound : alike s s) (run : archive.Advances first s before report middle between)
    (run' : archive.Advances second middle between report' t after) :
    ∃ middle' between' t' after',
      archive.Advances second s before report' middle' between' ∧
      archive.Advances first middle' between' report t' after' ∧
      alike t t' ∧ content t = content t' ∧ ∀ T, after'.table? T = after.table? T := by
  obtain ⟨names, listed, -⟩ := apart.names sound
  obtain ⟨artifacts, paths, made, all, rfl, applied⟩ := (Archive.advances_iff listed).1 run
  obtain ⟨tables, named, passes⟩ := Archive.of_requested_for parsed made
  have soundMiddle := (all.names apart passes sound).1
  obtain ⟨more, listed', -⟩ := apart.names soundMiddle
  obtain ⟨artifacts', paths', made', all', rfl, applied'⟩ := (Archive.advances_iff listed').1 run'
  obtain ⟨tables', named', passes'⟩ := Archive.of_requested_for parsed' made'
  -- the sources of the second run go first
  have apartNames : ∀ a ∈ Archive.kept first.options.trial artifacts,
      ∀ b ∈ Archive.kept second.options.trial artifacts', a.name ≠ b.name := by
    intro a ha b hb same
    have table := (Artifact.eq_of_name same).2.2
    rw [tables a (Archive.mem_of_mem_kept ha), tables' b (Archive.mem_of_mem_kept hb)] at table
    exact different table
  obtain ⟨middle', t', all₂, all₁, same⟩ := all.exchange apart passes passes' apartNames sound all'
  obtain ⟨others, listed₂, -⟩ := apart.names (all₂.names apart passes' sound).1
  -- it finds what it found after the first run, since that one was for another table
  have live : between.table? other.name = before.table? other.name :=
    Catalog.table?_of_applyArtifacts tables different.symm applied
  have created : Archive.creates more other.name = Archive.creates names other.name :=
    Archive.creates_of_storesAll apart sound all passes (fun a ha =>
      ⟨named a (Archive.mem_of_mem_kept ha), tables a (Archive.mem_of_mem_kept ha) ▸ different⟩)
      listed listed'
  obtain ⟨between', applied₂, table₂⟩ := Catalog.exists_applyArtifacts tables' live applied'
  have made₂ := (Archive.requested_congr parsed' created live).symm.trans made'
  -- and the first run finds after it what it found before
  have live' : between'.table? one.name = before.table? one.name :=
    Catalog.table?_of_applyArtifacts tables' different applied₂
  have created' : Archive.creates others one.name = Archive.creates names one.name :=
    Archive.creates_of_storesAll apart sound all₂ passes' (fun a ha =>
      ⟨named' a (Archive.mem_of_mem_kept ha),
        tables' a (Archive.mem_of_mem_kept ha) ▸ different.symm⟩) listed listed₂
  obtain ⟨after', applied₁, table₁⟩ := Catalog.exists_applyArtifacts tables live'.symm applied
  have made₁ := (Archive.requested_congr parsed created' live').trans made
  refine ⟨middle', between', t', after',
    (Archive.advances_iff listed).2 ⟨artifacts', paths', made₂, all₂, rfl, applied₂⟩,
    (Archive.advances_iff listed₂).2 ⟨artifacts, paths, made₁, all₁, rfl, applied₁⟩,
    same, apart.agree same, fun T => ?_⟩
  by_cases isOne : T = one.name
  · rw [isOne, table₁, Catalog.table?_of_applyArtifacts tables' different applied']
  · rw [Catalog.table?_of_applyArtifacts tables isOne applied₁]
    by_cases isOther : T = other.name
    · rw [isOther, table₂]
    · rw [Catalog.table?_of_applyArtifacts tables' isOther applied₂,
        Catalog.table?_of_applyArtifacts tables' isOther applied',
        Catalog.table?_of_applyArtifacts tables isOne applied]

/-! ## Two tables in one folder -/

namespace TwoTables

/-- A table of users. -/
def users : RunRequest := ⟨"users:email:string", ⟨false, .standard⟩, LongerNotes.start⟩

/-- A table of orders, at the same time. -/
def orders : RunRequest := ⟨"orders:title:text,timestamps", ⟨false, .standard⟩, LongerNotes.start⟩

/-- What a run over the folder does. -/
def run (request : RunRequest) (tree : FileTree) (catalog : Catalog) : RunReport × FileTree :=
  ((Archive.folder "migrations").generate request.options (.online catalog) request.now
    request.text).run tree

/-- The run for the users, in a folder that is not there yet. -/
def first : RunReport × FileTree := run users .empty .empty

/-- The schema with the users. -/
def between : Catalog := (Catalog.empty.applyArtifacts first.1.artifacts).1

/-- The run for the orders after it. -/
def second : RunReport × FileTree := run orders first.2 between

/-- The schema with both. -/
def last : Catalog := (between.applyArtifacts second.1.artifacts).1

theorem exists_decl (name text : String)
    (h : (TableDecl.parse text).toOption.any (fun decl => decl.name == name) = true) :
    ∃ decl, TableDecl.parse text = .ok decl ∧ decl.name = name := by
  obtain ⟨decl, parsed, same⟩ := exists_eq_ok_of_any h
  exact ⟨decl, parsed, by simpa using same⟩

/-- A folder that is not there, in a place where nothing is, can be listed. -/
theorem sound : Archive.SameFiles "migrations" .empty .empty := by
  refine ⟨rfl, .inr ⟨by decide, fun name => ?_⟩⟩
  rw [FileTree.at?_eq_find? (Archive.not_isFixed_fileAt "migrations" name)]
  rfl

theorem isDirect : Archive.IsDirect "migrations" :=
  Archive.isDirect_of_goesOn (FileTree.goesOn_of_notMem (by decide))

theorem advances {request : RunRequest} {tree : FileTree} {catalog after : Catalog}
    {done : RunReport × FileTree} (same : run request tree catalog = done)
    (h : done.1.result.toOption.any (fun outcome =>
      catalog.applyArtifacts (outcome.artifacts.map StoredArtifact.artifact) = (after, none)) =
        true) :
    (Archive.folder "migrations").Advances request tree catalog done.1 done.2 after := by
  obtain ⟨outcome, result, applied⟩ := exists_eq_ok_of_any h
  exact ⟨same, outcome, result, of_decide_eq_true applied⟩

theorem first_advances : (Archive.folder "migrations").Advances users .empty .empty
    first.1 first.2 between :=
  advances (rfl : run users .empty .empty = first) (by decide +kernel)

theorem second_advances : (Archive.folder "migrations").Advances orders first.2 between
    second.1 second.2 last :=
  advances (rfl : run orders first.2 between = second) (by decide +kernel)

end TwoTables

/-- The tables of users and orders can be made in either order. -/
theorem runs_for_different_tables_users :
    ∃ middle between t after,
      (Archive.folder "migrations").Advances TwoTables.orders .empty .empty TwoTables.second.1
        middle between ∧
      (Archive.folder "migrations").Advances TwoTables.users middle between TwoTables.first.1
        t after ∧
      TwoTables.second.2.at? = t.at? ∧ ∀ T, after.table? T = TwoTables.last.table? T := by
  obtain ⟨one, parsed, name⟩ := TwoTables.exists_decl "users" TwoTables.users.text (by decide +kernel)
  obtain ⟨other, parsed', name'⟩ :=
    TwoTables.exists_decl "orders" TwoTables.orders.text (by decide +kernel)
  have different : one.name ≠ other.name := by
    rw [name, name']
    decide
  obtain ⟨middle, between, t, after, run, run', same, -, tables⟩ :=
    runs_for_different_tables (Archive.keepsApart_folder TwoTables.isDirect) parsed parsed' different
      TwoTables.sound TwoTables.first_advances TwoTables.second_advances
  exact ⟨middle, between, t, after, run, run', same.1, tables⟩

end SchemaPlan
