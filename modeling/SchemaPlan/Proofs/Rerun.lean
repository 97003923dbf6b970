import SchemaPlan.Proofs.Chronology
import SchemaPlan.Proofs.OneCreation
import SchemaPlan.Proofs.Planning

/-!
# Running again before anything is replayed

A run compares a declaration with the live schema. What it stores is replayed
later, and until then the live schema is as it was. So a second run of the same
declaration finds what the first one found, and the migrations that are waiting
to be replayed make no difference to it: it calls for the same artifacts again
(`rerun_before_replay`). Only a run that had nothing to do is followed by one
that has nothing to do.

The exception is the creation of a table, which is found by its name. The second
run takes the table for one that exists, and does not create it again.
-/

namespace SchemaPlan

/-! ## Times that can be represented -/

/-- The seconds after an instant of a common year are there. -/
theorem Instant.isSome_later? {t : Instant} (common : t.IsCommon) {n : Nat} (small : n ≤ 3) :
    (t.later? n).isSome := by
  have year : Calendar.yearOfDay (t.seconds / 86400 + 719162) ≤ 9999 := common.2
  have high : t.seconds + n ≤ 8210266876799 := by
    unfold Calendar.yearOfDay at year
    dsimp only at year
    split at year
    · omega
    · omega
  have low := t.representable.1
  unfold later? ofUnix?
  split
  · rfl
  · rw [dif_pos ⟨by omega, high⟩, dif_pos (.inl t.subsecond_lt)]
    rfl

/-- Whatever comes before a time that can be represented can be, too. -/
theorem Instant.isSome_later?_of_le {t : Instant} {n m : Nat} (le : m ≤ n)
    (h : (t.later? n).isSome = true) : (t.later? m).isSome = true := by
  have low := t.representable.1
  unfold later? ofUnix? at h ⊢
  split
  · rfl
  · rw [if_neg (by omega)] at h
    split at h
    · rw [dif_pos ⟨by omega, by omega⟩, dif_pos (.inl t.subsecond_lt)]
      rfl
    · cases h

namespace TableDiff

variable {diff : TableDiff} {decl : TableDecl} {bodies : List ArtifactBody} {table : String}
  {now : Instant}

/-- Bodies can be given their times when these can be represented. -/
theorem exists_dated {seconds : Nat}
    (h : ∀ n < seconds + bodies.length, (now.later? n).isSome) :
    ∃ artifacts, dated table now seconds bodies = .ok artifacts := by
  induction bodies generalizing seconds with
  | nil => exact ⟨[], rfl⟩
  | cons body rest ih =>
    rw [List.length_cons] at h
    obtain ⟨later, tail⟩ := @ih (seconds + 1) fun n hn => h n (by omega)
    obtain ⟨time, first⟩ := Option.isSome_iff_exists.1 (h seconds (by omega))
    rw [dated, first]
    exact ⟨_, bind_eq_ok_iff.2 ⟨later, tail, rfl⟩⟩

end TableDiff

/-! ## The same plan at another time -/

/-- Whatever a plan for a table that exists calls for, it calls for at another
time of a common year. -/
theorem Plan.artifacts_again {plan : Plan} {now later : Instant} {artifacts : List Artifact}
    (alters : plan.diff.tableAction = .alter) (planned : plan.artifacts now = .ok artifacts)
    (common : later.IsCommon) : ∃ others, plan.artifacts later = .ok others ∧
      TableDiff.dated plan.diff.table later 0 (artifacts.map Artifact.body) = .ok others := by
  unfold Plan.artifacts at planned ⊢
  by_cases upToDate : plan.diff.isUpToDate = true
  · rw [if_pos upToDate] at planned ⊢
    cases planned
    exact ⟨[], rfl, rfl⟩
  · rw [if_neg upToDate] at planned ⊢
    obtain ⟨made, -⟩ := TableDiff.of_artifacts planned
    obtain ⟨specs, same, -⟩ := TableDiff.exists_specs_of_alter alters made
    have few := same ▸ specs.length_bodies_le
    obtain ⟨others, dated⟩ := @TableDiff.exists_dated (artifacts.map Artifact.body) plan.diff.table
      later 0 fun n hn => Instant.isSome_later? common (by omega)
    exact ⟨others, bind_eq_ok_iff.2 ⟨_, made, dated⟩, dated⟩

namespace Archive

variable {σ : Type} {archive : Archive (StateM σ)} {content : σ → String → Option String}
  {options : DiffOptions} {inspector : Inspector} {now : Instant} {text : String} {s t : σ}
  {report : RunReport} {decl : TableDecl} {names : List String} {plan : Plan}
  {artifacts : List Artifact}

theorem creates_of_subset {table : String} {more : List String} (h : ∀ n ∈ names, n ∈ more)
    (creates : creates names table = true) : Archive.creates more table = true := by
  obtain ⟨n, hn, created⟩ := List.any_eq_true.1 creates
  exact List.any_eq_true.2 ⟨n, h n hn, created⟩

/-- A run that finds nothing to do was to make nothing. -/
theorem eq_nil_of_carryOut {trial : Bool}
    (h : ((archive.carryOut trial artifacts).run s).1.result = .ok .upToDate) : artifacts = [] := by
  by_contra nonempty
  cases trial with
  | true =>
    rw [run_carryOut_trial nonempty] at h
    cases h
  | false =>
    rw [run_carryOut_store nonempty] at h
    dsimp only at h
    cases hp : ((archive.persistAll [] artifacts).run s).1.1 with
    | error fault =>
      rw [hp] at h
      cases h
    | ok entries =>
      rw [hp] at h
      cases h

/-- What a run makes is what was planned, if that could be made. -/
theorem artifacts_of_made (parsed : TableDecl.parse text = .ok decl)
    (listed : (archive.names.run s).1 = .ok names)
    (made : Plan.make options names inspector decl = .ok plan)
    (ran : (archive.generate ⟨false, options⟩ inspector now text).run s = (report, t)) :
    report.artifacts = (plan.artifacts now).toOption.getD [] := by
  rw [run_generate_of_made parsed listed made] at ran
  have reported := congrArg (fun r => r.1.artifacts) ran
  dsimp only at reported
  rw [← reported]
  cases plan.artifacts now with
  | error fault => rfl
  | ok artifacts => exact artifacts_carryOut false artifacts _

/-- A run that is planned to do nothing says so and leaves the archive as it
is. -/
theorem of_planned_nothing (keeps : archive.Keeps content)
    (parsed : TableDecl.parse text = .ok decl) (listed : (archive.names.run s).1 = .ok names)
    (made : Plan.make options names inspector decl = .ok plan) (planned : plan.artifacts now = .ok [])
    (ran : (archive.generate ⟨false, options⟩ inspector now text).run s = (report, t)) :
    report.artifacts = [] ∧ report.result = .ok .upToDate ∧ content t = content s := by
  rw [run_generate_of_made parsed listed made, planned] at ran
  cases ran
  exact ⟨rfl, rfl, keeps.names s⟩

/-- A run that succeeds has made what was planned, and has stored it. -/
theorem of_succeeded {outcome : Outcome}
    (ran : (archive.generate ⟨false, options⟩ inspector now text).run s = (report, t))
    (succeeded : report.result = .ok outcome) :
    ∃ decl names plan, TableDecl.parse text = .ok decl ∧ (archive.names.run s).1 = .ok names ∧
      Plan.make options names inspector decl = .ok plan ∧
      plan.artifacts now = .ok report.artifacts ∧ report.stored = report.artifacts := by
  rcases parsed : TableDecl.parse text with fault | decl
  · rw [run_generate_of_parse_error parsed] at ran
    cases ran
    cases succeeded
  · rcases hn : archive.names.run s with ⟨names, listed⟩
    rw [run_generate parsed hn] at ran
    cases hr : requested options names inspector now text with
    | error fault =>
      rw [hr] at ran
      cases ran
      cases succeeded
    | ok artifacts =>
      rw [hr] at ran
      obtain ⟨_, found, plan, parsed', rfl, made, planned⟩ := requested_eq_ok_iff.1 hr
      cases parsed.symm.trans parsed'
      have carried : (archive.carryOut false artifacts).run listed = (report, t) := ran
      have same := @artifacts_carryOut σ archive false artifacts listed
      rw [carried] at same
      have same : report.artifacts = artifacts := same
      refine ⟨decl, found, plan, rfl, rfl, made, same ▸ planned, ?_⟩
      unfold RunReport.stored
      rw [succeeded, same]
      cases outcome with
      | upToDate =>
        rw [@eq_nil_of_carryOut σ archive listed artifacts false (by rw [carried]; exact succeeded)]
        rfl
      | generated entries =>
        exact (artifacts_of_carryOut (by rw [carried]; exact succeeded)).2

end Archive

/-! ## The second run -/

/-- The columns that a declaration keeps and that the framework does not look after. A
table without any column is short of these. -/
def TableDecl.wantedColumns (decl : TableDecl) (options : DiffOptions) : List ColumnDecl :=
  decl.columns.filter fun c => !c.isMarkedForDrop && !options.systemColumns.contains c.name

section Absent

variable {options : DiffOptions} {before : Catalog} {decl : TableDecl} {diff : TableDiff}
  {specs : List ColumnSpec}

/-- What a column calls for in a table that is not live: it is new, if it is to be kept. -/
theorem TableDiff.verdict_of_absent (absent : before.table? decl.name = none) (c : ColumnDecl) :
    verdict options before decl.name c =
      if options.systemColumns.contains c.name then some .unchanged
      else if c.isMarkedForDrop then none else some (.new c) := by
  have missing : before.column? decl.name c.name = none := by
    rw [Catalog.column?, absent]
    rfl
  rw [verdict, missing]
  rfl

/-- So an alteration of it adds the columns that are wanted, and does nothing else. -/
theorem TableDiff.columns_of_absent
    (compared : alteration options (.online before) decl = .ok diff)
    (absent : before.table? decl.name = none) :
    diff.newColumns = decl.wantedColumns options ∧ diff.modifiedColumns = [] ∧
      diff.droppedColumns = [] := by
  rw [newColumns_eq compared, modifiedColumns_eq compared, droppedColumns_eq compared,
    TableDecl.wantedColumns, ← List.filterMap_eq_filter]
  simp only [verdict_of_absent absent]
  refine ⟨List.filterMap_congr fun c _ => ?_, List.filterMap_eq_nil_iff.2 fun c _ => ?_,
    List.filterMap_eq_nil_iff.2 fun c _ => ?_⟩
  · rw [Option.guard]
    cases options.systemColumns.contains c.name <;> cases c.isMarkedForDrop <;> rfl
  · cases options.systemColumns.contains c.name <;> cases c.isMarkedForDrop <;> rfl
  · cases options.systemColumns.contains c.name <;> cases c.isMarkedForDrop <;> rfl

/-- A table that can be created has wanted columns that can be added. -/
theorem TableDecl.exists_specs_of_wanted {now : Instant} {artifacts : List Artifact}
    {tableExists : Bool}
    (planned : Plan.artifacts ⟨decl, tableExists, .creation decl⟩ now = .ok artifacts) :
    ∃ specs, (decl.wantedColumns .standard).mapM ColumnSpec.ofDecl = .ok specs := by
  have creates : (TableDiff.creation decl).isUpToDate = false := rfl
  rw [Plan.artifacts, creates, if_neg Bool.false_ne_true] at planned
  obtain ⟨made, -, described, -⟩ := TableDiff.exists_specs_of_creation planned
  refine exists_mapM_eq_ok fun c hc => ?_
  have explicit : c ∈ TableDiff.explicitColumns decl := by
    obtain ⟨declared, wanted⟩ := List.mem_filter.1 hc
    rw [Bool.and_eq_true, Bool.not_eq_true', Bool.not_eq_true'] at wanted
    have other : ¬ c.name = "id" := fun id => by
      rw [id] at wanted
      exact absurd wanted.2 (by decide)
    refine List.mem_filter.2 ⟨List.mem_filter.2 ⟨declared, ?_⟩, ?_⟩
    · simp [TableDiff.isKept, wanted.1]
    · simp [TableDiff.isImpliedKey, other]
  exact (exists_of_mapM_eq_ok described explicit).imp fun _ => And.right

/-- The artifact that adds columns to a table. -/
def additionArtifact (table : String) (specs : List ColumnSpec) (now : Instant) : Artifact where
  kind := .addColumns
  table := table
  createdAt := now
  forward := specs.map .addColumn
  inverse := specs.flatMap ColumnSpec.removal

/-- **What a plan calls for to alter a table that is not live**: one artifact that adds all
wanted columns, if there are any. -/
theorem Plan.artifacts_of_absent (compared : TableDiff.alteration options (.online before) decl = .ok diff)
    (absent : before.table? decl.name = none)
    (described : (decl.wantedColumns options).mapM ColumnSpec.ofDecl = .ok specs) (now : Instant) :
    Plan.artifacts ⟨decl, true, diff⟩ now =
      .ok (if specs = [] then [] else [additionArtifact decl.name specs now]) := by
  obtain ⟨table, alters, -⟩ := TableDiff.changes_of_alteration compared
  obtain ⟨new, modified, dropped⟩ := TableDiff.columns_of_absent compared absent
  have bodies : diff.bodies decl =
      .ok (TableDiff.bodyOf .addColumns (specs.map .addColumn) (specs.flatMap ColumnSpec.removal)) := by
    rw [TableDiff.bodies, alters, TableDiff.additionBody, TableDiff.modificationBody,
      TableDiff.removalBody, new, modified, dropped, described]
    exact congrArg Except.ok ((List.append_nil _).trans (List.append_nil _))
  have idle : diff.isUpToDate = true ↔ specs = [] := by
    have members := mapM_eq_ok_iff.1 described
    rw [TableDiff.isUpToDate_iff alters]
    simp [TableDiff.bucket, TableDiff.columnsOf, new, modified, dropped, ← List.length_eq_zero_iff,
      members.length_eq]
  rw [Plan.artifacts]
  by_cases empty : specs = []
  · rw [if_pos empty, if_pos (idle.2 empty)]
  · have filled : (specs.map Operation.addColumn).isEmpty = false := by
      rw [List.isEmpty_map]
      exact List.isEmpty_eq_false_iff.2 empty
    rw [if_neg empty, if_neg (idle.not.2 empty), TableDiff.artifacts, bodies, TableDiff.bodyOf,
      filled, ← table]
    rfl

end Absent

namespace Archive

/-- After a run that has succeeded its table is taken for one that exists: it
was one before, or its creation is stored and found by its name. -/
theorem exists_after_run {σ : Type} {archive : Archive (StateM σ)}
    {content : σ → String → Option String} (keeps : archive.Keeps content)
    (lists : archive.Lists content) {options : DiffOptions} {s t : σ} {before : Catalog}
    {decl : TableDecl} {now : Instant} {text : String} {report : RunReport} {outcome : Outcome}
    {names : List String} (parsed : TableDecl.parse text = .ok decl) (common : now.IsCommon)
    (ran : (archive.generate ⟨false, options⟩ (.online before) now text).run s = (report, t))
    (succeeded : report.result = .ok outcome) (listed : (archive.names.run t).1 = .ok names) :
    Plan.findsTable names (.online before) decl.name = .ok true := by
  obtain ⟨_, found, plan, parsed', found', made, planned, stored⟩ := of_succeeded ran succeeded
  cases parsed.symm.trans parsed'
  obtain ⟨tableExists, diff, exist, compared, rfl⟩ := Plan.make_eq_ok_iff.1 made
  have grown := grown_generate keeps ran
  have listed' : ∀ n source, content t n = some source → n ∈ names := fun n source held =>
    (lists t names listed n).2 (Option.isSome_iff_exists.2 ⟨source, held⟩)
  rw [Plan.findsTable_online] at exist ⊢
  rw [Except.ok.injEq, Bool.or_eq_true]
  cases tableExists with
  | true =>
    refine (Bool.or_eq_true_iff.1 (Except.ok.inj exist)).imp_left
      (creates_of_subset fun n hn => ?_)
    obtain ⟨source, held⟩ := Option.isSome_iff_exists.1 ((lists s found found' n).1 hn)
    exact listed' n source (grown.preserves held)
  | false =>
    cases compared
    obtain ⟨artifact, one, kind, table, time⟩ := Plan.of_artifacts_creation planned
    have member : artifact ∈ report.stored := by
      rw [stored, one]
      exact List.mem_singleton.2 rfl
    have named : isIdentifier artifact.table = true :=
      table ▸ TableDecl.isIdentifier_of_parse parsed
    have read := createdTable?_name named fun _ => time ▸ common
    rw [if_pos kind, table] at read
    exact .inl (List.any_eq_true.2 ⟨artifact.name, listed' _ _ (grown.added artifact member),
      beq_iff_eq.2 read⟩)

/-- So a run after it has a plan, which is to alter the table. -/
theorem exists_plan_after_run {σ : Type} {archive : Archive (StateM σ)}
    {content : σ → String → Option String} (keeps : archive.Keeps content)
    (lists : archive.Lists content) {options : DiffOptions} (lenient : options.strictDrops = false)
    {s t : σ} {before : Catalog} {decl : TableDecl} {now : Instant} {text : String}
    {report : RunReport} {outcome : Outcome} {names : List String}
    (parsed : TableDecl.parse text = .ok decl) (common : now.IsCommon)
    (ran : (archive.generate ⟨false, options⟩ (.online before) now text).run s = (report, t))
    (succeeded : report.result = .ok outcome) (listed : (archive.names.run t).1 = .ok names) :
    ∃ diff, TableDiff.alteration options (.online before) decl = .ok diff ∧
      Plan.make options names (.online before) decl = .ok ⟨decl, true, diff⟩ := by
  obtain ⟨diff, alters⟩ := TableDiff.exists_alteration_of_lenient lenient decl
  refine ⟨diff, alters, ?_⟩
  exact Plan.make_eq_ok_iff.2
    ⟨true, diff, exists_after_run keeps lists parsed common ran succeeded listed, alters, rfl⟩

end Archive

/-- **What waits to be replayed is not counted.** Let a run over an archive
succeed, and let the same declaration be run again on what it has left, with the
live schema as it was. If the first run had nothing to do, neither has the
second. If it was for a table that existed, the second calls for the same
artifacts again, under its own times. And if it created the table, the second
does not create it, but takes it for a table without a column: it calls for one
artifact that adds all columns which the declaration keeps and the framework does
not look after, and has nothing to do when there are none. -/
theorem rerun_before_replay {σ : Type} {archive : Archive (StateM σ)}
    {content : σ → String → Option String} (keeps : archive.Keeps content)
    (lists : archive.Lists content) {s t u : σ} {before : Catalog} {decl : TableDecl}
    {now later : Instant} {text : String} {first second : RunReport} {outcome : Outcome}
    {names : List String} (parsed : TableDecl.parse text = .ok decl)
    (early : now.IsCommon) (late : later.IsCommon)
    (ran : (archive.generate ⟨false, .standard⟩ (.online before) now text).run s = (first, t))
    (succeeded : first.result = .ok outcome) (listed : (archive.names.run t).1 = .ok names)
    (again : (archive.generate ⟨false, .standard⟩ (.online before) later text).run t = (second, u)) :
    (first.artifacts = [] →
      second.artifacts = [] ∧ second.result = .ok .upToDate ∧ content u = content s) ∧
    ((∀ artifact ∈ first.artifacts, artifact.kind ≠ .create) →
      TableDiff.dated decl.name later 0 (first.artifacts.map Artifact.body) =
        .ok second.artifacts) ∧
    ((∃ artifact ∈ first.artifacts, artifact.kind = .create) →
      (∃ specs, (decl.wantedColumns .standard).mapM ColumnSpec.ofDecl = .ok specs ∧
        second.artifacts = if specs = [] then [] else [additionArtifact decl.name specs later]) ∧
      ((∀ c ∈ decl.columns, c.isMarkedForDrop = true ∨
          c.name ∈ DiffOptions.standard.systemColumns) →
        second.artifacts = [] ∧ second.result = .ok .upToDate ∧ content u = content t)) := by
  obtain ⟨altered, alters, made'⟩ :=
    Archive.exists_plan_after_run keeps lists rfl parsed early ran succeeded listed
  obtain ⟨table, action, -⟩ := TableDiff.changes_of_alteration alters
  obtain ⟨_, found, plan, parsed', -, made, planned, stored⟩ := Archive.of_succeeded ran succeeded
  cases parsed.symm.trans parsed'
  obtain ⟨tableExists, diff, exist, compared, rfl⟩ := Plan.make_eq_ok_iff.1 made
  have nothing : Plan.artifacts ⟨decl, true, altered⟩ later = .ok [] →
      second.artifacts = [] ∧ second.result = .ok .upToDate ∧ content u = content t :=
    fun planned' => Archive.of_planned_nothing keeps parsed listed made' planned' again
  have reported := Archive.artifacts_of_made parsed listed made' again
  cases tableExists with
  | true =>
    -- the two runs have the same plan, and carry it out at different times
    cases alters.symm.trans compared
    have kinds := Plan.of_artifacts_alter action planned
    obtain ⟨others, planned', dated⟩ := Plan.artifacts_again action planned late
    have same : second.artifacts = others := by
      rw [reported, planned']
      rfl
    refine ⟨fun idle => ?_, fun _ => ?_, fun ⟨artifact, ha, creates⟩ => ?_⟩
    · rw [idle] at dated stored
      cases dated
      obtain ⟨none, upToDate, kept⟩ := nothing planned'
      have grown := Archive.grown_generate keeps ran
      rw [stored] at grown
      exact ⟨none, upToDate, kept.trans grown.eq_of_nil⟩
    · rw [same, ← table]
      exact dated
    · exact absurd creates (kinds artifact ha).2
  | false =>
    -- the first run has one artifact; what it creates is not live for the second
    cases compared
    obtain ⟨artifact, one, creates, -⟩ := Plan.of_artifacts_creation planned
    have absent : before.table? decl.name = none := by
      have unlive := (Plan.findsTable_eq_false_iff.1 exist).2
      simpa using unlive
    obtain ⟨specs, described⟩ := TableDecl.exists_specs_of_wanted planned
    have planned' := Plan.artifacts_of_absent alters absent described later
    refine ⟨fun idle => ?_, fun alter => ?_, fun _ => ⟨⟨specs, described, ?_⟩, fun bare => ?_⟩⟩
    · rw [one] at idle
      cases idle
    · exact absurd creates (alter artifact (one ▸ List.mem_singleton.2 rfl))
    · rw [reported, planned']
      rfl
    · have none : decl.wantedColumns .standard = [] := by
        refine List.filter_eq_nil_iff.2 fun c hc => ?_
        rcases bare c hc with marked | system
        · simp [marked]
        · simp [system]
      rw [none] at described
      have bare : specs = [] := (Except.ok.inj described).symm
      rw [if_pos bare] at planned'
      exact nothing planned'

namespace WaitingColumn

/-- A table of orders. -/
def before : Catalog := ⟨[⟨"orders", [⟨"name", "varchar(255)", false, none⟩]⟩]⟩

/-- A declaration with a column that the table does not have. -/
def text : String := "orders:code:integer"

/-- A minute after the beginning of 1970. -/
def later : Instant := (LongerNotes.start.later? 60).get (by decide)

/-- The first run, over an empty archive. -/
def first : RunReport × List (String × String) :=
  ((Archive.memory 2).generate ⟨false, .standard⟩ (.online before) LongerNotes.start text).run []

/-- The second run, over what the first has left. -/
def second : RunReport × List (String × String) :=
  ((Archive.memory 2).generate ⟨false, .standard⟩ (.online before) later text).run first.2

theorem exists_decl : ∃ decl, TableDecl.parse text = .ok decl ∧ decl.name = "orders" := by
  have read : (TableDecl.parse text).toOption.any (fun decl => decl.name == "orders") = true := by
    decide
  obtain ⟨decl, parsed, name⟩ := exists_eq_ok_of_any read
  exact ⟨decl, parsed, beq_iff_eq.1 name⟩

theorem first_eq : ((Archive.memory 2).generate ⟨false, .standard⟩ (.online before)
    LongerNotes.start text).run [] = (first.1, first.2) :=
  (Prod.mk.eta : (first.1, first.2) = first).symm

theorem second_eq : ((Archive.memory 2).generate ⟨false, .standard⟩ (.online before)
    later text).run first.2 = (second.1, second.2) :=
  (Prod.mk.eta : (second.1, second.2) = second).symm

/-- The operations of the artifacts that a run has stored. -/
def operations (report : RunReport) : List (ArtifactKind × List Operation) :=
  report.stored.map fun artifact => (artifact.kind, artifact.forward)

theorem first_stored :
    operations first.1 = [(.addColumns, [.addColumn (.new "code" .integer)])] := by
  decide +kernel

theorem second_stored :
    operations second.1 = [(.addColumns, [.addColumn (.new "code" .integer)])] := by
  decide +kernel

theorem exists_generated {report : RunReport}
    (h : operations report = [(.addColumns, [.addColumn (.new "code" .integer)])]) :
    ∃ stored, report.result = .ok (.generated stored) := by
  have nonempty : report.stored ≠ [] := by
    intro none
    rw [operations, none] at h
    cases h
  obtain ⟨artifact, ha⟩ := List.exists_mem_of_ne_nil report.stored nonempty
  exact (RunReport.exists_of_mem_stored ha).imp fun _ h => h.1

theorem kind_of_first : ∀ artifact ∈ first.1.artifacts, artifact.kind ≠ .create := by
  have kinds : (first.1.artifacts.map fun artifact => artifact.kind) = [.addColumns] := by
    decide +kernel
  intro artifact ha
  have member : artifact.kind ∈ first.1.artifacts.map fun artifact => artifact.kind :=
    List.mem_map_of_mem ha
  rw [kinds, List.mem_singleton] at member
  rw [member]
  decide

end WaitingColumn

/-- The column that waits to be added is asked for a second time. -/
theorem rerun_before_replay_orders :
    TableDiff.dated "orders" WaitingColumn.later 0
        (WaitingColumn.first.1.artifacts.map Artifact.body) =
      .ok WaitingColumn.second.1.artifacts := by
  obtain ⟨decl, parsed, name⟩ := WaitingColumn.exists_decl
  obtain ⟨stored, succeeded⟩ := WaitingColumn.exists_generated WaitingColumn.first_stored
  rw [← name]
  exact (rerun_before_replay (Archive.keeps_memory 2) (Archive.lists_memory 2) parsed (by decide)
    (by decide) WaitingColumn.first_eq succeeded (Archive.names_memory 2 WaitingColumn.first.2)
    WaitingColumn.second_eq).2.1 WaitingColumn.kind_of_first

/-- A second run, a minute after one that has succeeded and with the live schema
as it was, has something to do: it stores another artifact that adds the column
which the first has stored one for. -/
theorem waiting_column_is_added_again :
    LongerNotes.start.IsCommon ∧ WaitingColumn.later.IsCommon ∧
    LongerNotes.start.seconds + 3 ≤ WaitingColumn.later.seconds ∧
    (∃ stored, WaitingColumn.first.1.result = .ok (.generated stored)) ∧
    (∃ stored, WaitingColumn.second.1.result = .ok (.generated stored)) ∧
    WaitingColumn.operations WaitingColumn.first.1 =
      [(.addColumns, [.addColumn (.new "code" .integer)])] ∧
    WaitingColumn.operations WaitingColumn.second.1 =
      [(.addColumns, [.addColumn (.new "code" .integer)])] :=
  ⟨by decide, by decide, by decide, WaitingColumn.exists_generated WaitingColumn.first_stored,
    WaitingColumn.exists_generated WaitingColumn.second_stored, WaitingColumn.first_stored,
    WaitingColumn.second_stored⟩

end SchemaPlan
