import SchemaPlan.Proofs.Creation
import SchemaPlan.Proofs.Declaration
import SchemaPlan.Proofs.Run

/-!
# When a creation can be replayed

The artifact that creates a table adds its columns, then makes its indexes, and
adds the columns of the flags last. Its replay is therefore not a matter of what
the finished table has: an index can only be made over a column that is added
before it, which those of the flags are not. Together with the names that the
flags must find free this is all that can go wrong
(`creation_replays_iff`): the artifact is replayed wherever there is no such
table, or it is replayed nowhere.

Each of the three stages of the replay has an equivalence of its own that says when
it succeeds; what is left to do here is to say it of the declaration.
-/

namespace SchemaPlan

/-! ## What a declaration must keep to -/

namespace TableFlags

theorem id_notMem_columns (flags : TableFlags) : "id" ∉ flags.columns := by
  obtain ⟨softDeletes, timestamps⟩ := flags
  cases softDeletes <;> cases timestamps <;> decide

end TableFlags

namespace TableDecl

/-- The names of the declared columns that are to be kept. -/
def keptNames (decl : TableDecl) : List String :=
  (decl.columns.filter TableDiff.isKept).map fun c => c.name

/-- The names of the columns that the finished table has: the primary key, the
declared columns that are to be kept, and those of the flags. -/
def finishedNames (decl : TableDecl) : List String :=
  "id" :: (decl.keptNames ++ decl.flags.columns)

/-- **The indexes need no column of a flag**: each of their columns is the primary
key or a declared column that is to be kept. -/
def IndexesDeclared (decl : TableDecl) : Prop :=
  ∀ index ∈ decl.indexes, ∀ n ∈ index.columns, n = "id" ∨ n ∈ decl.keptNames

/-- **No column is made twice**: none that a flag adds is also declared and to be
kept. -/
def FlagsApart (decl : TableDecl) : Prop :=
  ∀ n ∈ decl.flags.columns, n ∉ decl.keptNames

instance (decl : TableDecl) : Decidable decl.IndexesDeclared :=
  inferInstanceAs (Decidable (∀ index ∈ decl.indexes, ∀ n ∈ index.columns,
    n = "id" ∨ n ∈ decl.keptNames))

instance (decl : TableDecl) : Decidable decl.FlagsApart :=
  inferInstanceAs (Decidable (∀ n ∈ decl.flags.columns, n ∉ decl.keptNames))

end TableDecl

/-! ## The stages of the replay -/

namespace TableDiff

variable {decl : TableDecl} {specs : List ColumnSpec}

/-- The names of the columns that are there when the indexes are made. -/
theorem names_ownColumns (described : (explicitColumns decl).mapM ColumnSpec.ofDecl = .ok specs) :
    (ownColumns decl specs).map (fun c => c.name) =
      (if hasImplicitKey decl then ["id"] else []) ++
        (explicitColumns decl).map fun c => c.name := by
  have names := map_eq_map_of_mapM_eq_ok described (fun c => c.name) (fun spec => spec.name)
    fun c spec made => (ColumnSpec.of_ofDecl made).1
  unfold ownColumns
  rw [List.map_append, List.map_map, ← names]
  congr 1
  split <;> rfl

theorem id_mem_explicitColumns_iff :
    "id" ∈ (explicitColumns decl).map (fun c => c.name) ↔ hasImplicitKey decl = false := by
  rw [hasImplicitKey, Bool.not_eq_false', List.any_eq_true, List.mem_map]
  simp only [beq_iff_eq]

/-- Their names differ: the primary key is only made where no column takes its
place. -/
theorem nodup_ownColumns (described : (explicitColumns decl).mapM ColumnSpec.ofDecl = .ok specs)
    (distinct : decl.columnNames.Nodup) :
    ((ownColumns decl specs).map fun c => c.name).Nodup := by
  have sublist : ((explicitColumns decl).map fun c => c.name).Sublist decl.columnNames :=
    (List.filter_sublist.trans List.filter_sublist).map _
  rw [names_ownColumns described]
  cases key : hasImplicitKey decl with
  | true =>
    refine List.nodup_cons.2 ⟨fun taken => ?_, distinct.sublist sublist⟩
    cases key.symm.trans (id_mem_explicitColumns_iff.1 taken)
  | false => exact distinct.sublist sublist

/-- They are the primary key and the declared columns that are to be kept. -/
theorem mem_ownColumns_iff (described : (explicitColumns decl).mapM ColumnSpec.ofDecl = .ok specs)
    {n : String} :
    n ∈ (ownColumns decl specs).map (fun c => c.name) ↔ n = "id" ∨ n ∈ decl.keptNames := by
  rw [names_ownColumns described, List.mem_append]
  constructor
  · rintro (key | column)
    · split at key
      · exact .inl (List.mem_singleton.1 key)
      · cases key
    · obtain ⟨c, hc, rfl⟩ := List.mem_map.1 column
      exact .inr (List.mem_map_of_mem (List.mem_of_mem_filter hc))
  · by_cases id : n = "id"
    · subst id
      rw [id_mem_explicitColumns_iff]
      intro _
      cases hasImplicitKey decl with
      | true => exact .inl (List.mem_singleton.2 rfl)
      | false => exact .inr rfl
    · rintro (key | kept)
      · exact absurd key id
      · obtain ⟨c, hc, rfl⟩ := List.mem_map.1 kept
        have other : isImpliedKey c = false := by
          rw [isImpliedKey, beq_eq_false_iff_ne.2 id, Bool.false_and]
        exact .inr (List.mem_map_of_mem (List.mem_filter.2 ⟨hc, by rw [other]; rfl⟩))

/-- **When the edits of a creation succeed**, and the table that they make. -/
theorem editAll_creationOf_eq_none_iff {name : String} {changed : LiveTable}
    (described : (explicitColumns decl).mapM ColumnSpec.ofDecl = .ok specs)
    (distinct : decl.columnNames.Nodup) :
    (LiveTable.mk name []).editAll ((creationOf decl specs).forward.flatMap Operation.edits) =
        (changed, none) ↔
      (decl.IndexesDeclared ∧ decl.FlagsApart) ∧
        changed = ⟨name, ownColumns decl specs ++ flagColumns decl.flags⟩ := by
  have added (middle : LiveTable) :
      (LiveTable.mk name []).editAll ((ownColumns decl specs).map .add) = (middle, none) ↔
        middle = ⟨name, ownColumns decl specs⟩ := by
    rw [LiveTable.editAll_add_eq_none_iff, and_iff_right, List.nil_append]
    exact ⟨fun _ _ => rfl, nodup_ownColumns described distinct⟩
  have indexed : (∀ n ∈ decl.indexes.flatMap CompositeIndex.columns,
      n ∈ (LiveTable.mk name (ownColumns decl specs)).columnNames) ↔ decl.IndexesDeclared := by
    simp only [List.mem_flatMap, LiveTable.columnNames, mem_ownColumns_iff described]
    constructor
    · exact fun h index hi n hn => h n ⟨index, hi, hn⟩
    · rintro h n ⟨index, hi, hn⟩
      exact h index hi n hn
  have free : (∀ c ∈ flagColumns decl.flags,
      (LiveTable.mk name (ownColumns decl specs)).column? c.name = none) ↔ decl.FlagsApart := by
    simp only [LiveTable.column?_eq_none_iff, LiveTable.columnNames, mem_ownColumns_iff described]
    rw [TableDecl.FlagsApart, ← names_flagColumns, List.forall_mem_map]
    refine forall₂_congr fun c hc => ?_
    have other : c.name ≠ "id" := fun id => decl.flags.id_notMem_columns
      (id ▸ names_flagColumns decl.flags ▸ List.mem_map_of_mem hc)
    rw [or_iff_right other]
  rw [edits_creationOf, LiveTable.editAll_append_eq_none_iff]
  simp only [added, exists_eq_left, LiveTable.editAll_append_eq_none_iff,
    LiveTable.editAll_require_eq_none_iff, LiveTable.editAll_add_eq_none_iff, indexed]
  constructor
  · rintro ⟨middle, ⟨declared, rfl⟩, ⟨apart, -⟩, rfl⟩
    exact ⟨⟨declared, free.1 apart⟩, rfl⟩
  · rintro ⟨⟨declared, apart⟩, rfl⟩
    exact ⟨_, ⟨declared, rfl⟩, ⟨free.2 apart, names_flagColumns decl.flags ▸ decl.flags.nodup_columns⟩, rfl⟩

/-- The artifact that creates a table, from the specifications of its columns. -/
def creationArtifact (decl : TableDecl) (specs : List ColumnSpec) (now : Instant) : Artifact where
  kind := .create
  table := decl.name
  createdAt := now
  forward := (creationOf decl specs).forward
  inverse := (creationOf decl specs).inverse

theorem artifacts_creation (described : (explicitColumns decl).mapM ColumnSpec.ofDecl = .ok specs)
    (now : Instant) :
    (creation decl).artifacts decl now = .ok [creationArtifact decl specs now] := by
  have body : (creation decl).creationBody decl (hasImplicitKey decl) =
      .ok (creationOf decl specs) := by
    rw [creationBody, newColumns_creation, described]
    rfl
  have bodies : (creation decl).bodies decl = .ok [creationOf decl specs] := by
    show ((creation decl).creationBody decl (hasImplicitKey decl)).bind _ = _
    rw [body]
    rfl
  rw [artifacts, bodies]
  show dated decl.name now 0 [creationOf decl specs] = _
  rw [dated, Instant.later?, if_pos rfl]
  rfl

end TableDiff

namespace Archive

variable {σ : Type} {archive : Archive (StateM σ)} {s : σ} {options : RunOptions}
  {inspector : Inspector} {names : List String} {now : Instant} {text : String} {decl : TableDecl}
  {artifacts : List Artifact}

/-- A run that finds no table makes the artifacts of its creation. -/
theorem artifacts_generate_creation (parsed : TableDecl.parse text = .ok decl)
    (listed : (archive.names.run s).1 = .ok names) (unstored : creates names decl.name = false)
    (absent : inspector.isLive decl.name = .ok false)
    (made : (TableDiff.creation decl).artifacts decl now = .ok artifacts) :
    ((archive.generate options inspector now text).run s).1.artifacts = artifacts := by
  have planned : requested options.diff (.ok names) inspector now text = .ok artifacts := by
    refine requested_eq_ok_iff.2 ⟨decl, names, ⟨decl, false, .creation decl⟩, parsed, rfl, ?_, made⟩
    have missing := Plan.findsTable_eq_false_iff.2 ⟨unstored, absent⟩
    exact Plan.make_eq_ok_iff.2 ⟨false, .creation decl, missing, rfl, rfl⟩
  have ran := @run_generate σ archive options inspector now text s _ decl parsed
    (.ok names) (Prod.ext listed rfl)
  rw [ran, planned]
  exact artifacts_carryOut options.trial artifacts _

end Archive

/-- **When a creation can be replayed.** A declaration whose options are valid
calls for one artifact if its table is neither stored nor live, whatever the
archive is. Where there is no such table its replay succeeds exactly if the
indexes need no column of a flag and no column is made twice. -/
theorem creation_replays_iff {text : String} {decl : TableDecl}
    (parsed : TableDecl.parse text = .ok decl)
    (valid : ∀ c ∈ TableDiff.explicitColumns decl, ∃ spec, ColumnSpec.ofDecl c = .ok spec)
    (now : Instant) :
    ∃ artifact : Artifact, artifact.kind = .create ∧ artifact.table = decl.name ∧
      (∀ {σ : Type} (archive : Archive (StateM σ)) (s : σ) (options : RunOptions)
        (inspector : Inspector) (names : List String), (archive.names.run s).1 = .ok names →
        Archive.creates names decl.name = false → inspector.isLive decl.name = .ok false →
        ((archive.generate options inspector now text).run s).1.artifacts = [artifact]) ∧
      ∀ catalog : Catalog, catalog.table? decl.name = none →
        ((∃ after, catalog.applyArtifact artifact = (after, none)) ↔
          decl.IndexesDeclared ∧ decl.FlagsApart) := by
  obtain ⟨specs, described⟩ := exists_mapM_eq_ok valid
  have made := TableDiff.artifacts_creation described now
  refine ⟨TableDiff.creationArtifact decl specs now, rfl, rfl, ?_, fun catalog absent => ?_⟩
  · intro σ archive s options inspector names listed unstored unlive
    exact Archive.artifacts_generate_creation parsed listed unstored unlive made
  · have distinct := TableDecl.nodup_columnNames_of_parse parsed
    have replay (after : Catalog) := @Catalog.applyArtifact_create_eq_none_iff catalog after
      (TableDiff.creationArtifact decl specs now) rfl (TableDiff.dropTable_notMem_creation decl specs)
    have edited (changed : LiveTable) :=
      @TableDiff.editAll_creationOf_eq_none_iff decl specs decl.name changed described distinct
    constructor
    · rintro ⟨after, applied⟩
      obtain ⟨-, changed, succeeded, -⟩ := (replay after).1 applied
      exact ((edited changed).1 succeeded).1
    · intro kept
      exact ⟨_, (replay _).2 ⟨absent, _, (edited _).2 ⟨kept, rfl⟩, rfl⟩⟩

namespace IndexedOrders

/-- Orders, with an index over the columns that are given. -/
def decl (columns : List String) : TableDecl where
  name := "orders"
  columns := [.new "name" .string]
  flags := ⟨true, false⟩
  indexes := [⟨.plain, columns, none⟩]

theorem parsed_declared : TableDecl.parse "orders:name:string,softDeletes,index:id|name" =
    .ok (decl ["id", "name"]) :=
  eq_ok_of_any_beq (by decide)

theorem parsed_flag : TableDecl.parse "orders:name:string,softDeletes,index:deleted_at" =
    .ok (decl ["deleted_at"]) :=
  eq_ok_of_any_beq (by decide)

theorem valid (columns : List String) :
    ∀ c ∈ (decl columns).columns, ∃ spec, ColumnSpec.ofDecl c = .ok spec := by
  intro c hc
  rw [List.mem_singleton.1 hc]
  exact ⟨.new "name" .string, rfl⟩

end IndexedOrders

/-- Orders with an index over the primary key and a declared column are created. -/
theorem creation_replays_iff_orders : ∃ artifact after,
    (((Archive.memory 1).generate ⟨false, .standard⟩ (.online .empty) LongerNotes.start
      "orders:name:string,softDeletes,index:id|name").run []).1.artifacts = [artifact] ∧
    Catalog.empty.applyArtifact artifact = (after, none) := by
  obtain ⟨artifact, -, -, made, replay⟩ := creation_replays_iff IndexedOrders.parsed_declared
    (fun c hc => IndexedOrders.valid _ c (List.mem_of_mem_filter (List.mem_of_mem_filter hc)))
    LongerNotes.start
  obtain ⟨after, applied⟩ := (replay .empty rfl).2 (by decide)
  exact ⟨artifact, after, made _ _ _ _ [] rfl rfl rfl, applied⟩

/-- Orders with an index over `deleted_at` are not, although the flag adds that
column: the artifact asks for it before. -/
theorem index_on_flag_column_not_replayed : ∃ decl artifact,
    TableDecl.parse "orders:name:string,softDeletes,index:deleted_at" = .ok decl ∧
    (∀ c ∈ decl.columns, ∃ spec, ColumnSpec.ofDecl c = .ok spec) ∧
    (∀ index ∈ decl.indexes, ∀ n ∈ index.columns, n ∈ decl.finishedNames) ∧
    decl.FlagsApart ∧ Catalog.empty.table? decl.name = none ∧
    (((Archive.memory 1).generate ⟨false, .standard⟩ (.online .empty) LongerNotes.start
      "orders:name:string,softDeletes,index:deleted_at").run []).1.artifacts = [artifact] ∧
    artifact.kind = .create ∧
    (Catalog.empty.applyArtifact artifact).2 = some (.noColumn "deleted_at" "orders") := by
  refine ⟨IndexedOrders.decl ["deleted_at"], TableDiff.creationArtifact
    (IndexedOrders.decl ["deleted_at"]) [.new "name" .string] LongerNotes.start,
    IndexedOrders.parsed_flag, IndexedOrders.valid _, by decide, by decide, rfl, ?_, rfl,
    by decide +kernel⟩
  have listed : ((Archive.memory 1).names.run []).1 = .ok [] := rfl
  exact Archive.artifacts_generate_creation IndexedOrders.parsed_flag listed rfl rfl
    (TableDiff.artifacts_creation rfl LongerNotes.start)

end SchemaPlan
