import SchemaPlan.Proofs.Classification
import SchemaPlan.Proofs.Dropping

/-!
# When an alteration can be replayed

All artifacts of an alteration are made of one look at the live schema, and are then
replayed one after the other, so that each one finds what those before it have left.
Columns that are added or changed are no matter: the comparison has seen that the
ones are not there and that the others are, and the artifacts before do not touch
them. A column can be dropped if its foreign key is as the artifact takes it to be, and
the artifact knows the declaration and not the live key. So the replay succeeds exactly
if both agree on the columns that are dropped (`alteration_replays_iff`). Where they do
not, there are two ways to fail, one for a key that is only declared and one for a key
that is only live, and there is no third.
-/

namespace SchemaPlan

/-! ## Columns that refer to another table -/

/-- **A declared column refers to another table**, by its kind or by an option that is
present in any form. -/
def ColumnDecl.Refers (column : ColumnDecl) : Prop :=
  column.kind = .foreignId ∨ column.kind = .foreignUuid ∨
    ∃ key ∈ ["constrained", "references", "on"], column.has key = true

theorem ColumnDecl.isForeignKey_iff {column : ColumnDecl} :
    column.isForeignKey = true ↔ column.Refers := by
  have reference : column.kind.isReference = true ↔
      column.kind = .foreignId ∨ column.kind = .foreignUuid := by
    cases column.kind <;> simp [ColumnKind.isReference]
  simp [isForeignKey, Refers, reference, or_assoc]

/-! ## Removals that fail -/

/-- The problem with the removal of a column whose live foreign key is not as specified:
one that is to be dropped is missing, or one is left. -/
def ColumnSpec.mismatch (spec : ColumnSpec) (table : String) : ReplayProblem :=
  if spec.foreign.isSome then .noForeignKey spec.name table else .hasForeignKey spec.name table

namespace LiveTable

variable {table changed : LiveTable}

theorem editAll_removal_of_ne {spec : ColumnSpec} {c : LiveColumn}
    (found : table.column? spec.name = some c) (differs : c.foreign.isSome ≠ spec.foreign.isSome) :
    table.editAll (spec.removal.flatMap Operation.edits) =
      (table, some (spec.mismatch table.name)) := by
  unfold ColumnSpec.removal ColumnSpec.mismatch
  rcases hs : spec.foreign with _ | key
  · rw [hs] at differs
    have linked : c.foreign.isSome = true := Bool.eq_true_of_not_eq_false differs
    show runUntilFault editOrKeep table [.remove spec.name] = _
    simp [runUntilFault, editOrKeep, edit, found, linked]
  · rw [hs] at differs
    have unlinked : c.foreign.isSome = false := Bool.eq_false_of_not_eq_true differs
    show runUntilFault editOrKeep table [.release spec.name, .remove spec.name] = _
    simp [runUntilFault, editOrKeep, edit, found, unlinked]

/-- **Removals of columns that are there fail at a foreign key**: at the first column
that has one and should not, or should have one and does not. -/
theorem exists_mismatch_of_editAll_removals {specs : List ColumnSpec} {problem : ReplayProblem}
    (distinct : (specs.map fun spec => spec.name).Nodup)
    (there : ∀ spec ∈ specs, ∃ c, table.column? spec.name = some c)
    (failed : table.editAll ((specs.flatMap ColumnSpec.removal).flatMap Operation.edits) =
      (changed, some problem)) :
    ∃ spec ∈ specs, ∃ c, table.column? spec.name = some c ∧
      c.foreign.isSome ≠ spec.foreign.isSome ∧ problem = spec.mismatch table.name := by
  induction specs generalizing table with
  | nil => cases failed
  | cons spec rest ih =>
    rw [List.map_cons, List.nodup_cons] at distinct
    obtain ⟨c, found⟩ := there spec List.mem_cons_self
    rw [List.flatMap_cons, List.flatMap_append] at failed
    by_cases same : c.foreign.isSome = spec.foreign.isSome
    · -- the column is removed, and the run fails further on
      have others : ∀ d ∈ rest, (LiveTable.mk table.name
          (table.columns.filter fun c => c.name != spec.name)).column? d.name =
            table.column? d.name := by
        intro d hd
        have kept : (d.name != spec.name) = true :=
          bne_iff_ne.2 fun same => distinct.1 (same ▸ List.mem_map_of_mem hd)
        exact @find?_filter_name (fun name => name != spec.name) d.name kept table.columns
      rw [editAll_append (editAll_removal_eq_none_iff.2 ⟨⟨c, found, same⟩, rfl⟩)] at failed
      obtain ⟨d, hd, e, hfound, differs, rfl⟩ := ih distinct.2 (fun d hd => by
        rw [others d hd]
        exact there d (List.mem_cons_of_mem spec hd)) failed
      rw [others d hd] at hfound
      exact ⟨d, List.mem_cons_of_mem spec hd, e, hfound, differs, rfl⟩
    · have stopped := editAll_removal_of_ne found same
      rw [editAll, runUntilFault_append, ← editAll, stopped] at failed
      cases failed
      exact ⟨spec, List.mem_cons_self, c, found, same, rfl⟩

end LiveTable

/-! ## The columns that a comparison drops -/

namespace TableDiff

variable {options : DiffOptions} {catalog : Catalog} {decl : TableDecl} {diff : TableDiff}

/-- The comparison calls for the column of a given name to be dropped, which
takes a live column of that name and a mark on the declared one. -/
def Drops (diff : TableDiff) (n : String) : Prop :=
  ∃ column type nullable, ⟨n, .dropped column type nullable⟩ ∈ diff.changes

theorem drops_iff (h : alteration options (.online catalog) decl = .ok diff)
    (distinct : decl.columnNames.Nodup) {c : ColumnDecl} (hc : c ∈ decl.columns) :
    diff.Drops c.name ↔ ∃ type nullable,
      verdict options catalog decl.name c = some (.dropped c.withoutDrop type nullable) := by
  unfold Drops
  simp only [mem_changes_iff h distinct hc]
  constructor
  · rintro ⟨column, type, nullable, hv⟩
    obtain ⟨live, -, -, rfl, -⟩ := actionFor_eq_dropped_iff.1 (actionFor_of_verdict hv nofun).2
    exact ⟨type, nullable, hv⟩
  · rintro ⟨type, nullable, hv⟩
    exact ⟨c.withoutDrop, type, nullable, hv⟩

/-- **The declared foreign keys are the live ones** on the columns to be dropped: such a
column refers to another table just where the live column has a foreign key. -/
def KeysAgree (diff : TableDiff) (decl : TableDecl) (table : LiveTable) : Prop :=
  ∀ c ∈ decl.columns, diff.Drops c.name → ∀ found, table.column? c.name = some found →
    (c.Refers ↔ found.foreign.isSome = true)

end TableDiff

/-! ## What the comparison has seen -/

namespace AlterationSpecs

variable {specs : AlterationSpecs} {options : DiffOptions} {before : Catalog} {decl : TableDecl}
  {table : LiveTable} {diff : TableDiff}

namespace Describes

theorem column?_of_mem_added (h : specs.Describes options before decl)
    (live : before.table? decl.name = some table) {spec : ColumnSpec} (hs : spec ∈ specs.added) :
    table.column? spec.name = none := by
  obtain ⟨c, -, hv, made⟩ := (h.mem_added_iff spec).1 hs
  obtain ⟨absent, -⟩ :=
    TableDiff.actionFor_eq_new_iff.1 (TableDiff.actionFor_of_verdict hv nofun).2
  rw [(ColumnSpec.of_ofDecl made).1, ← Catalog.column?_of_table? live]
  exact absent

theorem isSome_column?_of_mem_targets (h : specs.Describes options before decl)
    (live : before.table? decl.name = some table) {spec : ColumnSpec} (hs : spec ∈ specs.targets) :
    (table.column? spec.name).isSome = true := by
  obtain ⟨⟨declared, previous⟩, hp, rfl⟩ := List.mem_map.1 hs
  obtain ⟨c, -, type, nullable, hv, made, -⟩ := (h.mem_modified_iff declared previous).1 hp
  obtain ⟨found, present, -⟩ :=
    TableDiff.actionFor_eq_modified_iff.1 (TableDiff.actionFor_of_verdict hv nofun).2
  rw [(ColumnSpec.of_ofDecl made).1, ← Catalog.column?_of_table? live, present]
  rfl

/-- A column that is removed is one that is to be dropped. It is there, and its foreign
key goes with it if the declaration has one. -/
theorem exists_of_mem_dropped (h : specs.Describes options before decl)
    (live : before.table? decl.name = some table) {pair : ColumnSpec × ColumnSpec}
    (hp : pair ∈ specs.dropped) :
    ∃ c ∈ decl.columns, pair.1.name = c.name ∧ pair.1.foreign.isSome = c.isForeignKey ∧
      (∃ type nullable, TableDiff.verdict options before decl.name c =
        some (.dropped c.withoutDrop type nullable)) ∧
      ∃ found, table.column? pair.1.name = some found := by
  obtain ⟨c, hc, type, nullable, hv, made, -⟩ := (h.mem_dropped_iff pair.1 pair.2).1 hp
  obtain ⟨found, present, -⟩ :=
    TableDiff.actionFor_eq_dropped_iff.1 (TableDiff.actionFor_of_verdict hv nofun).2
  obtain ⟨name, -, -, key⟩ := ColumnSpec.of_ofDecl made
  rw [ColumnDecl.name_withoutDrop] at name
  rw [ColumnDecl.isForeignKey_withoutDrop] at key
  rw [Catalog.column?_of_table? live] at present
  exact ⟨c, hc, name, key, ⟨type, nullable, hv⟩, found, name ▸ present⟩

/-- The columns that are removed have foreign keys as their removals expect them if the
declared keys agree with the live ones. -/
theorem linked_iff (h : specs.Describes options before decl)
    (compared : TableDiff.alteration options (.online before) decl = .ok diff)
    (distinct : decl.columnNames.Nodup) (live : before.table? decl.name = some table) :
    (∀ pair ∈ specs.dropped, ∃ c, table.column? pair.1.name = some c ∧
      c.foreign.isSome = pair.1.foreign.isSome) ↔ diff.KeysAgree decl table := by
  constructor
  · intro linked c hc drops found hf
    obtain ⟨type, nullable, hv⟩ := (TableDiff.drops_iff compared distinct hc).1 drops
    obtain ⟨pair, hp, made⟩ := h.exists_dropped c hc type nullable hv
    obtain ⟨name, -, -, key⟩ := ColumnSpec.of_ofDecl made
    rw [ColumnDecl.name_withoutDrop] at name
    obtain ⟨found', hf', same⟩ := linked pair hp
    rw [name, hf] at hf'
    cases hf'
    simp [same, key, ColumnDecl.isForeignKey_iff]
  · intro agree pair hp
    obtain ⟨c, hc, name, key, hv, found, hf⟩ := h.exists_of_mem_dropped live hp
    refine ⟨found, hf, ?_⟩
    rw [key, Bool.eq_iff_iff, ColumnDecl.isForeignKey_iff]
    exact (agree c hc ((TableDiff.drops_iff compared distinct hc).2 hv) found (name ▸ hf)).symm

/-- **Columns are always added and changed**: the first stages of a replay succeed. -/
theorem editAll_preparations (h : specs.Describes options before decl)
    (distinct : decl.columnNames.Nodup) (live : before.table? decl.name = some table) :
    table.editAll ((specs.additions ++ specs.changes).flatMap Operation.edits) =
      (specs.prepared table, none) :=
  (editAll_preparations_eq_none_iff (h.separate distinct)).2
    ⟨fun _ hs => h.column?_of_mem_added live hs,
      fun _ hs => h.isSome_column?_of_mem_targets live hs, rfl⟩

/-- So the operations succeed if the foreign keys agree. -/
theorem exists_editAll_operations_iff (h : specs.Describes options before decl)
    (compared : TableDiff.alteration options (.online before) decl = .ok diff)
    (distinct : decl.columnNames.Nodup) (live : before.table? decl.name = some table) :
    (∃ changed, table.editAll (specs.operations.flatMap Operation.edits) = (changed, none)) ↔
      diff.KeysAgree decl table := by
  simp only [editAll_operations_eq_none_iff (h.separate distinct),
    h.linked_iff compared distinct live]
  constructor
  · rintro ⟨changed, -, -, agree, -⟩
    exact agree
  · intro agree
    exact ⟨_, fun _ hs => h.column?_of_mem_added live hs,
      fun _ hs => h.isSome_column?_of_mem_targets live hs, agree, rfl⟩

/-- **And if they fail, it is at a foreign key**: at that of a column to be dropped, which
is declared and not live, or live and not declared. -/
theorem exists_mismatch (h : specs.Describes options before decl)
    (compared : TableDiff.alteration options (.online before) decl = .ok diff)
    (distinct : decl.columnNames.Nodup) (live : before.table? decl.name = some table)
    {changed : LiveTable} {problem : ReplayProblem}
    (failed : table.editAll (specs.operations.flatMap Operation.edits) = (changed, some problem)) :
    ∃ c ∈ decl.columns, diff.Drops c.name ∧ ∃ found, table.column? c.name = some found ∧
      (c.Refers ∧ found.foreign = none ∧ problem = .noForeignKey c.name decl.name ∨
        ¬ c.Refers ∧ found.foreign.isSome = true ∧
          problem = .hasForeignKey c.name decl.name) := by
  have separate := h.separate distinct
  have name : (specs.prepared table).name = decl.name := by
    show table.name = decl.name
    exact Catalog.name_of_table?_eq_some live
  rw [operations, List.flatMap_append,
    LiveTable.editAll_append (h.editAll_preparations distinct live), removals_eq] at failed
  obtain ⟨spec, hs, found, hf, differs, rfl⟩ :=
    LiveTable.exists_mismatch_of_editAll_removals
      (specs.map_name_dropped ▸ separate.nodup_dropped) (fun spec hs => by
        obtain ⟨pair, hp, rfl⟩ := List.mem_map.1 hs
        rw [column?_prepared_of_dropped separate (List.mem_map_of_mem hp)]
        obtain ⟨-, -, -, -, -, there⟩ := h.exists_of_mem_dropped live hp
        exact there) failed
  obtain ⟨pair, hp, rfl⟩ := List.mem_map.1 hs
  rw [column?_prepared_of_dropped separate (List.mem_map_of_mem hp)] at hf
  obtain ⟨c, hc, named, key, hv, -⟩ := h.exists_of_mem_dropped live hp
  refine ⟨c, hc, (TableDiff.drops_iff compared distinct hc).2 hv, found, named ▸ hf, ?_⟩
  rw [ColumnSpec.mismatch, name, named, key]
  rw [key] at differs
  rw [← ColumnDecl.isForeignKey_iff]
  cases refers : c.isForeignKey with
  | true =>
    rw [refers] at differs
    exact .inl ⟨rfl, Option.not_isSome_iff_eq_none.1 differs, rfl⟩
  | false =>
    rw [refers] at differs
    exact .inr ⟨Bool.false_ne_true, Bool.eq_true_of_not_eq_false differs, rfl⟩

end Describes

/-! ## The artifacts one by one -/

variable {artifacts : List Artifact} {body : ArtifactBody}

/-- The artifacts come in one order, at most one of each kind. -/
theorem kinds_of_bodies (h : artifacts.map Artifact.body = specs.bodies) :
    (artifacts.map Artifact.kind).Sublist [.addColumns, .modifyColumns, .dropColumns] := by
  rw [Artifact.map_kind, h]
  exact specs.kinds_sublist

/-- Those that drop no column come first, and do what is to be done before. -/
theorem exists_split (h : artifacts.map Artifact.body = specs.bodies) :
    ∃ kept drops, artifacts = kept ++ drops ∧
      (∀ artifact ∈ kept, artifact.kind ≠ .dropColumns) ∧
      (∀ artifact ∈ drops, artifact.kind = .dropColumns) ∧
      kept.flatMap Artifact.forward = specs.additions ++ specs.changes := by
  obtain ⟨kept, drops, rfl, first, last⟩ := List.map_eq_append_iff.1 h
  refine ⟨kept, drops, rfl, fun artifact ha => ?_, fun artifact ha => ?_, ?_⟩
  · have member : artifact.body ∈ kept.map Artifact.body := List.mem_map_of_mem ha
    rw [first, List.mem_append, TableDiff.mem_bodyOf_iff, TableDiff.mem_bodyOf_iff] at member
    show artifact.body.kind ≠ .dropColumns
    rcases member with ⟨-, same⟩ | ⟨-, same⟩
    · rw [same]
      exact ArtifactKind.noConfusion
    · rw [same]
      exact ArtifactKind.noConfusion
  · have member : artifact.body ∈ drops.map Artifact.body := List.mem_map_of_mem ha
    rw [last, TableDiff.mem_bodyOf_iff] at member
    exact congrArg ArtifactBody.kind member.2
  · have forwards : (kept.map Artifact.body).flatMap ArtifactBody.forward =
        kept.flatMap Artifact.forward := List.flatMap_map _ _ _
    simp [← forwards, first]

/-- An artifact that drops no column adds the new ones or changes the modified ones. -/
theorem forward_of_ne_dropColumns (h : body ∈ specs.bodies) (keeps : body.kind ≠ .dropColumns) :
    body.forward = specs.additions ∨ body.forward = specs.changes := by
  simp only [bodies, List.mem_append, TableDiff.mem_bodyOf_iff] at h
  rcases h with (⟨-, rfl⟩ | ⟨-, rfl⟩) | ⟨-, rfl⟩
  · exact .inl rfl
  · exact .inr rfl
  · exact absurd rfl keeps

/-- Columns can be added without changing any, and changed without adding any. -/
theorem Describes.exists_editAll_of_ne_dropColumns (h : specs.Describes options before decl)
    (distinct : decl.columnNames.Nodup) (live : before.table? decl.name = some table)
    (hb : body ∈ specs.bodies) (keeps : body.kind ≠ .dropColumns) :
    ∃ changed, table.editAll (body.forward.flatMap Operation.edits) = (changed, none) := by
  rcases forward_of_ne_dropColumns hb keeps with same | same
  · -- the additions are the first part of what is always done
    have prepared := h.editAll_preparations distinct live
    rw [List.flatMap_append, LiveTable.editAll_append_eq_none_iff] at prepared
    obtain ⟨middle, added, -⟩ := prepared
    exact ⟨middle, same ▸ added⟩
  · rw [same, changes_eq]
    exact ⟨_, LiveTable.editAll_changes_eq_none_iff.2
      ⟨fun _ hs => h.isSome_column?_of_mem_targets live hs, rfl⟩⟩

end AlterationSpecs

/-! ## The replay -/

open AlterationSpecs

/-- **When the artifacts of an alteration can be replayed.** Whatever the options, the
artifacts that a comparison with a live table calls for can be replayed on the schema
that it was made with exactly if the declared foreign keys are the live ones on the
columns that are dropped. The artifacts come in the order of adding, changing and dropping
columns. Those that add or change columns are always replayed, in this order as well as
each by itself; and a replay that fails does so at a foreign key of a dropped column that
is declared and not live, or live and not declared. -/
theorem alteration_replays_iff {text : String} {decl : TableDecl} {options : DiffOptions}
    {before : Catalog} {table : LiveTable} {diff : TableDiff} {now : Instant}
    {artifacts : List Artifact} (parsed : TableDecl.parse text = .ok decl)
    (live : before.table? decl.name = some table)
    (compared : TableDiff.compare options (.online before) decl true = .ok diff)
    (made : diff.artifacts decl now = .ok artifacts) :
    ((∃ after, before.applyArtifacts artifacts = (after, none)) ↔ diff.KeysAgree decl table) ∧
      (artifacts.map Artifact.kind).Sublist [.addColumns, .modifyColumns, .dropColumns] ∧
      (∃ kept drops middle, artifacts = kept ++ drops ∧
        (∀ artifact ∈ kept, artifact.kind ≠ .dropColumns) ∧
        (∀ artifact ∈ drops, artifact.kind = .dropColumns) ∧
        before.applyArtifacts kept = (middle, none)) ∧
      (∀ artifact ∈ artifacts, artifact.kind ≠ .dropColumns →
        ∃ after, before.applyArtifact artifact = (after, none)) ∧
      ∀ after problem, before.applyArtifacts artifacts = (after, some problem) →
        ∃ c ∈ decl.columns, diff.Drops c.name ∧ ∃ found, table.column? c.name = some found ∧
          (c.Refers ∧ found.foreign = none ∧ problem = .noForeignKey c.name decl.name ∨
            ¬ c.Refers ∧ found.foreign.isSome = true ∧
              problem = .hasForeignKey c.name decl.name) := by
  have distinct := TableDecl.nodup_columnNames_of_parse parsed
  obtain ⟨bodies, tables⟩ := TableDiff.of_artifacts made
  rw [(TableDiff.changes_of_alteration compared).1] at tables
  obtain ⟨specs, described, same⟩ := TableDiff.exists_specs_of_bodies compared bodies
  have alters := ne_create_of_bodies same
  have replayed : before.applyArtifacts artifacts = before.applyAll decl.name specs.operations := by
    rw [Catalog.applyArtifacts_of_alters alters tables, flatMap_forward same]
  refine ⟨?_, kinds_of_bodies same, ?_, fun artifact ha keeps => ?_, fun after problem failed => ?_⟩
  · rw [replayed, Catalog.exists_applyAll_iff specs.dropTable_notMem_operations live]
    exact described.exists_editAll_operations_iff compared distinct live
  · obtain ⟨kept, drops, rfl, keeps, last, forward⟩ := exists_split same
    refine ⟨kept, drops, before.put (specs.prepared table), rfl, keeps, last, ?_⟩
    rw [Catalog.applyArtifacts_of_alters (fun a ha => alters a (List.mem_append_left _ ha))
      fun a ha => tables a (List.mem_append_left _ ha), forward]
    refine (Catalog.applyAll_eq_none_iff (fun h => ?_) live).2
      ⟨_, described.editAll_preparations distinct live, rfl⟩
    exact specs.dropTable_notMem_operations (List.mem_append_left _ h)
  · have member : artifact.body ∈ specs.bodies := same ▸ List.mem_map_of_mem ha
    have edits : .dropTable ∉ artifact.forward := fun h =>
      specs.dropTable_notMem_operations (flatMap_forward same ▸ List.mem_flatMap_of_mem ha h)
    rw [Catalog.applyArtifact_of_alters (alters artifact ha), tables artifact ha,
      Catalog.exists_applyAll_iff edits live]
    exact described.exists_editAll_of_ne_dropColumns distinct live member keeps
  · rw [replayed, Catalog.applyAll_of_table? specs.dropTable_notMem_operations live] at failed
    have stopped : (table.editAll (specs.operations.flatMap Operation.edits)).2 = some problem :=
      congrArg Prod.snd failed
    exact described.exists_mismatch compared distinct live (Prod.ext rfl stopped)

namespace WrittenOrders

/-- Orders with an author, who is a foreign key or is none. -/
def table (linked : Bool) : LiveTable where
  name := "orders"
  columns := [⟨"id", "bigint", false, none⟩,
    ⟨"author_id", "bigint", false, if linked then some ⟨"authors", "id", none, none⟩ else none⟩]

/-- The author is to go, and a total to be added. -/
def text : String := "orders:author_id:foreignId:drop,total:integer"

/-- The author as declared. -/
def author : ColumnDecl := .new "author_id" .foreignId

/-- The orders as declared. -/
def decl : TableDecl where
  name := "orders"
  columns := [author.withFlag "drop", .new "total" .integer]
  flags := ⟨false, false⟩
  indexes := []

/-- The comparison with the live table. -/
def diff : TableDiff where
  table := "orders"
  tableAction := .alter
  changes := [⟨"author_id", .dropped author none false⟩, ⟨"total", .new (.new "total" .integer)⟩]
  warnings := []

theorem parsed : TableDecl.parse text = .ok decl := eq_ok_of_any_beq (by decide)

/-- The live foreign key has no say in the comparison. -/
theorem compared (linked : Bool) :
    TableDiff.compare .standard (.online ⟨[table linked]⟩) decl true = .ok diff := by
  cases linked with
  | false => exact eq_ok_of_any_beq (by decide)
  | true => exact eq_ok_of_any_beq (by decide)

theorem exists_artifacts : ∃ artifacts, diff.artifacts decl LongerNotes.start = .ok artifacts := by
  have check : (diff.artifacts decl LongerNotes.start).toOption.any (fun _ => true) = true := by
    decide
  obtain ⟨artifacts, made, -⟩ := exists_eq_ok_of_any check
  exact ⟨artifacts, made⟩

/-- Of the declared columns the author is the only one that is there. -/
theorem of_found {linked : Bool} {c : ColumnDecl} {found : LiveColumn} (hc : c ∈ decl.columns)
    (h : (table linked).column? c.name = some found) :
    c = author.withFlag "drop" ∧ found.foreign.isSome = linked := by
  rcases List.mem_pair.1 hc with rfl | rfl
  · cases h
    cases linked <;> exact ⟨rfl, rfl⟩
  · cases h

end WrittenOrders

/-- Orders whose author is a foreign key are altered. Where the author is none the replay
fails, and what it lacks is this key. -/
theorem alteration_replays_iff_orders : ∃ artifacts,
    WrittenOrders.diff.artifacts WrittenOrders.decl LongerNotes.start = .ok artifacts ∧
    (∃ after, Catalog.applyArtifacts ⟨[WrittenOrders.table true]⟩ artifacts = (after, none)) ∧
    ∃ after, Catalog.applyArtifacts ⟨[WrittenOrders.table false]⟩ artifacts =
      (after, some (.noForeignKey "author_id" "orders")) := by
  obtain ⟨artifacts, made⟩ := WrittenOrders.exists_artifacts
  have live (linked : Bool) : Catalog.table? ⟨[WrittenOrders.table linked]⟩
      WrittenOrders.decl.name = some (WrittenOrders.table linked) := rfl
  have replay (linked : Bool) := alteration_replays_iff WrittenOrders.parsed (live linked)
    (WrittenOrders.compared linked) made
  have refers : (WrittenOrders.author.withFlag "drop").Refers := .inl rfl
  refine ⟨artifacts, made, (replay true).1.2 fun c hc _ found hf => ?_, ?_⟩
  · obtain ⟨rfl, key⟩ := WrittenOrders.of_found hc hf
    exact iff_of_true refers key
  · obtain ⟨succeeds, -, -, -, fails⟩ := replay false
    rcases applied : Catalog.applyArtifacts ⟨[WrittenOrders.table false]⟩ artifacts with
      ⟨after, _ | problem⟩
    · have dropped : WrittenOrders.diff.Drops "author_id" := ⟨_, _, _, List.mem_cons_self⟩
      have agree := succeeds.1 ⟨after, applied⟩ _ List.mem_cons_self dropped _ rfl
      cases agree.1 refers
    · obtain ⟨c, hc, -, found, hf, problem⟩ := fails after problem applied
      obtain ⟨rfl, -⟩ := WrittenOrders.of_found hc hf
      rcases problem with ⟨-, -, rfl⟩ | ⟨none, -⟩
      · exact ⟨after, rfl⟩
      · exact absurd refers none

end SchemaPlan
