import SchemaPlan.Proofs.Emission
import SchemaPlan.Proofs.Replay

/-!
# What the artifacts of an alteration make of a table

The artifacts of an alteration add, change and remove columns, one artifact
after the other. Their effect is one function of the table,
`AlterationSpecs.altered`, and a look-up in its result has four cases: the
column is dropped, modified, added or none of these. The cases exclude each
other when the specifications are about different columns
(`AlterationSpecs.Separate`), and then the operations succeed exactly when
every column is as its specification expects it.

That the specifications of a comparison are separate is a matter of the
declaration, whose columns have different names. So each of the three lists
has a name of the declaration just when the verdict on its column says so
(`AlterationSpecs.Describes.mem_addedNames_iff` and the two after it).
-/

namespace SchemaPlan

open LiveTable

namespace AlterationSpecs

variable {specs : AlterationSpecs} {options : DiffOptions} {catalog : Catalog} {decl : TableDecl}
  {table changed : LiveTable} {n : String}

/-- The names of the added columns. -/
def addedNames (specs : AlterationSpecs) : List String :=
  specs.added.map fun spec => spec.name

/-- The specifications that modified columns are changed to. -/
def targets (specs : AlterationSpecs) : List ColumnSpec :=
  specs.modified.map Prod.fst

/-- **The specifications are about different columns.** Then the three stages
do not get into each other's way, and a look-up in the result is decided by the
list that has the name. -/
def Separate (specs : AlterationSpecs) : Prop :=
  (specs.addedNames ++ specs.modifiedNames ++ specs.droppedNames).Nodup

theorem map_name_added (specs : AlterationSpecs) :
    ((specs.added.map LiveColumn.ofSpec).map fun c => c.name) = specs.addedNames :=
  List.map_map

theorem map_name_dropped (specs : AlterationSpecs) :
    ((specs.dropped.map Prod.fst).map fun spec => spec.name) = specs.droppedNames :=
  List.map_map

@[simp] theorem map_name_targets (specs : AlterationSpecs) :
    (specs.targets.map fun spec => spec.name) = specs.modifiedNames :=
  List.map_map

namespace Separate

theorem nodup_added (h : specs.Separate) : specs.addedNames.Nodup :=
  (List.nodup_append.1 (List.nodup_append.1 h).1).1

theorem nodup_modified (h : specs.Separate) : specs.modifiedNames.Nodup :=
  (List.nodup_append.1 (List.nodup_append.1 h).1).2.1

theorem nodup_dropped (h : specs.Separate) : specs.droppedNames.Nodup :=
  (List.nodup_append.1 h).2.1

theorem of_added (h : specs.Separate) (hn : n ∈ specs.addedNames) :
    n ∉ specs.modifiedNames ∧ n ∉ specs.droppedNames :=
  ⟨fun hm => (List.nodup_append.1 (List.nodup_append.1 h).1).2.2 n hn n hm rfl,
    fun hd => (List.nodup_append.1 h).2.2 n (List.mem_append_left _ hn) n hd rfl⟩

theorem of_modified (h : specs.Separate) (hn : n ∈ specs.modifiedNames) :
    n ∉ specs.addedNames ∧ n ∉ specs.droppedNames :=
  ⟨fun ha => (h.of_added ha).1 hn,
    fun hd => (List.nodup_append.1 h).2.2 n (List.mem_append_right _ hn) n hd rfl⟩

theorem of_dropped (h : specs.Separate) (hn : n ∈ specs.droppedNames) :
    n ∉ specs.addedNames ∧ n ∉ specs.modifiedNames :=
  ⟨fun ha => (h.of_added ha).2 hn, fun hm => (h.of_modified hm).2 hn⟩

end Separate

/-! ## One verdict for each name -/

namespace Describes

variable {c : ColumnDecl}

/-- A column of the declaration is added when it is new. The names of the
declaration are distinct, so a name stands for one column and one verdict. -/
theorem mem_addedNames_iff (h : specs.Describes options catalog decl)
    (distinct : decl.columnNames.Nodup) (hc : c ∈ decl.columns) : c.name ∈ specs.addedNames ↔
      TableDiff.verdict options catalog decl.name c = some (.new c) := by
  constructor
  · intro hn
    obtain ⟨spec, hs, same⟩ := List.mem_map.1 hn
    obtain ⟨d, hd, hv, made⟩ := (h.mem_added_iff spec).1 hs
    rw [(ColumnSpec.of_ofDecl made).1] at same
    rw [← List.inj_on_of_nodup_map distinct hd hc same]
    exact hv
  · intro hv
    obtain ⟨spec, hs, made⟩ := h.exists_added c hc hv
    rw [← (ColumnSpec.of_ofDecl made).1]
    exact List.mem_map_of_mem hs

/-- A column of the declaration is modified when it is live and differs. -/
theorem mem_modifiedNames_iff (h : specs.Describes options catalog decl)
    (distinct : decl.columnNames.Nodup) (hc : c ∈ decl.columns) :
    c.name ∈ specs.modifiedNames ↔ ∃ type nullable,
      TableDiff.verdict options catalog decl.name c = some (.modified c type nullable) := by
  constructor
  · intro hn
    obtain ⟨⟨declared, previous⟩, hp, same⟩ := List.mem_map.1 hn
    obtain ⟨d, hd, type, nullable, hv, made, -⟩ := (h.mem_modified_iff declared previous).1 hp
    dsimp only at same
    rw [(ColumnSpec.of_ofDecl made).1] at same
    rw [← List.inj_on_of_nodup_map distinct hd hc same]
    exact ⟨type, nullable, hv⟩
  · rintro ⟨type, nullable, hv⟩
    obtain ⟨pair, hp, made⟩ := h.exists_modified c hc type nullable hv
    rw [← (ColumnSpec.of_ofDecl made).1]
    exact List.mem_map_of_mem hp

/-- A column of the declaration is dropped when it is live and marked for
removal. -/
theorem mem_droppedNames_iff (h : specs.Describes options catalog decl)
    (distinct : decl.columnNames.Nodup) (hc : c ∈ decl.columns) :
    c.name ∈ specs.droppedNames ↔ ∃ type nullable,
      TableDiff.verdict options catalog decl.name c =
        some (.dropped c.withoutDrop type nullable) := by
  constructor
  · intro hn
    obtain ⟨⟨declared, previous⟩, hp, same⟩ := List.mem_map.1 hn
    obtain ⟨d, hd, type, nullable, hv, made, -⟩ := (h.mem_dropped_iff declared previous).1 hp
    dsimp only at same
    rw [(ColumnSpec.of_ofDecl made).1] at same
    rw [← List.inj_on_of_nodup_map distinct hd hc same]
    exact ⟨type, nullable, hv⟩
  · rintro ⟨type, nullable, hv⟩
    obtain ⟨pair, hp, made⟩ := h.exists_dropped c hc type nullable hv
    have name : pair.1.name = c.name := (ColumnSpec.of_ofDecl made).1
    rw [← name]
    exact List.mem_map_of_mem hp

/-- Nothing happens to a column that the declaration does not name: what is
live and not declared stays. -/
theorem notMem_of_undeclared (h : specs.Describes options catalog decl)
    (hn : n ∉ decl.columnNames) :
    n ∉ specs.addedNames ∧ n ∉ specs.modifiedNames ∧ n ∉ specs.droppedNames :=
  ⟨fun hm => hn (h.added_sublist.subset hm), fun hm => hn (h.modified_sublist.subset hm),
    fun hm => hn (h.dropped_sublist.subset hm)⟩

/-- Nothing happens to a column whose verdict is to leave it, or that has
none. -/
theorem notMem_of_verdict (h : specs.Describes options catalog decl)
    (distinct : decl.columnNames.Nodup) (hc : c ∈ decl.columns)
    (hv : TableDiff.verdict options catalog decl.name c = some .unchanged ∨
      TableDiff.verdict options catalog decl.name c = none) :
    c.name ∉ specs.addedNames ∧ c.name ∉ specs.modifiedNames ∧ c.name ∉ specs.droppedNames := by
  rw [h.mem_addedNames_iff distinct hc, h.mem_modifiedNames_iff distinct hc,
    h.mem_droppedNames_iff distinct hc]
  rcases hv with hv | hv <;> simp [hv]

/-- Nothing happens to a column that is undeclared or looked after by the
framework. -/
theorem notMem_of_system (h : specs.Describes options catalog decl)
    (distinct : decl.columnNames.Nodup) (hn : n ∉ decl.columnNames ∨ n ∈ options.systemColumns) :
    n ∉ specs.addedNames ∧ n ∉ specs.modifiedNames ∧ n ∉ specs.droppedNames := by
  by_cases declared : n ∈ decl.columnNames
  · obtain ⟨c, hc, rfl⟩ := List.mem_map.1 declared
    exact h.notMem_of_verdict distinct hc
      (.inl (TableDiff.verdict_of_system (hn.resolve_left fun h' => h' declared)))
  · exact h.notMem_of_undeclared declared

/-- The specifications of a declaration are separate: a name that were in two
of the lists would have two verdicts. -/
theorem separate (h : specs.Describes options catalog decl) (distinct : decl.columnNames.Nodup) :
    specs.Separate := by
  have declared : ∀ n ∈ decl.columnNames, ∃ c ∈ decl.columns, c.name = n :=
    fun n hn => List.mem_map.1 hn
  refine List.nodup_append.2 ⟨List.nodup_append.2 ⟨distinct.sublist h.added_sublist,
    distinct.sublist h.modified_sublist, ?_⟩, distinct.sublist h.dropped_sublist, ?_⟩
  · rintro n ha _ hm rfl
    obtain ⟨c, hc, rfl⟩ := declared n (h.added_sublist.subset ha)
    obtain ⟨type, nullable, hv⟩ := (h.mem_modifiedNames_iff distinct hc).1 hm
    rw [h.mem_addedNames_iff distinct hc, hv] at ha
    cases ha
  · rintro n hn _ hd rfl
    obtain ⟨c, hc, rfl⟩ := declared n (h.dropped_sublist.subset hd)
    obtain ⟨type, nullable, hv⟩ := (h.mem_droppedNames_iff distinct hc).1 hd
    rw [List.mem_append, h.mem_addedNames_iff distinct hc, h.mem_modifiedNames_iff distinct hc,
      hv] at hn
    simp at hn

end Describes

/-! ## The altered table -/

/-- A table after the artifacts of an alteration. -/
def altered (specs : AlterationSpecs) (table : LiveTable) : LiveTable where
  name := table.name
  columns :=
    (retypeAll specs.targets (table.columns ++ specs.added.map LiveColumn.ofSpec)).filter
      fun c => c.name ∉ specs.droppedNames

/-- The operations of all artifacts of an alteration, in order. -/
def operations (specs : AlterationSpecs) : List Operation :=
  specs.additions ++ specs.changes ++ specs.removals

theorem changes_eq (specs : AlterationSpecs) :
    specs.changes = specs.targets.map Operation.changeColumn :=
  List.map_map.symm

theorem removals_eq (specs : AlterationSpecs) :
    specs.removals = (specs.dropped.map Prod.fst).flatMap ColumnSpec.removal := by
  rw [List.flatMap_map]
  rfl

theorem dropTable_notMem_operations (specs : AlterationSpecs) :
    Operation.dropTable ∉ specs.operations := by
  simp only [operations, additions, changes, removals, ColumnSpec.removal, List.mem_append,
    List.mem_map, List.mem_flatMap, not_or, not_exists, not_and]
  refine ⟨⟨fun spec _ => Operation.noConfusion, fun pair _ => Operation.noConfusion⟩,
    fun pair _ => ⟨?_, ?_⟩⟩
  · split <;> simp
  · simp

/-- Added columns are not seen in a look-up of another name. They stand at the
end, behind all that were there. -/
theorem find?_added_of_notMem (hn : n ∉ specs.addedNames) (columns : List LiveColumn) :
    (columns ++ specs.added.map LiveColumn.ofSpec).find? (fun c => c.name == n) =
      columns.find? fun c => c.name == n := by
  have missing := @column?_eq_none_iff ⟨"", specs.added.map LiveColumn.ofSpec⟩ n
  have unadded : (specs.added.map LiveColumn.ofSpec).find? (fun c => c.name == n) = none := by
    refine missing.2 ?_
    rw [columnNames, map_name_added]
    exact hn
  rw [List.find?_append, unadded, Option.or_none]

/-- Neither added nor modified columns are seen in a look-up of another name. -/
theorem find?_changed_of_notMem (ha : n ∉ specs.addedNames) (hm : n ∉ specs.modifiedNames)
    (columns : List LiveColumn) :
    (retypeAll specs.targets (columns ++ specs.added.map LiveColumn.ofSpec)).find?
        (fun c => c.name == n) = columns.find? fun c => c.name == n := by
  rw [find?_retypeAll_of_notMem (specs.map_name_targets ▸ hm), find?_added_of_notMem ha]

/-- A table after the artifacts that add and change columns. Up to here a
replay always succeeds; only removing a column can fail. -/
def prepared (specs : AlterationSpecs) (table : LiveTable) : LiveTable where
  name := table.name
  columns := retypeAll specs.targets (table.columns ++ specs.added.map LiveColumn.ofSpec)

/-- What is dropped is not among what the stages before touch, so it is dropped
as it was live, with its foreign key if it had one. -/
theorem column?_prepared_of_dropped (separate : specs.Separate) (hn : n ∈ specs.droppedNames) :
    (specs.prepared table).column? n = table.column? n :=
  find?_changed_of_notMem (separate.of_dropped hn).1 (separate.of_dropped hn).2 table.columns

/-- Columns can be added and changed when what is added is not there and what is
modified is. -/
theorem editAll_preparations_eq_none_iff (separate : specs.Separate) :
    table.editAll ((specs.additions ++ specs.changes).flatMap Operation.edits) = (changed, none) ↔
      (∀ spec ∈ specs.added, table.column? spec.name = none) ∧
      (∀ spec ∈ specs.targets, (table.column? spec.name).isSome) ∧
      changed = specs.prepared table := by
  -- what is modified is not among what the stage before it touched
  have afterAdded : ∀ spec ∈ specs.targets,
      (LiveTable.mk table.name (table.columns ++ specs.added.map LiveColumn.ofSpec)).column?
        spec.name = table.column? spec.name := by
    intro spec hs
    have hn : spec.name ∈ specs.modifiedNames := specs.map_name_targets ▸ List.mem_map_of_mem hs
    exact find?_added_of_notMem (separate.of_modified hn).1 table.columns
  rw [List.flatMap_append, editAll_append_eq_none_iff, additions, Operation.flatMap_edits_addColumn,
    changes_eq]
  constructor
  · rintro ⟨first, begun, continued⟩
    obtain ⟨⟨fresh, -⟩, rfl⟩ := editAll_add_eq_none_iff.1 begun
    obtain ⟨present, rfl⟩ := editAll_changes_eq_none_iff.1 continued
    refine ⟨fun spec hs => fresh (.ofSpec spec) (List.mem_map_of_mem hs), fun spec hs => ?_, rfl⟩
    rw [← afterAdded spec hs]
    exact present spec hs
  · rintro ⟨fresh, present, rfl⟩
    refine ⟨_, editAll_add_eq_none_iff.2 ⟨⟨fun c hc => ?_,
      specs.map_name_added ▸ separate.nodup_added⟩, rfl⟩,
        editAll_changes_eq_none_iff.2 ⟨fun spec hs => ?_, rfl⟩⟩
    · obtain ⟨spec, hs, rfl⟩ := List.mem_map.1 hc
      exact fresh spec hs
    · rw [afterAdded spec hs]
      exact present spec hs

/-- A table without the dropped columns. -/
def stripped (specs : AlterationSpecs) (table : LiveTable) : LiveTable where
  name := table.name
  columns := table.columns.filter fun c => c.name ∉ specs.droppedNames

/-- The removals succeed when each dropped column has a foreign key just where
one is to be dropped with it. -/
theorem editAll_removals (separate : specs.Separate) :
    table.editAll (specs.removals.flatMap Operation.edits) = (changed, none) ↔
      (∀ pair ∈ specs.dropped, ∃ c, table.column? pair.1.name = some c ∧
        c.foreign.isSome = pair.1.foreign.isSome) ∧ changed = specs.stripped table := by
  rw [removals_eq,
    editAll_removals_eq_none_iff (specs.map_name_dropped ▸ separate.nodup_dropped),
    map_name_dropped]
  exact and_congr_left fun _ => by simp

/-- **The operations of an alteration succeed when every column is as they
expect it**: what is added is not there, what is modified is there, and what
is dropped is there and has a foreign key just where one is to be dropped. Then
they make the altered table. -/
theorem editAll_operations_eq_none_iff (separate : specs.Separate) :
    table.editAll (specs.operations.flatMap Operation.edits) = (changed, none) ↔
      (∀ spec ∈ specs.added, table.column? spec.name = none) ∧
      (∀ spec ∈ specs.targets, (table.column? spec.name).isSome) ∧
      (∀ pair ∈ specs.dropped, ∃ c, table.column? pair.1.name = some c ∧
        c.foreign.isSome = pair.1.foreign.isSome) ∧
      changed = specs.altered table := by
  rw [operations, List.flatMap_append, editAll_append_eq_none_iff]
  constructor
  · rintro ⟨middle, first, later⟩
    obtain ⟨fresh, present, rfl⟩ := (editAll_preparations_eq_none_iff separate).1 first
    obtain ⟨linked, rfl⟩ := (editAll_removals separate).1 later
    refine ⟨fresh, present, fun pair hp => ?_, rfl⟩
    rw [← column?_prepared_of_dropped separate (List.mem_map_of_mem hp)]
    exact linked pair hp
  · rintro ⟨fresh, present, linked, rfl⟩
    refine ⟨_, (editAll_preparations_eq_none_iff separate).2 ⟨fresh, present, rfl⟩,
      (editAll_removals separate).2 ⟨fun pair hp => ?_, rfl⟩⟩
    rw [column?_prepared_of_dropped separate (List.mem_map_of_mem hp)]
    exact linked pair hp

/-! ## Looking up in the altered table -/

theorem column?_altered_of_dropped (hn : n ∈ specs.droppedNames) :
    (specs.altered table).column? n = none := by
  rw [column?_eq_none_iff]
  intro h
  obtain ⟨c, hc, rfl⟩ := List.mem_map.1 h
  simpa [hn] using (List.mem_filter.1 hc).2

theorem column?_altered (hn : n ∉ specs.droppedNames) :
    (specs.altered table).column? n =
      (retypeAll specs.targets (table.columns ++ specs.added.map LiveColumn.ofSpec)).find?
        fun c => c.name == n :=
  @find?_filter_name (fun name => decide (name ∉ specs.droppedNames)) n (decide_eq_true hn) _

/-- A column that is only added is as specified. -/
theorem column?_altered_of_added {spec : ColumnSpec} (hs : spec ∈ specs.added)
    (separate : specs.Separate) (fresh : table.column? spec.name = none) :
    (specs.altered table).column? spec.name = some (.ofSpec spec) := by
  have hn : spec.name ∈ specs.addedNames := List.mem_map_of_mem hs
  have nodup : (LiveTable.mk table.name (specs.added.map LiveColumn.ofSpec)).columnNames.Nodup := by
    rw [columnNames, map_name_added]
    exact separate.nodup_added
  rw [column?_altered (separate.of_added hn).2,
    find?_retypeAll_of_notMem (specs.map_name_targets ▸ (separate.of_added hn).1),
    List.find?_append, show table.columns.find? (fun c => c.name == spec.name) = none from fresh]
  exact column?_eq_some_of_mem nodup (List.mem_map_of_mem hs)

/-- A column that is modified has the type and the nullability that are
specified, and keeps its foreign key. -/
theorem column?_altered_of_modified {spec : ColumnSpec} (hs : spec ∈ specs.targets)
    (separate : specs.Separate) {live : LiveColumn}
    (present : table.column? spec.name = some live) :
    (specs.altered table).column? spec.name =
      some (live.retyped (TypeName.storage spec.kind) spec.nullable) := by
  have hn : spec.name ∈ specs.modifiedNames := specs.map_name_targets ▸ List.mem_map_of_mem hs
  rw [column?_altered (separate.of_modified hn).2,
    find?_retypeAll_of_mem (specs.map_name_targets ▸ separate.nodup_modified) hs,
    List.find?_append,
    show table.columns.find? (fun c => c.name == spec.name) = some live from present]
  rfl

/-- **Columns that are in none of the three lists stay as they are and in
their order.** -/
theorem filter_altered {keep : String → Bool}
    (h : ∀ n, keep n = true →
      n ∉ specs.addedNames ∧ n ∉ specs.modifiedNames ∧ n ∉ specs.droppedNames) :
    (specs.altered table).columns.filter (fun c => keep c.name) =
      table.columns.filter fun c => keep c.name := by
  have left : ∀ n, n ∈ specs.addedNames ∨ n ∈ specs.modifiedNames → keep n = false := by
    intro n hn
    rw [← Bool.not_eq_true]
    intro kept
    exact hn.elim (h n kept).1 (h n kept).2.1
  have unchanged : ∀ spec ∈ specs.targets, keep spec.name = false := fun spec hs =>
    left spec.name (.inr (specs.map_name_targets ▸ List.mem_map_of_mem hs))
  have unadded : (specs.added.map LiveColumn.ofSpec).filter (fun c => keep c.name) = [] := by
    rw [List.filter_eq_nil_iff]
    intro c hc
    obtain ⟨spec, hs, rfl⟩ := List.mem_map.1 hc
    rw [Bool.not_eq_true]
    exact left spec.name (.inl (List.mem_map_of_mem hs))
  have undropped : ∀ c : LiveColumn,
      (keep c.name && decide (c.name ∉ specs.droppedNames)) = keep c.name := by
    intro c
    cases hk : keep c.name with
    | false => rfl
    | true => simp [(h c.name hk).2.2]
  simp only [altered, List.filter_filter, undropped]
  rw [filter_retypeAll unchanged, List.filter_append, unadded, List.append_nil]

theorem column?_altered_of_untouched
    (h : n ∉ specs.addedNames ∧ n ∉ specs.modifiedNames ∧ n ∉ specs.droppedNames) :
    (specs.altered table).column? n = table.column? n := by
  rw [column?_altered h.2.2, find?_changed_of_notMem h.1 h.2.1]
  rfl

end AlterationSpecs

/-! ## Replaying the artifacts of an alteration -/

namespace AlterationSpecs

variable {specs : AlterationSpecs} {artifacts : List Artifact}

@[simp] theorem flatMap_forward_bodyOf (kind : ArtifactKind) (forward inverse : List Operation) :
    (TableDiff.bodyOf kind forward inverse).flatMap ArtifactBody.forward = forward := by
  unfold TableDiff.bodyOf
  cases forward with
  | nil => rfl
  | cons operation rest => exact List.append_nil _

/-- The artifacts of an alteration do its operations, in order. Replaying them
one by one is replaying one list, up to where that fails. -/
theorem flatMap_forward (h : artifacts.map Artifact.body = specs.bodies) :
    artifacts.flatMap Artifact.forward = specs.operations := by
  have forwards : (artifacts.map Artifact.body).flatMap ArtifactBody.forward =
      artifacts.flatMap Artifact.forward := List.flatMap_map _ _ _
  rw [← forwards, h, bodies, List.flatMap_append, List.flatMap_append, flatMap_forward_bodyOf,
    flatMap_forward_bodyOf, flatMap_forward_bodyOf]
  rfl

theorem ne_create_of_bodies (h : artifacts.map Artifact.body = specs.bodies) :
    ∀ artifact ∈ artifacts, artifact.kind ≠ .create := by
  intro artifact ha
  exact @kind_of_mem_bodies specs artifact.body (h ▸ List.mem_map_of_mem ha)

end AlterationSpecs

namespace TableDiff

variable {options : DiffOptions} {before after : Catalog} {decl : TableDecl} {diff : TableDiff}
  {now : Instant} {artifacts : List Artifact}

theorem operations_ne_nil {specs : AlterationSpecs}
    (h : artifacts.map Artifact.body = specs.bodies) (nonempty : artifacts ≠ []) :
    specs.operations ≠ [] := by
  intro none
  obtain ⟨⟨noAdditions, noChanges⟩, noRemovals⟩ :
      (specs.additions = [] ∧ specs.changes = []) ∧ specs.removals = [] := by
    simpa only [AlterationSpecs.operations, List.append_eq_nil_iff] using none
  rw [AlterationSpecs.bodies, noAdditions, noChanges, noRemovals] at h
  exact nonempty (List.map_eq_nil_iff.1 h)

/-- **Artifacts of an alteration that can be replayed alter their table**,
which is live, and no other. -/
theorem exists_altered (h : alteration options (.online before) decl = .ok diff)
    (made : diff.artifacts decl now = .ok artifacts) (nonempty : artifacts ≠ [])
    (distinct : decl.columnNames.Nodup)
    (applied : before.applyArtifacts artifacts = (after, none)) :
    ∃ (specs : AlterationSpecs) (table : LiveTable), specs.Describes options before decl ∧
      before.table? decl.name = some table ∧ after = before.put (specs.altered table) ∧
      artifacts.map Artifact.body = specs.bodies ∧
      (∀ artifact ∈ artifacts, artifact.table = decl.name) ∧
      (∀ spec ∈ specs.added, table.column? spec.name = none) ∧
      ∀ pair ∈ specs.dropped, ∃ c, table.column? pair.1.name = some c ∧
        c.foreign.isSome = pair.1.foreign.isSome := by
  obtain ⟨bodies, tables⟩ := of_artifacts made
  rw [(changes_of_alteration h).1] at tables
  obtain ⟨specs, described, same⟩ := exists_specs_of_bodies h bodies
  rw [Catalog.applyArtifacts_of_alters (AlterationSpecs.ne_create_of_bodies same) tables,
    AlterationSpecs.flatMap_forward same] at applied
  obtain ⟨table, live⟩ := Catalog.exists_table?_of_applyAll (operations_ne_nil same nonempty) applied
  obtain ⟨changed, edited, rfl⟩ :=
    (Catalog.applyAll_eq_none_iff specs.dropTable_notMem_operations live).1 applied
  obtain ⟨fresh, -, linked, rfl⟩ :=
    (AlterationSpecs.editAll_operations_eq_none_iff (described.separate distinct)).1 edited
  exact ⟨specs, table, described, live, rfl, same, tables, fresh, linked⟩

end TableDiff

end SchemaPlan
