import SchemaPlan.Proofs.Emission
import SchemaPlan.Proofs.Replay

/-!
# What the artifact of a creation makes

The replay of a creation has three stages, and each is one run of edits: columns
are added to an empty table, columns are asked for by the indexes, and the columns
of the flags are added (`TableDiff.edits_creationOf`). So the columns of the table are
those of its operations, in order, and a replay that succeeds has shown that their
names differ.
-/

namespace SchemaPlan

/-! ## Stages of a run -/

namespace LiveTable

variable {table changed : LiveTable}

/-- **Columns can be asked for when they are there**, and that changes nothing. -/
theorem editAll_require_eq_none_iff {names : List String} :
    table.editAll (names.map .require) = (changed, none) ↔
      (∀ n ∈ names, n ∈ table.columnNames) ∧ changed = table := by
  have there (n : String) : (table.column? n).isSome ↔ n ∈ table.columnNames := by
    rw [Option.isSome_iff_ne_none, Ne, column?_eq_none_iff, not_not]
  unfold editAll
  induction names with
  | nil => simp [runUntilFault, @eq_comm _ changed]
  | cons n rest ih =>
    rw [List.map_cons, runUntilFault_cons_eq_none_iff, List.forall_mem_cons]
    constructor
    · rintro ⟨next, first, later⟩
      obtain ⟨here, rfl⟩ := editOrKeep_require_eq_none_iff.1 first
      obtain ⟨all, rfl⟩ := ih.1 later
      exact ⟨⟨(there n).1 here, all⟩, rfl⟩
    · rintro ⟨⟨here, all⟩, rfl⟩
      exact ⟨_, editOrKeep_require_eq_none_iff.2 ⟨(there n).2 here, rfl⟩, ih.2 ⟨all, rfl⟩⟩

end LiveTable

/-! ## The stages of a creation -/

namespace TableFlags

/-- The names of the columns that the flags add. -/
def columns (flags : TableFlags) : List String :=
  (if flags.softDeletes then ["deleted_at"] else []) ++
    (if flags.timestamps then ["created_at", "updated_at"] else [])

theorem nodup_columns (flags : TableFlags) : flags.columns.Nodup := by
  obtain ⟨softDeletes, timestamps⟩ := flags
  cases softDeletes <;> cases timestamps <;> decide

end TableFlags

namespace TableDiff

variable {decl : TableDecl} {specs : List ColumnSpec}

/-- The columns of a table that is created. -/
def createdColumns (decl : TableDecl) (specs : List ColumnSpec) : List LiveColumn :=
  (if hasImplicitKey decl then [.key] else []) ++ specs.map .ofSpec ++
    (if decl.flags.softDeletes then [.time "deleted_at"] else []) ++
    (if decl.flags.timestamps then [.time "created_at", .time "updated_at"] else [])

theorem mem_createdColumns_iff {column : LiveColumn} :
    column ∈ createdColumns decl specs ↔
      (hasImplicitKey decl = true ∧ column = .key) ∨ (∃ spec ∈ specs, column = .ofSpec spec) ∨
        (decl.flags.softDeletes = true ∧ column = .time "deleted_at") ∨
        (decl.flags.timestamps = true ∧
          (column = .time "created_at" ∨ column = .time "updated_at")) := by
  unfold createdColumns
  simp [@eq_comm _ column]

/-- The columns that the artifact adds before it makes the indexes. -/
def ownColumns (decl : TableDecl) (specs : List ColumnSpec) : List LiveColumn :=
  (if hasImplicitKey decl then [.key] else []) ++ specs.map .ofSpec

/-- The columns that the flags add. -/
def flagColumns (flags : TableFlags) : List LiveColumn :=
  flags.columns.map .time

@[simp] theorem names_flagColumns (flags : TableFlags) :
    (flagColumns flags).map (fun c => c.name) = flags.columns := by
  rw [flagColumns, List.map_map]
  exact List.map_id _

/-- **The edits of a creation**: columns are added, columns are asked for, and the
columns of the flags are added. -/
theorem edits_creationOf (decl : TableDecl) (specs : List ColumnSpec) :
    (creationOf decl specs).forward.flatMap Operation.edits =
      (ownColumns decl specs).map .add ++
        ((decl.indexes.flatMap CompositeIndex.columns).map .require ++
          (flagColumns decl.flags).map .add) := by
  have key : (if hasImplicitKey decl then [Operation.id] else []).flatMap Operation.edits =
      (if hasImplicitKey decl then [LiveColumn.key] else []).map .add := by
    split <;> rfl
  have indexes : (decl.indexes.map Operation.createIndex).flatMap Operation.edits =
      (decl.indexes.flatMap CompositeIndex.columns).map .require := by
    rw [List.flatMap_map, List.map_flatMap]
    rfl
  have flags : (if decl.flags.softDeletes then [Operation.softDeletes] else []).flatMap
        Operation.edits ++
      (if decl.flags.timestamps then [Operation.timestamps] else []).flatMap Operation.edits =
        (flagColumns decl.flags).map .add := by
    unfold flagColumns TableFlags.columns
    cases decl.flags.softDeletes <;> cases decl.flags.timestamps <;> rfl
  simp only [creationOf, ownColumns, List.flatMap_append, List.map_append, List.append_assoc,
    key, indexes, flags, Operation.flatMap_edits_addColumn]

/-- The columns of the table are those that are added in the first and in the last
stage. -/
theorem createdColumns_eq (decl : TableDecl) (specs : List ColumnSpec) :
    createdColumns decl specs = ownColumns decl specs ++ flagColumns decl.flags := by
  have flags : (if decl.flags.softDeletes then [LiveColumn.time "deleted_at"] else []) ++
      (if decl.flags.timestamps then [.time "created_at", .time "updated_at"] else []) =
        flagColumns decl.flags := by
    unfold flagColumns TableFlags.columns
    cases decl.flags.softDeletes <;> cases decl.flags.timestamps <;> rfl
  rw [createdColumns, ownColumns, List.append_assoc, flags]

/-- The edits of a creation that succeed have made the table, and no column name
twice. -/
theorem columns_of_creation {name : String} {changed : LiveTable}
    (h : (LiveTable.mk name []).editAll ((creationOf decl specs).forward.flatMap Operation.edits) =
      (changed, none)) :
    changed = ⟨name, createdColumns decl specs⟩ ∧ changed.columnNames.Nodup := by
  rw [edits_creationOf] at h
  obtain ⟨own, added, h⟩ := LiveTable.editAll_append_eq_none_iff.1 h
  obtain ⟨asked, required, h⟩ := LiveTable.editAll_append_eq_none_iff.1 h
  obtain ⟨⟨-, distinct⟩, rfl⟩ := LiveTable.editAll_add_eq_none_iff.1 added
  obtain ⟨-, rfl⟩ := LiveTable.editAll_require_eq_none_iff.1 required
  obtain ⟨⟨free, distinct'⟩, rfl⟩ := LiveTable.editAll_add_eq_none_iff.1 h
  rw [createdColumns_eq]
  refine ⟨rfl, ?_⟩
  rw [LiveTable.columnNames, List.map_append, List.nodup_append]
  refine ⟨distinct, distinct', ?_⟩
  rintro n hn _ hn' rfl
  obtain ⟨c, hc, rfl⟩ := List.mem_map.1 hn'
  exact LiveTable.column?_eq_none_iff.1 (free c hc) hn

theorem dropTable_notMem_creation (decl : TableDecl) (specs : List ColumnSpec) :
    Operation.dropTable ∉ (creationOf decl specs).forward := by
  simp only [creationOf, List.mem_append, List.mem_map, not_or]
  refine ⟨⟨⟨⟨?_, ?_⟩, ?_⟩, ?_⟩, ?_⟩
  · split <;> simp
  · simp
  · simp
  · split <;> simp
  · split <;> simp

/-- **A creation that can be replayed makes its table**, which was not live,
and no column name twice. -/
theorem exists_created {before after : Catalog} {now : Instant} {artifacts : List Artifact}
    (made : (creation decl).artifacts decl now = .ok artifacts)
    (applied : before.applyArtifacts artifacts = (after, none)) :
    ∃ specs artifact table, (explicitColumns decl).mapM ColumnSpec.ofDecl = .ok specs ∧
      artifacts = [artifact] ∧ artifact.table = decl.name ∧
      artifact.body = creationOf decl specs ∧ before.table? decl.name = none ∧
      table = ⟨decl.name, createdColumns decl specs⟩ ∧ table.columnNames.Nodup ∧
      after = before.put table := by
  obtain ⟨specs, artifact, described, rfl, name, body⟩ := exists_specs_of_creation made
  obtain ⟨next, first, rest⟩ := runUntilFault_cons_eq_none_iff.1 applied
  cases rest
  have forward : artifact.forward = (creationOf decl specs).forward :=
    congrArg ArtifactBody.forward body
  have kind : artifact.kind = .create := congrArg ArtifactBody.kind body
  obtain ⟨absent, changed, edited, rfl⟩ := (Catalog.applyArtifact_create_eq_none_iff kind
    (forward ▸ dropTable_notMem_creation decl specs)).1 first
  rw [forward, name] at edited
  obtain ⟨same, nodup⟩ := columns_of_creation edited
  exact ⟨specs, artifact, changed, described, rfl, name, body, name ▸ absent, same, nodup, rfl⟩

end TableDiff

end SchemaPlan
