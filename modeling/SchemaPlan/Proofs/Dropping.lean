import SchemaPlan.Archive.Memory
import SchemaPlan.Proofs.Alteration
import SchemaPlan.Proofs.Declaration
import SchemaPlan.Proofs.Run
import SchemaPlan.Proofs.TypeAgreement

/-!
# Dropped columns and what comes back

The artifact that drops columns is taken back by adding them again. They come
back at the end of the table, with the nullability that they had and with the
foreign key that is declared for them; so a column has its own foreign key
back when that is the declared one.

The type is another matter. Where the declared kind agrees with the live type,
the column comes back as a column of that kind, and only where it does not, as
a column of the live type. The kind may agree with a type that it is not stored
as: the pairs are `TypeName.standIns`, and for just these the canonical name of
the type is lost (`drop_can_be_reverted`).
-/

namespace SchemaPlan

/-! ## The mark for removal and the foreign key -/

namespace ColumnDecl

variable {column : ColumnDecl} {key : String}

@[simp] theorem value?_withoutDrop (h : key ≠ "drop") :
    column.withoutDrop.value? key = column.value? key := by
  simp [value?, h]

@[simp] theorem has_withoutDrop (h : key ≠ "drop") :
    column.withoutDrop.has key = column.has key := by
  simp [has, h]

/-- Whether a column refers to another table does not depend on the mark. -/
@[simp] theorem isForeignKey_withoutDrop (column : ColumnDecl) :
    column.withoutDrop.isForeignKey = column.isForeignKey := by
  simp [isForeignKey]

end ColumnDecl

namespace ColumnSpec

variable {column : ColumnDecl}

@[simp] theorem readAction_withoutDrop {option : String} (h : option ≠ "drop") :
    readAction column.withoutDrop option = readAction column option := by
  simp [readAction, h]

/-- The mark for removal says nothing of the foreign key. -/
@[simp] theorem readForeign_withoutDrop (column : ColumnDecl) :
    readForeign column.withoutDrop = readForeign column := by
  simp [readForeign]

end ColumnSpec

/-! ## The type that comes back -/

/-- A kind that is stored as the type to be put back, that of the declared kind
where it agrees with the live type and the live type where not, is stored as the
live type unless the declared kind stands in for it. -/
theorem TypeName.canonical_storage_eq_iff {kind other : ColumnKind} {live : String}
    (h : storage other = if agrees kind live = true then storage kind else canonical live) :
    canonical (storage other) = canonical live ↔ (kind, canonical live) ∉ standIns := by
  rw [canonical_storage, h]
  by_cases agreed : agrees kind live = true
  · rw [if_pos agreed]
    constructor
    · intro same stands
      exact ne_storage_of_mem_standIns stands same.symm
    · intro stored
      exact ((agrees_iff_storage.1 agreed).resolve_right stored).symm
  · rw [if_neg agreed]
    exact iff_of_true rfl fun stands => agreed (agrees_iff_storage.2 (.inr stands))

/-! ## The artifact that drops columns -/

namespace AlterationSpecs

open LiveTable

variable {specs : AlterationSpecs} {table changed : LiveTable} {body : ArtifactBody} {n T : String}
  {options : DiffOptions} {before after : Catalog} {decl : TableDecl}

theorem mem_droppedNames_iff : n ∈ specs.droppedNames ↔
    ∃ declared previous, (declared, previous) ∈ specs.dropped ∧ declared.name = n := by
  simp [droppedNames]

/-- A table with the dropped columns put back at the end. -/
def refilled (specs : AlterationSpecs) (table : LiveTable) : LiveTable where
  name := table.name
  columns := (specs.stripped table).columns ++ specs.dropped.map fun p => .ofSpec p.2

/-- The body that drops columns removes the dropped ones, and adds them again
when it is taken back. -/
theorem of_drops (h : body ∈ specs.bodies) (drops : body.kind = .dropColumns) :
    specs.removals ≠ [] ∧ body.forward = specs.removals ∧
      body.inverse = specs.dropped.map fun p => .addColumn p.2 := by
  simp only [bodies, List.mem_append, TableDiff.mem_bodyOf_iff] at h
  rcases h with (⟨-, rfl⟩ | ⟨-, rfl⟩) | ⟨nonempty, rfl⟩
  · cases drops
  · cases drops
  · exact ⟨nonempty, rfl, rfl⟩

theorem dropTable_notMem_removals (specs : AlterationSpecs) : .dropTable ∉ specs.removals :=
  fun h => specs.dropTable_notMem_operations (List.mem_append_right _ h)

theorem dropColumn_mem_removals_iff :
    .dropColumn n ∈ specs.removals ↔ n ∈ specs.droppedNames := by
  simp only [removals, ColumnSpec.removal, droppedNames, List.mem_flatMap, List.mem_append,
    List.mem_map, List.mem_singleton, Operation.dropColumn.injEq]
  refine exists_congr fun pair => and_congr_right fun _ => ?_
  split
  · simp [eq_comm]
  · simp [eq_comm]

theorem column?_stripped (hn : n ∈ specs.droppedNames) :
    (specs.stripped table).column? n = none := by
  rw [column?_eq_none_iff]
  intro named
  obtain ⟨c, hc, rfl⟩ := List.mem_map.1 named
  simpa [hn] using (List.mem_filter.1 hc).2

/-- Where the removals have succeeded, the additions do. -/
theorem editAll_refill (separate : specs.Separate)
    (names : ∀ pair ∈ specs.dropped, pair.2.name = pair.1.name) :
    (specs.stripped table).editAll
        ((specs.dropped.map fun p => Operation.addColumn p.2).flatMap Operation.edits) =
      (specs.refilled table, none) := by
  have edits : (specs.dropped.map fun p => Operation.addColumn p.2).flatMap Operation.edits =
      (specs.dropped.map fun p => LiveColumn.ofSpec p.2).map .add := by
    rw [List.map_map, List.flatMap_map]
    exact (List.map_eq_flatMap).symm
  rw [edits, editAll_add_eq_none_iff]
  refine ⟨⟨fun c hc => ?_, ?_⟩, rfl⟩
  · obtain ⟨pair, hp, rfl⟩ := List.mem_map.1 hc
    refine column?_stripped ?_
    show pair.2.name ∈ specs.droppedNames
    rw [names pair hp]
    exact List.mem_map_of_mem hp
  · rw [List.map_map]
    have same : specs.dropped.map ((fun c => c.name) ∘ fun p => LiveColumn.ofSpec p.2) =
        specs.droppedNames := List.map_congr_left names
    rw [same]
    exact separate.nodup_dropped

/-- The names of a table whose dropped columns are back, those of the dropped
ones last. -/
theorem columnNames_refilled (names : ∀ pair ∈ specs.dropped, pair.2.name = pair.1.name) :
    (specs.refilled table).columnNames =
      (table.columnNames.filter fun n => n ∉ specs.droppedNames) ++ specs.droppedNames := by
  have back : (specs.dropped.map fun p => LiveColumn.ofSpec p.2).map (fun c => c.name) =
      specs.droppedNames := by
    rw [List.map_map]
    exact List.map_congr_left names
  show ((table.columns.filter fun c => c.name ∉ specs.droppedNames) ++
    specs.dropped.map fun p => LiveColumn.ofSpec p.2).map (fun c => c.name) = _
  rw [List.map_append, back, columnNames, List.filter_map]
  rfl

/-- A table has the same names once its dropped columns are back. -/
theorem columnNames_refilled_perm (separate : specs.Separate)
    (names : ∀ pair ∈ specs.dropped, pair.2.name = pair.1.name)
    (present : ∀ n ∈ specs.droppedNames, n ∈ table.columnNames)
    (distinct : table.columnNames.Nodup) :
    (specs.refilled table).columnNames.Perm table.columnNames := by
  rw [columnNames_refilled names]
  have nodup : ((table.columnNames.filter fun n => n ∉ specs.droppedNames) ++
      specs.droppedNames).Nodup := by
    refine List.nodup_append.2 ⟨distinct.filter _, separate.nodup_dropped, ?_⟩
    rintro n kept _ gone rfl
    simpa [gone] using (List.mem_filter.1 kept).2
  refine (List.perm_ext_iff_of_nodup nodup distinct).2 fun n => ?_
  by_cases gone : n ∈ specs.droppedNames
  · simp [gone, present n gone]
  · simp [gone]

/-- The columns that are not dropped are unchanged and in their order. -/
theorem filter_refilled (names : ∀ pair ∈ specs.dropped, pair.2.name = pair.1.name) :
    (specs.refilled table).columns.filter (fun c => c.name ∉ specs.droppedNames) =
      table.columns.filter fun c => c.name ∉ specs.droppedNames := by
  have back : (specs.dropped.map fun p => LiveColumn.ofSpec p.2).filter
      (fun c => c.name ∉ specs.droppedNames) = [] := by
    rw [List.filter_eq_nil_iff]
    intro c hc
    obtain ⟨pair, hp, rfl⟩ := List.mem_map.1 hc
    have gone : pair.2.name ∈ specs.droppedNames := by
      rw [names pair hp]
      exact List.mem_map_of_mem hp
    rw [decide_eq_true_iff, not_not]
    exact gone
  show ((table.columns.filter fun c => c.name ∉ specs.droppedNames) ++
    specs.dropped.map fun p => LiveColumn.ofSpec p.2).filter _ = _
  rw [List.filter_append, back, List.append_nil, List.filter_filter]
  simp

/-- Removals that succeed leave the table without the dropped columns, all of
which it had. -/
theorem of_applyAll_removals (separate : specs.Separate) (live : before.table? T = some table)
    (h : before.applyAll T specs.removals = (after, none)) :
    after = before.put (specs.stripped table) ∧
      ∀ n ∈ specs.droppedNames, n ∈ table.columnNames := by
  rw [Catalog.applyAll_eq_none_iff specs.dropTable_notMem_removals live] at h
  obtain ⟨changed, edited, rfl⟩ := h
  obtain ⟨present, rfl⟩ := (editAll_removals separate).1 edited
  refine ⟨rfl, fun n hn => ?_⟩
  obtain ⟨declared, previous, hp, rfl⟩ := mem_droppedNames_iff.1 hn
  obtain ⟨c, found, -⟩ := present (declared, previous) hp
  rw [← LiveTable.name_of_column?_eq_some found]
  exact List.mem_map_of_mem (List.mem_of_find?_eq_some found)

/-- The additions put the dropped columns back. -/
theorem applyAll_refill (separate : specs.Separate)
    (names : ∀ pair ∈ specs.dropped, pair.2.name = pair.1.name)
    (live : before.table? T = some table) :
    (before.put (specs.stripped table)).applyAll T
        (specs.dropped.map fun p => Operation.addColumn p.2) =
      (before.put (specs.refilled table), none) := by
  have name : table.name = T := Catalog.name_of_table?_eq_some live
  have found : (before.put (specs.stripped table)).table? T = some (specs.stripped table) :=
    name ▸ Catalog.table?_put_self before (specs.stripped table)
  rw [Catalog.applyAll_eq_none_iff (by simp) found]
  exact ⟨_, editAll_refill separate names,
    (@Catalog.put_put (specs.stripped table) (specs.refilled table) rfl before).symm⟩

/-- **What is known of a column that is put back**: it is a column of the
declaration that was live, it has the nullability of the live one and the
declared foreign key, and the canonical type of the live one unless the declared
kind stands in for it. -/
theorem Describes.of_mem_dropped (h : specs.Describes options before decl)
    (live : before.table? decl.name = some table) {declared previous : ColumnSpec}
    (hp : (declared, previous) ∈ specs.dropped) :
    previous.name = declared.name ∧ ∃ c ∈ decl.columns, c.name = declared.name ∧
      ColumnSpec.readForeign c = .ok previous.foreign ∧
      ∃ found, table.column? declared.name = some found ∧ previous.nullable = found.nullable ∧
        (TypeName.canonical (TypeName.storage previous.kind) = TypeName.canonical found.type ↔
          (c.kind, TypeName.canonical found.type) ∉ TypeName.standIns) := by
  obtain ⟨c, hc, type, nullable, hv, made, restored⟩ := (h.mem_dropped_iff declared previous).1 hp
  obtain ⟨found, hf, -, -, left, nullable'⟩ := TableDiff.actionFor_eq_dropped_iff.1
    (TableDiff.actionFor_of_verdict hv (by simp)).2
  obtain ⟨name, stored, same, foreign⟩ := ColumnSpec.of_restoreDropped restored
  obtain ⟨name', kind, -, -⟩ := ColumnSpec.of_ofDecl made
  rw [ColumnDecl.name_withoutDrop] at name'
  rw [ColumnDecl.kind_withoutDrop] at kind
  rw [Catalog.column?_of_table? live] at hf
  refine ⟨name, c, hc, name'.symm, ?_, found, name' ▸ hf, same.trans nullable', ?_⟩
  · rw [← ColumnSpec.readForeign_withoutDrop, foreign]
    exact ColumnSpec.readForeign_of_ofDecl made
  · refine TypeName.canonical_storage_eq_iff ?_
    rw [stored, left, kind]
    by_cases agreed : TypeName.agrees c.kind found.type = true
    · rw [if_pos agreed, if_pos agreed, Option.getD_none]
    · rw [if_neg agreed, if_neg agreed, Option.getD_some]

end AlterationSpecs

/-! ## The way there and back -/

open AlterationSpecs

/-- **Dropped columns can be put back, but not always as they were.** When the
artifact of a run that drops columns is replayed on the schema that the run was
planned against, and each dropped column had the foreign key that is declared
for it, then taking the artifact back succeeds. The table has the same names
again, the columns that were not dropped are unchanged and in their order, and
a dropped column has its nullability and its foreign key again. It has the same
canonical type exactly when the declared kind does not stand in for that type,
as `boolean` does for `tinyint`. -/
theorem drop_can_be_reverted {σ : Type} {archive : Archive (StateM σ)} {s : σ} {trial : Bool}
    {before after : Catalog} {decl : TableDecl} {table : LiveTable} {now : Instant} {text : String}
    {stored : List StoredArtifact} {entry : StoredArtifact}
    (parsed : TableDecl.parse text = .ok decl)
    (live : before.table? decl.name = some table) (distinct : table.columnNames.Nodup)
    (generated :
      ((archive.generate ⟨trial, .standard⟩ (.online before) now text).run s).1.result =
        .ok (.generated stored))
    (made : entry ∈ stored) (drops : entry.artifact.kind = .dropColumns)
    (applied : before.applyArtifact entry.artifact = (after, none))
    (linked : ∀ c ∈ decl.columns, .dropColumn c.name ∈ entry.artifact.forward →
      ∀ found, table.column? c.name = some found →
        ColumnSpec.readForeign c = .ok found.foreign) :
    ∃ back : LiveTable, after.revertArtifact entry.artifact = (before.put back, none) ∧
      back.name = table.name ∧ back.columnNames.Perm table.columnNames ∧
      (back.columns.filter fun c => .dropColumn c.name ∉ entry.artifact.forward) =
        (table.columns.filter fun c => .dropColumn c.name ∉ entry.artifact.forward) ∧
      ∀ n, .dropColumn n ∈ entry.artifact.forward → ∃ c ∈ decl.columns, c.name = n ∧
        ∃ found column, table.column? n = some found ∧ back.column? n = some column ∧
          column.nullable = found.nullable ∧ column.foreign = found.foreign ∧
          (TypeName.canonical column.type = TypeName.canonical found.type ↔
            (c.kind, TypeName.canonical found.type) ∉ TypeName.standIns) := by
  obtain ⟨-, tableExists, diff, exists_of_live, compared, planned⟩ :=
    Archive.of_generated_online parsed generated
  cases exists_of_live (by rw [live]; rfl)
  obtain ⟨bodies, tables⟩ := TableDiff.of_artifacts planned
  rw [(TableDiff.changes_of_alteration compared).1] at tables
  obtain ⟨specs, described, same⟩ := TableDiff.exists_specs_of_bodies compared bodies
  have separate := described.separate (TableDecl.nodup_columnNames_of_parse parsed)
  have member : entry.artifact ∈ stored.map StoredArtifact.artifact := List.mem_map_of_mem made
  have body : entry.artifact.body ∈ specs.bodies := same ▸ List.mem_map_of_mem member
  obtain ⟨-, forward, inverse⟩ := of_drops body drops
  have forward : entry.artifact.forward = specs.removals := forward
  have inverse : entry.artifact.inverse = specs.dropped.map fun p => .addColumn p.2 := inverse
  have names : ∀ pair ∈ specs.dropped, pair.2.name = pair.1.name :=
    fun pair hp => (described.of_mem_dropped live hp).1
  -- the way there
  rw [Catalog.applyArtifact_of_alters (by rw [drops]; decide), tables _ member, forward] at applied
  obtain ⟨rfl, present⟩ := of_applyAll_removals separate live applied
  have perm := columnNames_refilled_perm separate names present distinct
  -- the way back
  have reverted : (before.put (specs.stripped table)).revertArtifact entry.artifact =
      (before.put (specs.refilled table), none) := by
    rw [Catalog.revertArtifact, tables _ member, inverse]
    exact applyAll_refill separate names live
  simp only [forward, dropColumn_mem_removals_iff] at linked ⊢
  refine ⟨specs.refilled table, reverted, rfl, perm, filter_refilled names, fun n hn => ?_⟩
  obtain ⟨declared, previous, hp, rfl⟩ := mem_droppedNames_iff.1 hn
  obtain ⟨name', c, hc, declaredName, key, old, hold, nullable, type⟩ :=
    described.of_mem_dropped live hp
  refine ⟨c, hc, declaredName, old, .ofSpec previous, hold, ?_, nullable, ?_, ?_⟩
  · rw [← name']
    exact LiveTable.column?_eq_some_of_mem (perm.nodup_iff.2 distinct)
      (List.mem_append_right _ (List.mem_map_of_mem hp))
  · have declaredKey := linked c hc (declaredName ▸ hn) old (declaredName ▸ hold)
    exact Except.ok.inj (key.symm.trans declaredKey)
  · rw [LiveColumn.type_ofSpec]
    exact type

namespace DroppedColumns

/-- A table of orders with a flag and a text that is no longer used. -/
def before : Catalog :=
  ⟨[⟨"orders", [⟨"flag", "tinyint(1)", false, none⟩, ⟨"legacy", "TEXT", true, none⟩]⟩]⟩

/-- The table without its columns. -/
def after : Catalog := ⟨[⟨"orders", []⟩]⟩

/-- The declaration. -/
def text : String := "orders:flag:boolean:drop,legacy:text:drop"

/-- The artifact that the declaration calls for. -/
def artifact : Artifact where
  kind := .dropColumns
  table := "orders"
  createdAt := LongerNotes.start
  forward := [.dropColumn "flag", .dropColumn "legacy"]
  inverse := [.addColumn (.new "flag" .boolean),
    .addColumn { ColumnSpec.new "legacy" .text with nullable := true }]

/-- The table of orders is declared without foreign keys and with a flag. -/
theorem exists_decl : ∃ decl, TableDecl.parse text = .ok decl ∧ decl.name = "orders" ∧
    (∀ c ∈ decl.columns, c.name = "flag" → c.kind = .boolean) ∧
    ∀ c ∈ decl.columns, ColumnSpec.readForeign c = .ok none := by
  have read : (TableDecl.parse text).toOption.any (fun decl => decl.name == "orders" &&
      decl.columns.all fun c => (c.name != "flag" || c.kind == .boolean) && !c.isForeignKey) =
        true := by decide
  obtain ⟨decl, parsed, checked⟩ := exists_eq_ok_of_any read
  rw [Bool.and_eq_true, beq_iff_eq, List.all_eq_true] at checked
  refine ⟨decl, parsed, checked.1, fun c hc named => ?_, fun c hc => ?_⟩
  · have flag := (Bool.and_eq_true_iff.1 (checked.2 c hc)).1
    rw [named] at flag
    simpa using flag
  · have key := (Bool.and_eq_true_iff.1 (checked.2 c hc)).2
    rw [ColumnSpec.readForeign, if_neg (by simpa using key)]

/-- The run of the declaration over an empty archive stores one artifact. -/
theorem exists_stored : ∃ stored,
    (((Archive.memory 1).generate ⟨false, .standard⟩ (.online before) LongerNotes.start text).run
      []).1.result = .ok (.generated stored) ∧
    stored.map StoredArtifact.artifact = [artifact] :=
  Outcome.exists_generated (by decide +kernel) (List.cons_ne_nil _ _)

theorem applied : before.applyArtifact artifact = (after, none) := by decide

/-- No column of the table has a foreign key. -/
theorem foreign_eq_none {n : String} {found : LiveColumn}
    (h : (LiveTable.mk "orders" [⟨"flag", "tinyint(1)", false, none⟩,
      ⟨"legacy", "TEXT", true, none⟩]).column? n = some found) : found.foreign = none := by
  have all : ∀ c ∈ [(⟨"flag", "tinyint(1)", false, none⟩ : LiveColumn),
      ⟨"legacy", "TEXT", true, none⟩], c.foreign = none := by decide
  exact all found (List.mem_of_find?_eq_some h)

end DroppedColumns

/-- The two columns come back: the text as it was, and the flag, which is stood
in for, with another type. -/
theorem drop_can_be_reverted_orders : ∃ back : LiveTable,
    DroppedColumns.after.revertArtifact DroppedColumns.artifact =
      (DroppedColumns.before.put back, none) ∧
    back.columnNames.Perm ["flag", "legacy"] ∧
    ∃ flag, back.column? "flag" = some flag ∧ flag.nullable = false ∧ flag.foreign = none ∧
      TypeName.canonical flag.type ≠ "tinyint" := by
  obtain ⟨decl, parsed, name, kind, keys⟩ := DroppedColumns.exists_decl
  obtain ⟨stored, generated, single⟩ := DroppedColumns.exists_stored
  obtain ⟨entry, he, made⟩ := List.mem_map.1
    (single ▸ List.mem_singleton.2 rfl : DroppedColumns.artifact ∈ stored.map StoredArtifact.artifact)
  have live : DroppedColumns.before.table? decl.name = some ⟨"orders",
      [⟨"flag", "tinyint(1)", false, none⟩, ⟨"legacy", "TEXT", true, none⟩]⟩ := by
    rw [name]
    decide +kernel
  obtain ⟨back, reverted, -, perm, -, columns⟩ := drop_can_be_reverted parsed live (by decide)
    generated he (made ▸ rfl) (made ▸ DroppedColumns.applied) fun c hc _ found hf => by
      rw [keys c hc, DroppedColumns.foreign_eq_none hf]
  rw [made] at reverted columns
  obtain ⟨c, hc, named, found, flag, hf, hb, nullable, key, type⟩ :=
    columns "flag" (by decide)
  cases hf
  have same : TypeName.canonical "tinyint(1)" = "tinyint" := by decide +kernel
  refine ⟨back, reverted, perm, flag, hb, nullable, key, fun h => ?_⟩
  rw [same, kind c hc named] at type
  exact type.1 h (by decide)

/-- The flag does not come back as it was: the declared type agrees with the
live one and takes its place. -/
theorem dropped_flag_changes_type : ∃ decl stored, TableDecl.parse DroppedColumns.text = .ok decl ∧
    (((Archive.memory 1).generate ⟨false, .standard⟩ (.online DroppedColumns.before)
      LongerNotes.start DroppedColumns.text).run []).1.result = .ok (.generated stored) ∧
    stored.map StoredArtifact.artifact = [DroppedColumns.artifact] ∧
    (∀ c ∈ decl.columns, ColumnSpec.readForeign c = .ok none) ∧
    (∀ table ∈ DroppedColumns.before.tables, ∀ c ∈ table.columns, c.foreign = none) ∧
    DroppedColumns.before.applyArtifact DroppedColumns.artifact = (DroppedColumns.after, none) ∧
    ∃ reverted, DroppedColumns.after.revertArtifact DroppedColumns.artifact = (reverted, none) ∧
      (DroppedColumns.before.column? "orders" "flag").map (fun c => TypeName.canonical c.type) =
        some "tinyint" ∧
      (reverted.column? "orders" "flag").map (fun c => TypeName.canonical c.type) =
        some "boolean" := by
  obtain ⟨decl, parsed, -, -, keys⟩ := DroppedColumns.exists_decl
  obtain ⟨stored, generated, single⟩ := DroppedColumns.exists_stored
  refine ⟨decl, stored, parsed, generated, single, keys, by decide, DroppedColumns.applied,
    ⟨[⟨"orders", [⟨"flag", "boolean", false, none⟩, ⟨"legacy", "text", true, none⟩]⟩]⟩,
    by decide +kernel, by decide +kernel, by decide +kernel⟩

end SchemaPlan
