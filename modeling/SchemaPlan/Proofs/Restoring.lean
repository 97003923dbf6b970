import SchemaPlan.Proofs.Alteration

/-!
# Taking an alteration back

The inverse operations of an alteration are the operations of another one
(`AlterationSpecs.inverse`): it adds what was dropped, changes back what was
modified and drops what was added. So nothing new has to be said of how they
run; what is left to say is where they lead.

They do not lead to the same table. A column that was dropped comes back at
the end of the table and from its declaration, and a type comes back under
its canonical name. `LiveTable.Restores` is what is kept. It relates a table
of the way back to the one of the way there, and it says less of the columns
that were dropped somewhere in between: these are the parameter `dropped`.
`AlterationSpecs.restores` is the step: from a table that restores the
altered one, the inverse operations lead to one that restores the original.
-/

namespace SchemaPlan

/-! ## Columns and tables that are back -/

/-- **A column is back**, with its nullability and with a foreign key if it had
one. Unless it was dropped in between it has the same foreign key, and its
type is the same or the canonical name of that. -/
structure LiveColumn.Restores (dropped : Prop) (now before : LiveColumn) : Prop where
  /-- The name is the same. -/
  name : now.name = before.name
  /-- The nullability is the same. -/
  nullable : now.nullable = before.nullable
  /-- There is a foreign key where there was one. -/
  linked : now.foreign.isSome = before.foreign.isSome
  /-- The foreign key is the same. -/
  foreign : ¬ dropped → now.foreign = before.foreign
  /-- The type is the same or is spelled by its canonical name. -/
  type : ¬ dropped → now.type = before.type ∨ now.type = TypeName.canonical before.type
  /-- The canonical type is the same. -/
  canonical : ¬ dropped → TypeName.canonical now.type = TypeName.canonical before.type

/-- **A table is back**: it has the same columns, none of them twice, and in
the same order if none was dropped in between. -/
structure LiveTable.Restores (dropped : String → Prop) (now before : LiveTable) : Prop where
  /-- The name is the same. -/
  name : now.name = before.name
  /-- The columns of each name are back. -/
  columns : ∀ n, Option.Rel (LiveColumn.Restores (dropped n)) (now.column? n) (before.column? n)
  /-- No column is there twice. -/
  distinct : before.columnNames.Nodup → now.columnNames.Nodup
  /-- The order is the same. -/
  ordered : (∀ n, ¬ dropped n) → now.columnNames = before.columnNames

/-- What was never changed is back. A column that is unchanged, or not
declared, is restored in this way. -/
theorem LiveColumn.Restores.refl (dropped : Prop) (c : LiveColumn) : c.Restores dropped c :=
  ⟨rfl, rfl, rfl, fun _ => rfl, fun _ => .inl rfl, fun _ => rfl⟩

namespace LiveTable.Restores

variable {dropped : String → Prop} {now before : LiveTable} {n : String}

theorem refl (dropped : String → Prop) (table : LiveTable) : table.Restores dropped table := by
  refine ⟨rfl, fun n => ?_, id, fun _ => rfl⟩
  cases table.column? n with
  | none => exact .none
  | some c => exact .some (.refl (dropped n) c)

theorem column?_eq_none (h : now.Restores dropped before) (hn : before.column? n = none) :
    now.column? n = none := by
  have related := h.columns n
  rw [hn] at related
  cases hc : now.column? n with
  | none => rfl
  | some c =>
    rw [hc] at related
    cases related

/-- **A column that was there is there again**, and is back as far as it can
be. It may stand at another place. -/
theorem exists_column? (h : now.Restores dropped before) {c : LiveColumn}
    (hn : before.column? n = some c) :
    ∃ back, now.column? n = some back ∧ back.Restores (dropped n) c := by
  have related := h.columns n
  rw [hn] at related
  cases hc : now.column? n with
  | none =>
    rw [hc] at related
    cases related
  | some back =>
    rw [hc] at related
    cases related with
    | some r => exact ⟨back, rfl, r⟩

end LiveTable.Restores

open LiveTable

namespace AlterationSpecs

variable {specs : AlterationSpecs} {table now : LiveTable} {n : String}

/-! ## The names of an altered table -/

/-- The names after an alteration: the old ones, then the added ones, and of
all these not the dropped ones. -/
@[simp] theorem columnNames_altered (specs : AlterationSpecs) (table : LiveTable) :
    (specs.altered table).columnNames =
      (table.columnNames ++ specs.addedNames).filter fun n => n ∉ specs.droppedNames := by
  have names : (retypeAll specs.targets
      (table.columns ++ specs.added.map LiveColumn.ofSpec)).map (fun c => c.name) =
        table.columnNames ++ specs.addedNames := by
    rw [map_name_retypeAll, List.map_append, List.map_map]
    rfl
  rw [← names, List.filter_map]
  rfl

/-- An alteration that adds columns that were not there makes no name occur
twice. -/
theorem nodup_columnNames_altered (separate : specs.Separate)
    (fresh : ∀ spec ∈ specs.added, table.column? spec.name = none)
    (h : table.columnNames.Nodup) : (specs.altered table).columnNames.Nodup := by
  rw [columnNames_altered]
  refine List.Nodup.filter _ (List.nodup_append.2 ⟨h, separate.nodup_added, ?_⟩)
  rintro n hn _ ha rfl
  obtain ⟨spec, hs, rfl⟩ := List.mem_map.1 ha
  exact column?_eq_none_iff.1 (fresh spec hs) hn

/-! ## The inverse of an alteration -/

/-- The specifications that take an alteration back: what was dropped is added,
what was added is dropped, and what was modified is changed the other way
round. -/
def inverse (specs : AlterationSpecs) : AlterationSpecs where
  added := specs.dropped.map Prod.snd
  modified := specs.modified.map Prod.swap
  dropped := specs.added.map fun spec => (spec, spec)

/-- **The specifications know what is in the table**: a column that is modified
is changed back to its canonical type and its nullability, and one that is
dropped is put back with its nullability and with the foreign key that is
dropped with it. -/
structure Recalls (specs : AlterationSpecs) (table : LiveTable) : Prop where
  /-- What is known of a column that is modified. -/
  modified : ∀ declared previous, (declared, previous) ∈ specs.modified →
    previous.name = declared.name ∧ ∃ live, table.column? declared.name = some live ∧
      TypeName.storage previous.kind = TypeName.canonical live.type ∧
      previous.nullable = live.nullable
  /-- What is known of a column that is dropped. -/
  dropped : ∀ declared previous, (declared, previous) ∈ specs.dropped →
    previous.name = declared.name ∧ previous.foreign = declared.foreign ∧
      ∃ live, table.column? declared.name = some live ∧ previous.nullable = live.nullable

/-- The specifications of a comparison know what is in the table that was
compared. -/
theorem Describes.recalls {options : DiffOptions} {before : Catalog} {decl : TableDecl}
    (h : specs.Describes options before decl) (live : before.table? decl.name = some table) :
    specs.Recalls table := by
  constructor
  case modified =>
    intro declared previous hp
    obtain ⟨c, -, type, nullable, hv, made, restored⟩ := (h.mem_modified_iff declared previous).1 hp
    obtain ⟨found, hf, -, -, -, type', nullable'⟩ := TableDiff.actionFor_eq_modified_iff.1
      (TableDiff.actionFor_of_verdict hv (by simp)).2
    obtain ⟨name, stored, same, -⟩ := ColumnSpec.of_restore restored
    rw [Catalog.column?_of_table? live] at hf
    rw [(ColumnSpec.of_ofDecl made).1]
    exact ⟨name, found, hf, stored.trans type', same.trans nullable'⟩
  case dropped =>
    intro declared previous hp
    obtain ⟨c, -, type, nullable, hv, made, restored⟩ := (h.mem_dropped_iff declared previous).1 hp
    obtain ⟨found, hf, -, -, -, nullable'⟩ := TableDiff.actionFor_eq_dropped_iff.1
      (TableDiff.actionFor_of_verdict hv (by simp)).2
    obtain ⟨name, -, same, foreign⟩ := ColumnSpec.of_restoreDropped restored
    rw [Catalog.column?_of_table? live] at hf
    have named : declared.name = c.name := (ColumnSpec.of_ofDecl made).1
    rw [named] at name ⊢
    exact ⟨name, foreign, found, hf, same.trans nullable'⟩

theorem addedNames_inverse (h : specs.Recalls table) :
    specs.inverse.addedNames = specs.droppedNames := by
  rw [addedNames, inverse, List.map_map]
  exact List.map_congr_left fun pair hp => (h.dropped pair.1 pair.2 hp).1

theorem modifiedNames_inverse (h : specs.Recalls table) :
    specs.inverse.modifiedNames = specs.modifiedNames := by
  rw [modifiedNames, inverse, List.map_map]
  exact List.map_congr_left fun pair hp => (h.modified pair.1 pair.2 hp).1

/-- **Taking an alteration back drops what it added**, adds what it dropped and
changes what it changed. With this statement and the two before it, the inverse
of an alteration is an alteration again, and all that is known of one is known
of the other. -/
@[simp] theorem droppedNames_inverse (specs : AlterationSpecs) :
    specs.inverse.droppedNames = specs.addedNames := by
  rw [droppedNames, inverse, List.map_map]
  rfl

@[simp] theorem mem_targets_inverse {previous : ColumnSpec} : previous ∈ specs.inverse.targets ↔
    ∃ declared, (declared, previous) ∈ specs.modified := by
  simp [targets, inverse]

theorem Separate.inverse (separate : specs.Separate) (h : specs.Recalls table) :
    specs.inverse.Separate := by
  unfold Separate
  rw [addedNames_inverse h, modifiedNames_inverse h, droppedNames_inverse]
  refine List.nodup_append.2 ⟨List.nodup_append.2 ⟨separate.nodup_dropped,
    separate.nodup_modified, ?_⟩, separate.nodup_added, ?_⟩
  · rintro n hd _ hm rfl
    exact (separate.of_dropped hd).2 hm
  · rintro n hn _ ha rfl
    rcases List.mem_append.1 hn with hd | hm
    · exact (separate.of_dropped hd).1 ha
    · exact (separate.of_modified hm).1 ha

/-- The operations of the inverse are the inverse operations of the bodies,
those of the last body first. -/
theorem flatMap_inverse_bodyOf {kind : ArtifactKind} {forward inverse : List Operation}
    (h : forward = [] → inverse = []) :
    (TableDiff.bodyOf kind forward inverse).reverse.flatMap ArtifactBody.inverse = inverse := by
  unfold TableDiff.bodyOf
  cases forward with
  | nil => exact (h rfl).symm
  | cons operation rest => exact List.append_nil _

/-- The inverse artifacts, the last one first, are the operations of the
inverse alteration. So taking artifacts back is replaying an alteration, and
needs no theory of its own. -/
theorem operations_inverse (specs : AlterationSpecs) :
    specs.bodies.reverse.flatMap ArtifactBody.inverse = specs.inverse.operations := by
  -- a part without operations is left out of the bodies, and has no inverse
  rw [bodies, List.reverse_append, List.reverse_append, List.flatMap_append, List.flatMap_append,
    flatMap_inverse_bodyOf, flatMap_inverse_bodyOf, flatMap_inverse_bodyOf]
  · rw [operations, additions, changes, removals, inverse, List.map_map, List.map_map,
      List.flatMap_map, List.append_assoc]
    rfl
  · intro none
    rw [List.map_eq_nil_iff.1 none]
    rfl
  · intro none
    rw [List.map_eq_nil_iff.1 none]
    rfl
  · intro none
    cases hd : specs.dropped with
    | nil => rfl
    | cons pair rest =>
      rw [removals, hd, List.flatMap_cons, List.append_eq_nil_iff] at none
      simp [ColumnSpec.removal] at none

/-! ## The way back -/

variable {dropped : String → Prop}

/-- The inverse operations find every column as they expect it. -/
theorem editAll_inverse (separate : specs.Separate) (recalls : specs.Recalls table)
    (fresh : ∀ spec ∈ specs.added, table.column? spec.name = none)
    (h : now.Restores dropped (specs.altered table)) :
    now.editAll (specs.inverse.operations.flatMap Operation.edits) =
      (specs.inverse.altered now, none) := by
  refine (editAll_operations_eq_none_iff (separate.inverse recalls)).2
    ⟨fun spec hs => ?_, fun spec hs => ?_, fun pair hp => ?_, rfl⟩
  · -- what was dropped is not there
    obtain ⟨⟨declared, previous⟩, hp, rfl⟩ := List.mem_map.1 hs
    refine h.column?_eq_none (column?_altered_of_dropped ?_)
    rw [(recalls.dropped declared previous hp).1]
    exact List.mem_map_of_mem hp
  · -- what was modified is still there
    obtain ⟨declared, hp⟩ := mem_targets_inverse.1 hs
    obtain ⟨name, live, present, -⟩ := recalls.modified declared spec hp
    have target : declared ∈ specs.targets := List.mem_map.2 ⟨_, hp, rfl⟩
    obtain ⟨back, found, -⟩ := h.exists_column?
      (column?_altered_of_modified target separate present)
    rw [name, found]
    rfl
  · -- what was added is still there, with the foreign key it was added with
    obtain ⟨spec, hs, rfl⟩ := List.mem_map.1 hp
    obtain ⟨back, found, restored⟩ := h.exists_column?
      (column?_altered_of_added hs separate (fresh spec hs))
    exact ⟨back, found, restored.linked⟩

/-- A modified column is changed back to its canonical type. -/
theorem restores_of_modified (recalls : specs.Recalls table) {declared previous : ColumnSpec}
    (hp : (declared, previous) ∈ specs.modified) {live back : LiveColumn}
    (present : table.column? declared.name = some live) {D : Prop}
    (h : back.Restores D (live.retyped (TypeName.storage declared.kind) declared.nullable)) :
    (back.retyped (TypeName.storage previous.kind) previous.nullable).Restores D live := by
  obtain ⟨-, found, hf, stored, nullable⟩ := recalls.modified declared previous hp
  cases present.symm.trans hf
  constructor
  case name => simpa using h.name
  case nullable => simpa using nullable
  case linked => simpa using h.linked
  case foreign => simpa using h.foreign
  case type =>
    intro _
    rw [LiveColumn.type_retyped]
    exact .inr stored
  case canonical =>
    intro _
    rw [LiveColumn.type_retyped, ← stored]
    exact TypeName.canonical_storage previous.kind

/-- A column that is dropped is added again as it was, apart from its type. -/
theorem restores_of_dropped (recalls : specs.Recalls table) (separate : specs.inverse.Separate)
    {declared previous : ColumnSpec} (hp : (declared, previous) ∈ specs.dropped)
    {live : LiveColumn} (present : table.column? declared.name = some live)
    (linked : live.foreign.isSome = declared.foreign.isSome)
    (absent : now.column? previous.name = none) (gone : dropped declared.name) :
    Option.Rel (LiveColumn.Restores (dropped declared.name))
      ((specs.inverse.altered now).column? declared.name)
      (table.column? declared.name) := by
  obtain ⟨name, foreign, live', present', nullable⟩ := recalls.dropped declared previous hp
  cases present.symm.trans present'
  have put : previous ∈ specs.inverse.added := List.mem_map_of_mem hp
  have back := column?_altered_of_added put separate absent
  rw [name] at back
  rw [present, back]
  refine .some ⟨?_, nullable, ?_, fun kept => absurd gone kept, fun kept => absurd gone kept,
    fun kept => absurd gone kept⟩
  · exact name.trans (LiveTable.name_of_column?_eq_some present).symm
  · rw [linked, ← foreign]
    rfl

/-- Without drops the inverse operations lead back to the same names in the same
order: what was added at the end is taken off again. -/
theorem columnNames_inverse (recalls : specs.Recalls table)
    (fresh : ∀ spec ∈ specs.added, table.column? spec.name = none)
    (noDrops : specs.droppedNames = [])
    (ordered : now.columnNames = (specs.altered table).columnNames) :
    (specs.inverse.altered now).columnNames = table.columnNames := by
  have unadded : ∀ n ∈ table.columnNames, n ∉ specs.addedNames := by
    intro n hn ha
    obtain ⟨spec, hs, rfl⟩ := List.mem_map.1 ha
    exact column?_eq_none_iff.1 (fresh spec hs) hn
  rw [columnNames_altered, addedNames_inverse recalls, droppedNames_inverse, noDrops,
    List.append_nil, ordered, columnNames_altered, noDrops]
  simp only [List.not_mem_nil, not_false_eq_true, decide_true, List.filter_true,
    List.filter_append]
  rw [List.filter_eq_self.2 fun n hn => decide_eq_true (unadded n hn),
    List.filter_eq_nil_iff.2 fun n hn => by simpa using hn, List.append_nil]

/-- **The inverse operations lead back**: from a table that restores the
altered one to a table that restores the one that was altered. -/
theorem restores (separate : specs.Separate) (recalls : specs.Recalls table)
    (fresh : ∀ spec ∈ specs.added, table.column? spec.name = none)
    (linked : ∀ pair ∈ specs.dropped, ∃ c, table.column? pair.1.name = some c ∧
      c.foreign.isSome = pair.1.foreign.isSome)
    (drops : ∀ n ∈ specs.droppedNames, dropped n)
    (h : now.Restores dropped (specs.altered table)) :
    (specs.inverse.altered now).Restores dropped table := by
  have separate' := separate.inverse recalls
  have absent : ∀ pair ∈ specs.dropped, now.column? pair.2.name = none := by
    intro pair hp
    refine h.column?_eq_none (column?_altered_of_dropped ?_)
    rw [(recalls.dropped pair.1 pair.2 hp).1]
    exact List.mem_map_of_mem hp
  constructor
  case name => exact h.name
  case columns =>
    intro n
    by_cases added : n ∈ specs.addedNames
    · obtain ⟨spec, hs, rfl⟩ := List.mem_map.1 added
      rw [column?_altered_of_dropped (specs.droppedNames_inverse ▸ added), fresh spec hs]
      exact .none
    by_cases modified : n ∈ specs.modifiedNames
    · obtain ⟨⟨declared, previous⟩, hp, rfl⟩ := List.mem_map.1 modified
      obtain ⟨name, live, present, -⟩ := recalls.modified declared previous hp
      have target : declared ∈ specs.targets := List.mem_map.2 ⟨_, hp, rfl⟩
      obtain ⟨back, found, restored⟩ := h.exists_column?
        (column?_altered_of_modified target separate present)
      rw [← name] at found
      have changed := column?_altered_of_modified (mem_targets_inverse.2 ⟨declared, hp⟩) separate'
        found
      rw [name] at changed
      show Option.Rel _ ((specs.inverse.altered now).column? declared.name)
        (table.column? declared.name)
      rw [present, changed]
      exact .some (restores_of_modified recalls hp present restored)
    by_cases removed : n ∈ specs.droppedNames
    · obtain ⟨⟨declared, previous⟩, hp, rfl⟩ := List.mem_map.1 removed
      obtain ⟨live, present, key⟩ := linked (declared, previous) hp
      exact restores_of_dropped recalls separate' hp present key (absent (declared, previous) hp)
        (drops declared.name removed)
    · have untouched : (specs.altered table).column? n = table.column? n :=
        column?_altered_of_untouched ⟨added, modified, removed⟩
      rw [← addedNames_inverse recalls] at removed
      rw [← modifiedNames_inverse recalls] at modified
      rw [← droppedNames_inverse] at added
      rw [column?_altered_of_untouched ⟨removed, modified, added⟩, ← untouched]
      exact h.columns n
  case distinct =>
    intro nodup
    refine nodup_columnNames_altered separate' (fun spec hs => ?_)
      (h.distinct (nodup_columnNames_altered separate fresh nodup))
    obtain ⟨pair, hp, rfl⟩ := List.mem_map.1 hs
    exact absent pair hp
  case ordered =>
    intro undropped
    have noDrops : specs.droppedNames = [] :=
      List.eq_nil_iff_forall_not_mem.2 fun n hn => undropped n (drops n hn)
    exact columnNames_inverse recalls fresh noDrops (h.ordered undropped)

end AlterationSpecs

end SchemaPlan
