import SchemaPlan.Proofs.CreationReplay
import SchemaPlan.Proofs.Grammar

/-!
# The table that a declaration creates

A declaration of a table that is neither stored nor live is followed from its text to
the table that it makes, and back again (`table_is_created_as_declared`). Its
columns are those of the text, each where it is first declared and as it is last
declared, and apart from the primary key and the columns of the flags there is none
that the text does not declare.

What needs care is the primary key. Every table gets one by itself, and a declared `id`
that says no more than that is left out, so that it is not made twice; one that says more
takes its place. Which of the two it is, is a property of the declared column alone
(`ColumnDecl.CustomisesKey`), and a mark for removal counts before it: an `id` that is to be
removed neither stands in the table nor keeps the primary key out.
-/

namespace SchemaPlan

/-! ## The primary key -/

/-- **A column says more than the primary key that every table gets by itself**: it is
named `id`, and it is set as primary or has a written kind of its own. -/
def ColumnDecl.CustomisesKey (column : ColumnDecl) : Prop :=
  column.name = "id" ∧
    (column.isSet "primary" = true ∨ column.kindDeclared = true ∧ column.kind ≠ .id)

/-- A column is made as it is declared: it is to be kept, and is no `id` that says no more
than the primary key. -/
def ColumnDecl.IsExplicit (column : ColumnDecl) : Prop :=
  column.isMarkedForDrop = false ∧ (column.name = "id" → column.CustomisesKey)

/-- A column that is to be kept takes the place of the primary key: it is
called `id` and says more than the key that a table gets by itself. -/
def TableDecl.CustomisesKey (decl : TableDecl) : Prop :=
  ∃ c ∈ decl.columns, c.isMarkedForDrop = false ∧ c.CustomisesKey

instance (column : ColumnDecl) : Decidable column.CustomisesKey :=
  inferInstanceAs (Decidable (_ ∧ (_ ∨ _ ∧ _)))

instance (column : ColumnDecl) : Decidable column.IsExplicit :=
  inferInstanceAs (Decidable (_ ∧ (_ → _)))

instance (decl : TableDecl) : Decidable decl.CustomisesKey :=
  inferInstanceAs (Decidable (∃ c ∈ decl.columns, c.isMarkedForDrop = false ∧ c.CustomisesKey))

namespace TableDiff

variable {column : ColumnDecl} {decl : TableDecl}

theorem isImpliedKey_eq_false_iff :
    isImpliedKey column = false ↔ (column.name = "id" → column.CustomisesKey) := by
  have default : column.isDefaultKey = false ↔
      column.isSet "primary" = true ∨ column.kindDeclared = true ∧ column.kind ≠ .id := by
    unfold ColumnDecl.isDefaultKey
    cases column.isSet "primary" <;> cases column.kindDeclared <;> simp
  rw [isImpliedKey, Bool.and_eq_false_imp, beq_iff_eq, default]
  exact forall_congr' fun named => (and_iff_right named).symm

theorem explicitColumns_eq (decl : TableDecl) :
    explicitColumns decl = decl.columns.filter fun c => c.IsExplicit := by
  unfold explicitColumns
  rw [List.filter_filter]
  refine List.filter_congr fun c _ => ?_
  rw [Bool.eq_iff_iff, decide_eq_true_iff, Bool.and_eq_true, Bool.not_eq_true',
    isImpliedKey_eq_false_iff, isKept, Bool.not_eq_true', ColumnDecl.IsExplicit, and_comm]

/-- The table gets a primary key of its own making unless a column takes its place. -/
theorem hasImplicitKey_eq (decl : TableDecl) : hasImplicitKey decl = !decide decl.CustomisesKey := by
  unfold hasImplicitKey
  rw [explicitColumns_eq, Bool.not_inj_iff, Bool.eq_iff_iff, List.any_eq_true, decide_eq_true_iff]
  simp only [List.mem_filter, decide_eq_true_iff, beq_iff_eq]
  constructor
  · rintro ⟨c, ⟨hc, kept, key⟩, named⟩
    exact ⟨c, hc, kept, key named⟩
  · rintro ⟨c, hc, kept, key⟩
    exact ⟨c, ⟨hc, kept, fun _ => key⟩, key.1⟩

end TableDiff

/-! ## The columns that operations add -/

/-- The name of the column that an edit adds. -/
def Edit.added? : Edit → Option String
  | add column => some column.name
  | _ => none

/-- The names of the columns that an operation adds. -/
def Operation.addedNames (operation : Operation) : List String :=
  operation.edits.filterMap Edit.added?

namespace TableDiff

variable {decl : TableDecl} {specs : List ColumnSpec}

theorem filterMap_added?_add (columns : List LiveColumn) :
    (columns.map Edit.add).filterMap Edit.added? = columns.map fun c => c.name := by
  rw [List.filterMap_map, ← List.filterMap_eq_map]
  rfl

/-- The operations of a creation add the columns of its first and of its last stage. -/
theorem addedNames_creationOf (decl : TableDecl) (specs : List ColumnSpec) :
    (creationOf decl specs).forward.flatMap Operation.addedNames =
      (ownColumns decl specs).map (fun c => c.name) ++ decl.flags.columns := by
  have required : ((decl.indexes.flatMap CompositeIndex.columns).map Edit.require).filterMap
      Edit.added? = [] := by
    rw [List.filterMap_map, List.filterMap_eq_nil_iff]
    exact fun _ _ => rfl
  unfold Operation.addedNames
  rw [← List.filterMap_flatMap, edits_creationOf, List.filterMap_append, List.filterMap_append,
    filterMap_added?_add, filterMap_added?_add, required, names_flagColumns, List.nil_append]

/-- **The column `id` is added once**, by itself or as it is declared. -/
theorem count_id_creationOf (described : (explicitColumns decl).mapM ColumnSpec.ofDecl = .ok specs)
    (distinct : decl.columnNames.Nodup) :
    ((creationOf decl specs).forward.flatMap Operation.addedNames).count "id" = 1 := by
  rw [addedNames_creationOf, List.count_append,
    List.count_eq_one_of_mem (nodup_ownColumns described distinct)
      ((mem_ownColumns_iff described).2 (.inl rfl)),
    List.count_eq_zero.2 decl.flags.id_notMem_columns]

end TableDiff

/-! ## What is created -/

/-- **A live column is as it is declared**, in all that a live column records.
The foreign key is part of this, with its table, its column and its actions. -/
structure LiveColumn.IsOf (column : LiveColumn) (c : ColumnDecl) : Prop where
  /-- It has the name. -/
  name_eq : column.name = c.name
  /-- It is stored as the kind is. -/
  type_eq : column.type = TypeName.storage c.kind
  /-- It accepts NULL if it is to. -/
  nullable_eq : column.nullable = c.isNullable
  /-- It has the foreign key, if one is declared. -/
  foreign_eq : ColumnSpec.readForeign c = .ok column.foreign

/-- **An artifact creates the table of a declaration**: it makes the primary key, unless a
column takes its place, the columns that are explicit, the indexes, and the columns of
the flags, in this order. -/
structure Artifact.Creates (artifact : Artifact) (decl : TableDecl) : Prop where
  /-- It creates a table. -/
  kind_eq : artifact.kind = .create
  /-- The table is the one that is declared. -/
  table_eq : artifact.table = decl.name
  /-- It is taken back by removing the table. -/
  inverse_eq : artifact.inverse = [.dropTable]
  /-- The operations, in order. -/
  forward_eq : ∃ specs : List ColumnSpec,
    List.Forall₂ (fun c spec => ColumnSpec.ofDecl c = .ok spec)
      (decl.columns.filter fun c => c.IsExplicit) specs ∧
    artifact.forward =
      (if decl.CustomisesKey then [] else [.id]) ++ specs.map .addColumn ++
      decl.indexes.map .createIndex ++
      (if decl.flags.softDeletes then [.softDeletes] else []) ++
      (if decl.flags.timestamps then [.timestamps] else [])
  /-- They add one `id`. -/
  id_once : (artifact.forward.flatMap Operation.addedNames).count "id" = 1

/-- **A live table is as it is declared**: it has the primary key, unless a column takes
its place, the columns that are explicit, and those of the flags, in this order. -/
structure LiveTable.IsOf (table : LiveTable) (decl : TableDecl) : Prop where
  /-- It has the name. -/
  name_eq : table.name = decl.name
  /-- The columns, in order. -/
  columns_eq : ∃ made : List LiveColumn,
    List.Forall₂ (fun c column => column.IsOf c) (decl.columns.filter fun c => c.IsExplicit) made ∧
    table.columns =
      (if decl.CustomisesKey then [] else [.key]) ++ made ++
      (if decl.flags.softDeletes then [.time "deleted_at"] else []) ++
      (if decl.flags.timestamps then [.time "created_at", .time "updated_at"] else [])

/-- The names of its columns, in order. -/
theorem LiveTable.IsOf.columnNames_eq {table : LiveTable} {decl : TableDecl} (h : table.IsOf decl) :
    table.columnNames =
      (if decl.CustomisesKey then [] else ["id"]) ++
        (decl.columns.filter fun c => c.IsExplicit).map (fun c => c.name) ++
        decl.flags.columns := by
  obtain ⟨made, shaped, columns⟩ := h.columns_eq
  have names : made.map (fun c => c.name) =
      (decl.columns.filter fun c => c.IsExplicit).map fun c => c.name := by
    clear columns
    generalize decl.columns.filter (fun c => c.IsExplicit) = explicit at shaped
    induction shaped with
    | nil => rfl
    | cons first _ ih => rw [List.map_cons, List.map_cons, first.name_eq, ih]
  have key : (if decl.CustomisesKey then [] else [LiveColumn.key]).map (fun c => c.name) =
      if decl.CustomisesKey then [] else ["id"] := by
    split <;> rfl
  rw [columnNames, columns, List.map_append, List.map_append, List.map_append, key, names,
    List.append_assoc _ _ (List.map _ _), TableFlags.columns]
  cases decl.flags.softDeletes <;> cases decl.flags.timestamps <;> rfl

namespace TableDiff

variable {decl : TableDecl} {specs : List ColumnSpec}

theorem creates_creationArtifact (described : (explicitColumns decl).mapM ColumnSpec.ofDecl = .ok specs)
    (distinct : decl.columnNames.Nodup) (now : Instant) :
    (creationArtifact decl specs now).Creates decl where
  kind_eq := rfl
  table_eq := rfl
  inverse_eq := rfl
  forward_eq := by
    refine ⟨specs, explicitColumns_eq decl ▸ mapM_eq_ok_iff.1 described, ?_⟩
    show (if hasImplicitKey decl then [Operation.id] else []) ++ _ ++ _ ++ _ ++ _ = _
    rw [hasImplicitKey_eq]
    by_cases key : decl.CustomisesKey <;> simp [key]
  id_once := count_id_creationOf described distinct

/-- A specification of a declared column makes the column as it is declared. -/
theorem isOf_ofSpec {c : ColumnDecl} {spec : ColumnSpec} (made : ColumnSpec.ofDecl c = .ok spec) :
    (LiveColumn.ofSpec spec).IsOf c where
  name_eq := (ColumnSpec.of_ofDecl made).1
  type_eq := by simp [(ColumnSpec.of_ofDecl made).2.1]
  nullable_eq := (ColumnSpec.of_ofDecl made).2.2.1
  foreign_eq := ColumnSpec.readForeign_of_ofDecl made

theorem isOf_createdColumns (described : (explicitColumns decl).mapM ColumnSpec.ofDecl = .ok specs) :
    (LiveTable.mk decl.name (createdColumns decl specs)).IsOf decl where
  name_eq := rfl
  columns_eq := by
    refine ⟨specs.map .ofSpec, ?_, ?_⟩
    · rw [List.forall₂_map_right_iff, ← explicitColumns_eq]
      exact (mapM_eq_ok_iff.1 described).imp fun _ _ made => isOf_ofSpec made
    · show (if hasImplicitKey decl then [LiveColumn.key] else []) ++ _ ++ _ ++ _ = _
      rw [hasImplicitKey_eq]
      by_cases key : decl.CustomisesKey <;> simp [key]

end TableDiff

/-- **A table is created as it is declared.** A declaration that is read, and whose
options are valid in the columns that it makes, calls for one artifact if its table is
neither stored nor live, whatever the archive is and whatever the options of the
comparison. It creates the table of the declaration, with one `id`. If the indexes need no
column of a flag and no column is made twice, it can be replayed on every schema without
the table; that puts the table of the declaration at the end and changes nothing else, and
taking the artifact back leads to the schema that there was before. -/
theorem table_is_created_as_declared {text : String} {decl : TableDecl}
    (parsed : TableDecl.parse text = .ok decl)
    (valid : ∀ c ∈ decl.columns, c.IsExplicit → ∃ spec, ColumnSpec.ofDecl c = .ok spec)
    (now : Instant) :
    (∃ first name body, TableDecl.HasBody text first name body ∧
        TableDecl.Declares text name body decl) ∧
      ∃ (artifact : Artifact) (table : LiveTable), artifact.Creates decl ∧ table.IsOf decl ∧
        (∀ (options : DiffOptions) (inspector : Inspector), ∃ diff,
          TableDiff.compare options inspector decl false = .ok diff ∧
            diff.artifacts decl now = .ok [artifact]) ∧
        (∀ {σ : Type} (archive : Archive (StateM σ)) (s : σ) (options : RunOptions)
          (inspector : Inspector) (names : List String), (archive.names.run s).1 = .ok names →
          Archive.creates names decl.name = false → inspector.isLive decl.name = .ok false →
          ((archive.generate options inspector now text).run s).1.artifacts = [artifact]) ∧
        (decl.IndexesDeclared → decl.FlagsApart →
          ∀ catalog : Catalog, catalog.table? decl.name = none →
            catalog.applyArtifact artifact = (⟨catalog.tables ++ [table]⟩, none) ∧
              Catalog.revertArtifact ⟨catalog.tables ++ [table]⟩ artifact = (catalog, none)) := by
  have valid' : ∀ c ∈ TableDiff.explicitColumns decl, ∃ spec, ColumnSpec.ofDecl c = .ok spec := by
    intro c hc
    rw [TableDiff.explicitColumns_eq, List.mem_filter, decide_eq_true_iff] at hc
    exact valid c hc.1 hc.2
  obtain ⟨specs, described⟩ := exists_mapM_eq_ok valid'
  have distinct := TableDecl.nodup_columnNames_of_parse parsed
  have made := TableDiff.artifacts_creation described now
  refine ⟨TableDecl.exists_declares_of_parse parsed, TableDiff.creationArtifact decl specs now,
    ⟨decl.name, TableDiff.createdColumns decl specs⟩,
    TableDiff.creates_creationArtifact described distinct now,
    TableDiff.isOf_createdColumns described, fun _ _ => ⟨_, rfl, made⟩, ?_, ?_⟩
  · intro σ archive s options inspector names listed unstored unlive
    exact Archive.artifacts_generate_creation parsed listed unstored unlive made
  · intro declared apart catalog absent
    have edited : (LiveTable.mk decl.name []).editAll
        ((TableDiff.creationOf decl specs).forward.flatMap Operation.edits) =
          (⟨decl.name, TableDiff.createdColumns decl specs⟩, none) := by
      rw [TableDiff.editAll_creationOf_eq_none_iff described distinct, TableDiff.createdColumns_eq]
      exact ⟨⟨declared, apart⟩, rfl⟩
    rw [← Catalog.put_of_absent absent]
    refine ⟨(Catalog.applyArtifact_create_eq_none_iff rfl
      (TableDiff.dropTable_notMem_creation decl specs)).2 ⟨absent, _, edited, rfl⟩, ?_⟩
    rw [Catalog.revertArtifact_of_dropTable rfl (Catalog.table?_put_self catalog _)]
    exact congrArg (·, none) (Catalog.erase_put_of_absent absent)

namespace KeyedOrders

/-- Orders with a key of their own and a name that is declared twice. -/
def text : String :=
  "orders:name:string,author_id:foreignId,id:uuid,legacy:text:drop,name:text,index:name|id,timestamps"

/-- The orders that the text declares. -/
def decl : TableDecl where
  name := "orders"
  columns := [.new "name" .text, .new "author_id" .foreignId, .new "id" .uuid,
    (ColumnDecl.new "legacy" .text).withFlag "drop"]
  flags := ⟨false, true⟩
  indexes := [⟨.plain, ["name", "id"], none⟩]

theorem parsed : TableDecl.parse text = .ok decl := eq_ok_of_any_beq (by decide +kernel)

theorem valid : ∀ c ∈ decl.columns, ∃ spec, ColumnSpec.ofDecl c = .ok spec := by
  intro c hc
  have all : (decl.columns.all fun c => (ColumnSpec.ofDecl c).toOption.any fun _ => true) = true := by
    decide
  obtain ⟨spec, made, -⟩ := exists_eq_ok_of_any (List.all_eq_true.1 all c hc)
  exact ⟨spec, made⟩

end KeyedOrders

/-- Orders are created with their own key and no other, and removed again. -/
theorem table_is_created_as_declared_orders : ∃ (artifact : Artifact) (table : LiveTable),
    (((Archive.memory 1).generate ⟨false, .standard⟩ (.online .empty) LongerNotes.start
      KeyedOrders.text).run []).1.artifacts = [artifact] ∧
    Catalog.empty.applyArtifact artifact = (⟨[table]⟩, none) ∧
    Catalog.revertArtifact ⟨[table]⟩ artifact = (.empty, none) ∧
    table.columnNames = ["name", "author_id", "id", "created_at", "updated_at"] := by
  obtain ⟨-, artifact, table, -, shaped, -, made, replay⟩ := table_is_created_as_declared
    KeyedOrders.parsed (fun c hc _ => KeyedOrders.valid c hc) LongerNotes.start
  obtain ⟨applied, reverted⟩ := replay (by decide) (by decide) .empty rfl
  refine ⟨artifact, table, made _ _ _ _ [] rfl rfl rfl, applied, reverted, ?_⟩
  rw [shaped.columnNames_eq]
  decide

end SchemaPlan
