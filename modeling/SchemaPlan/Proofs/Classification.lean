import Mathlib.Data.List.Nodup
import SchemaPlan.Proofs.Comparison
import SchemaPlan.Proofs.TypeAgreement

/-!
# What a comparison does with each column

A comparison goes through the declared columns once. A column that is marked for
removal and is not there leaves a warning, and every other column leaves one change;
so changes and warnings together are the declaration, each in declared order and
none of it lost or told twice (`TableDiff.Classifies.once`).

Which change a column leaves is said here without the comparison: by whether the
framework looks after the column, by its mark for removal, and by what the live
column of its name looks like. Of types this needs `TypeName.SameType`, an equality
of canonical names with five exceptions, and not the reading of one type as seen from
the other. Nothing else counts, neither the other columns nor their order nor the name
of the table (`classification_is_a_partition`).
-/

namespace SchemaPlan

/-! ## Types that are the same -/

namespace TypeName

variable {kind : ColumnKind} {live x : String}

/-- The kinds that are stored under another name than their own, with that name. -/
def storedUnder : List (ColumnKind × String) :=
  [(.foreignId, "bigint"), (.foreignUuid, "uuid"), (.boolean, "tinyint")]

/-- **A declared kind and a live type are the same**: their canonical names are equal
or the two for times, or the live name is one that the kind is stored under. -/
def SameType (kind : ColumnKind) (live : String) : Prop :=
  canonical live = canonical kind.name ∨
    Counterparts (canonical live) (canonical kind.name) ∨ (kind, canonical live) ∈ storedUnder

instance (kind : ColumnKind) (live : String) : Decidable (SameType kind live) :=
  inferInstanceAs (Decidable (_ ∨ _ ∨ _))

/-- The tables of pairs that are stored alike, row by row, name no other kinds. -/
theorem rows_of_kind (kind : ColumnKind) :
    ((referenceStorage ++ looseEquivalents).filter fun row =>
        row.1 == Text.lower kind.name).map (fun row => row.2) =
      (storedUnder.filter fun pair => pair.1 = kind).map fun pair => pair.2 := by
  cases kind <;> decide +kernel

theorem isCompatible_iff : isCompatible kind.name x = true ↔ (kind, x) ∈ storedUnder := by
  have left : isCompatible kind.name x = true ↔
      x ∈ ((referenceStorage ++ looseEquivalents).filter fun row =>
        row.1 == Text.lower kind.name).map fun row => row.2 := by
    simp only [isCompatible, List.any_eq_true, Bool.and_eq_true, beq_iff_eq, List.mem_map,
      List.mem_filter, and_assoc]
  have right : (kind, x) ∈ storedUnder ↔
      x ∈ (storedUnder.filter fun pair => pair.1 = kind).map fun pair => pair.2 := by
    simp only [List.mem_map, List.mem_filter, decide_eq_true_iff, Prod.exists, and_assoc,
      exists_eq_right_right]
    constructor
    · exact fun h => ⟨kind, h, rfl⟩
    · rintro ⟨_, h, rfl⟩
      exact h
  rw [left, right, rows_of_kind]

/-- **The comparison finds what is the same to agree, and nothing else.** -/
theorem agrees_iff_sameType : agrees kind live = true ↔ SameType kind live := by
  rw [agrees_iff, isCompatible_iff, SameType]

end TypeName

/-! ## The verdict in terms of the live column -/

/-- What a comparison sees of a live column: the type and the nullability.
Whether it has a foreign key makes no difference. -/
def LiveColumn.seen (column : LiveColumn) : String × Bool :=
  (column.type, column.nullable)

namespace TableDiff

variable {options options' : DiffOptions} {catalog catalog' : Catalog} {table : String}
  {column other : ColumnDecl}

/-- The foreign key of a live column, and its name, do not count. -/
theorem actionFor_congr {a b : Option LiveColumn} (h : a.map LiveColumn.seen = b.map LiveColumn.seen) :
    actionFor column a = actionFor column b := by
  rcases a with _ | a <;> rcases b with _ | b
  · rfl
  · cases h
  · cases h
  · obtain ⟨type, nullable⟩ := Prod.mk.injEq .. ▸ Option.some.inj h
    simp only [actionFor, type, nullable]

theorem verdict_eq_some_iff {action : ColumnAction} (changes : action ≠ .unchanged) :
    verdict options catalog table column = some action ↔
      column.name ∉ options.systemColumns ∧
        actionFor column (catalog.column? table column.name) = some action := by
  refine ⟨fun h => actionFor_of_verdict h changes, fun ⟨own, h⟩ => ?_⟩
  rw [verdict_of_not_system own, h]

theorem verdict_eq_unchanged_iff :
    verdict options catalog table column = some .unchanged ↔
      column.name ∈ options.systemColumns ∨
        ∃ live, catalog.column? table column.name = some live ∧ column.isMarkedForDrop = false ∧
          TypeName.SameType column.kind live.type ∧ column.isNullable = live.nullable := by
  simp only [← TypeName.agrees_iff_sameType]
  by_cases system : column.name ∈ options.systemColumns
  · exact iff_of_true (verdict_of_system system) (.inl system)
  · rw [verdict_of_not_system system, or_iff_right system]
    exact actionFor_eq_unchanged_iff

/-- **A mark for removal has no effect** on a column that is not there. Columns
that the framework looks after are not even looked for. -/
def IsVoid (systemColumns : List String) (catalog : Catalog) (table : String)
    (column : ColumnDecl) : Prop :=
  column.name ∉ systemColumns ∧ column.isMarkedForDrop = true ∧
    catalog.column? table column.name = none

instance (systemColumns : List String) (catalog : Catalog) (table : String) (column : ColumnDecl) :
    Decidable (IsVoid systemColumns catalog table column) :=
  inferInstanceAs (Decidable (_ ∧ _ ∧ _))

theorem verdict_eq_none_iff :
    verdict options catalog table column = none ↔
      IsVoid options.systemColumns catalog table column := by
  by_cases system : column.name ∈ options.systemColumns
  · rw [verdict_of_system system]
    exact iff_of_false nofun fun void => void.1 system
  · rw [verdict_of_not_system system, actionFor_eq_none_iff, IsVoid, and_iff_right system, and_comm]

/-- The verdict on a column hangs on the column, on whether the framework looks after
it, and on what is seen of the live column. -/
theorem verdict_congr {table' : String}
    (system : column.name ∈ options.systemColumns ↔ column.name ∈ options'.systemColumns)
    (seen : (catalog.column? table column.name).map LiveColumn.seen =
      (catalog'.column? table' column.name).map LiveColumn.seen) :
    verdict options catalog table column = verdict options' catalog' table' column := by
  by_cases own : column.name ∈ options.systemColumns
  · rw [verdict_of_system own, verdict_of_system (system.1 own)]
  · rw [verdict_of_not_system own, verdict_of_not_system fun h => own (system.2 h)]
    exact actionFor_congr seen

end TableDiff

/-! ## Changes and warnings -/

/-- Where keys are distinct, a selection has the key of each selected member once, and
that of no other. -/
theorem count_map_filter {α β : Type} [DecidableEq β] {l : List α} {key : α → β}
    (distinct : (l.map key).Nodup) (p : α → Bool) {a : α} (ha : a ∈ l) :
    ((l.filter p).map key).count (key a) = if p a then 1 else 0 := by
  cases selected : p a with
  | true =>
    exact List.count_eq_one_of_mem (distinct.sublist (List.filter_sublist.map key))
      (List.mem_map_of_mem (List.mem_filter.2 ⟨ha, selected⟩))
  | false =>
    refine List.count_eq_zero.2 fun h => ?_
    obtain ⟨b, hb, same⟩ := List.mem_map.1 h
    obtain ⟨hb, passed⟩ := List.mem_filter.1 hb
    rw [List.inj_on_of_nodup_map distinct hb ha same, selected] at passed
    cases passed

namespace TableDiff

variable {options : DiffOptions} {catalog : Catalog} {decl : TableDecl} {diff : TableDiff}

/-- The changes are those of the columns that call for something. -/
theorem names_changes (h : alteration options (.online catalog) decl = .ok diff) :
    diff.changes.map (fun change => change.name) =
      (decl.columns.filter fun c => ¬ IsVoid options.systemColumns catalog decl.name c).map
        fun c => c.name := by
  rw [(changes_of_alteration h).2.2]
  induction decl.columns with
  | nil => rfl
  | cons c rest ih =>
    rw [List.filterMap_cons]
    cases hv : verdict options catalog decl.name c with
    | none =>
      have void := verdict_eq_none_iff.1 hv
      rw [List.filter_cons_of_neg (by simpa using void)]
      exact ih
    | some action =>
      have effective : ¬ IsVoid options.systemColumns catalog decl.name c := by
        rw [← verdict_eq_none_iff, hv]
        exact nofun
      rw [List.filter_cons_of_pos (by simpa using effective)]
      exact congrArg (c.name :: ·) ih

/-- The warnings are on the columns that call for nothing. -/
theorem warnings_eq (h : alteration options (.online catalog) decl = .ok diff) :
    diff.warnings =
      (decl.columns.filter fun c => IsVoid options.systemColumns catalog decl.name c).map
        fun c => ⟨c.name, .columnNotLive decl.name⟩ := by
  obtain ⟨compared, columns, h⟩ := bind_eq_ok_iff.1 h
  cases h
  rw [compareColumns_online columns]
  show List.filterMap _ (decl.columns.map _) = _
  rw [List.filterMap_map]
  induction decl.columns with
  | nil => rfl
  | cons c rest ih =>
    cases hv : verdict options catalog decl.name c with
    | none =>
      have void := verdict_eq_none_iff.1 hv
      rw [List.filter_cons_of_pos (by simpa using void), List.filterMap_cons_some
        (by simp [hv] : _ = some (⟨c.name, .columnNotLive decl.name⟩ : DiffWarning)), ih]
      rfl
    | some action =>
      have effective : ¬ IsVoid options.systemColumns catalog decl.name c := by
        rw [← verdict_eq_none_iff, hv]
        exact nofun
      rw [List.filter_cons_of_neg (by simpa using effective),
        List.filterMap_cons_none (by simp [hv]), ih]

/-- A column has the change that its verdict calls for. -/
theorem mem_changes_iff (h : alteration options (.online catalog) decl = .ok diff)
    (distinct : decl.columnNames.Nodup) {c : ColumnDecl} (hc : c ∈ decl.columns)
    {action : ColumnAction} :
    (⟨c.name, action⟩ : ColumnChange) ∈ diff.changes ↔
      verdict options catalog decl.name c = some action := by
  rw [(changes_of_alteration h).2.2, List.mem_filterMap]
  constructor
  · rintro ⟨d, hd, called⟩
    obtain ⟨found, hv, same⟩ := Option.map_eq_some_iff.1 called
    obtain ⟨name, rfl⟩ := ColumnChange.mk.injEq .. ▸ same
    rw [← List.inj_on_of_nodup_map distinct hd hc name]
    exact hv
  · intro hv
    exact ⟨c, hc, by rw [hv]; rfl⟩

/-! ## The classification -/

/-- **A comparison classifies the columns of a declaration**, leaving those alone that
the framework looks after. -/
structure Classifies (systemColumns : List String) (catalog : Catalog) (decl : TableDecl)
    (diff : TableDiff) : Prop where
  /-- The comparison is about the table and creates none. -/
  table_eq : diff.table = decl.name ∧ diff.tableAction = .alter
  /-- The changes are of the columns that are not void, in declared order. -/
  names_changes : diff.changes.map (fun change => change.name) =
    (decl.columns.filter fun c => ¬ IsVoid systemColumns catalog decl.name c).map fun c => c.name
  /-- The warnings are on the columns that are, in declared order. -/
  warnings_eq : diff.warnings =
    (decl.columns.filter fun c => IsVoid systemColumns catalog decl.name c).map fun c =>
      ⟨c.name, .columnNotLive decl.name⟩
  /-- Every column is changed once, or warned of once if it is void, and never both. -/
  once : ∀ c ∈ decl.columns,
    (diff.changes.map fun change => change.name).count c.name =
        (if IsVoid systemColumns catalog decl.name c then 0 else 1) ∧
      (diff.warnings.map fun warning => warning.column).count c.name =
        if IsVoid systemColumns catalog decl.name c then 1 else 0
  /-- A column is unchanged when it is not ours or is as declared. -/
  unchanged_iff : ∀ c ∈ decl.columns, ⟨c.name, .unchanged⟩ ∈ diff.changes ↔
    c.name ∈ systemColumns ∨ ∃ live, catalog.column? decl.name c.name = some live ∧
      c.isMarkedForDrop = false ∧ TypeName.SameType c.kind live.type ∧
      c.isNullable = live.nullable
  /-- It is new when it is to be kept and not there. -/
  new_iff : ∀ c ∈ decl.columns, ∀ d, ⟨c.name, .new d⟩ ∈ diff.changes ↔
    c.name ∉ systemColumns ∧ catalog.column? decl.name c.name = none ∧
      c.isMarkedForDrop = false ∧ d = c
  /-- It is dropped when it is marked for removal and there. -/
  dropped_iff : ∀ c ∈ decl.columns, ∀ d type nullable,
    ⟨c.name, .dropped d type nullable⟩ ∈ diff.changes ↔
      c.name ∉ systemColumns ∧ ∃ live, catalog.column? decl.name c.name = some live ∧
        c.isMarkedForDrop = true ∧ d = c.withoutDrop ∧
        type = (if TypeName.SameType c.kind live.type then none
          else some (TypeName.canonical live.type)) ∧ nullable = live.nullable
  /-- It is modified when it is to be kept and there, and differs. -/
  modified_iff : ∀ c ∈ decl.columns, ∀ d type nullable,
    ⟨c.name, .modified d type nullable⟩ ∈ diff.changes ↔
      c.name ∉ systemColumns ∧ ∃ live, catalog.column? decl.name c.name = some live ∧
        c.isMarkedForDrop = false ∧
        ¬ (TypeName.SameType c.kind live.type ∧ c.isNullable = live.nullable) ∧
        d = c ∧ type = TypeName.canonical live.type ∧ nullable = live.nullable

theorem classifies_of_alteration (h : alteration options (.online catalog) decl = .ok diff)
    (distinct : decl.columnNames.Nodup) :
    Classifies options.systemColumns catalog decl diff where
  table_eq := ⟨(changes_of_alteration h).1, (changes_of_alteration h).2.1⟩
  names_changes := names_changes h
  warnings_eq := warnings_eq h
  once := by
    intro c hc
    have warned : diff.warnings.map (fun warning => warning.column) =
        (decl.columns.filter fun c => IsVoid options.systemColumns catalog decl.name c).map
          fun c => c.name := by
      rw [warnings_eq h, List.map_map]
      rfl
    rw [names_changes h, warned, count_map_filter distinct _ hc, count_map_filter distinct _ hc]
    by_cases void : IsVoid options.systemColumns catalog decl.name c <;> simp [void]
  unchanged_iff c hc := by rw [mem_changes_iff h distinct hc, verdict_eq_unchanged_iff]
  new_iff c hc d := by
    rw [mem_changes_iff h distinct hc, verdict_eq_some_iff, actionFor_eq_new_iff]
    exact nofun
  dropped_iff c hc d type nullable := by
    rw [mem_changes_iff h distinct hc, verdict_eq_some_iff, actionFor_eq_dropped_iff]
    · simp only [TypeName.agrees_iff_sameType]
    · exact nofun
  modified_iff c hc d type nullable := by
    rw [mem_changes_iff h distinct hc, verdict_eq_some_iff, actionFor_eq_modified_iff]
    · simp only [TypeName.agrees_iff_sameType]
    · exact nofun

/-- **The columns of a table that exists are classified.** Unless drops are strict,
a declaration whose columns have different names can be compared with any schema,
and every column is in just one of the five classes. Which one does not depend on
the other columns: any other comparison that succeeds agrees on a column that it has
in common, if the framework looks after the column in both or in neither and the
live columns of its name, if any, look the same. -/
theorem classification_is_a_partition {decl : TableDecl} (distinct : decl.columnNames.Nodup)
    (systemColumns : List String) (catalog : Catalog) :
    ∃ diff, compare ⟨systemColumns, false⟩ (.online catalog) decl true = .ok diff ∧
      Classifies systemColumns catalog decl diff ∧
      ∀ (options : DiffOptions) (catalog' : Catalog) (decl' : TableDecl) (diff' : TableDiff),
        decl'.columnNames.Nodup →
        compare options (.online catalog') decl' true = .ok diff' →
        ∀ c ∈ decl.columns, c ∈ decl'.columns →
          (c.name ∈ systemColumns ↔ c.name ∈ options.systemColumns) →
          (catalog.column? decl.name c.name).map LiveColumn.seen =
            (catalog'.column? decl'.name c.name).map LiveColumn.seen →
          ∀ action, (⟨c.name, action⟩ : ColumnChange) ∈ diff.changes ↔
            ⟨c.name, action⟩ ∈ diff'.changes := by
  obtain ⟨diff, compared⟩ :=
    @exists_alteration_of_lenient ⟨systemColumns, false⟩ catalog rfl decl
  refine ⟨diff, compared, classifies_of_alteration compared distinct, ?_⟩
  intro options catalog' decl' diff' distinct' compared' c hc hc' system seen action
  have same : verdict ⟨systemColumns, false⟩ catalog decl.name c =
      verdict options catalog' decl'.name c := verdict_congr system seen
  rw [mem_changes_iff compared distinct hc, mem_changes_iff compared' distinct' hc', same]

end TableDiff

namespace ClassifiedOrders

/-- Orders as they are live. -/
def live : Catalog where
  tables := [⟨"orders",
    [⟨"id", "INTEGER", false, none⟩, ⟨"name", "VARCHAR(80)", true, none⟩,
      ⟨"author_id", "bigint unsigned", false, none⟩, ⟨"flag", "text", true, none⟩]⟩]

/-- Orders as they are declared, with a column for each of the classes and with a
mark for removal that is void. -/
def decl : TableDecl where
  name := "orders"
  columns :=
    [.new "id" .id, .new "name" .string, .new "author_id" .foreignId, .new "total" .integer,
      (ColumnDecl.new "flag" .boolean).withFlag "drop",
      (ColumnDecl.new "legacy" .text).withFlag "drop"]
  flags := ⟨false, false⟩
  indexes := []

end ClassifiedOrders

/-- The columns of the orders are in a class each, but for the one that is not
there. -/
theorem TableDiff.classification_is_a_partition_orders : ∃ diff,
    compare .standard (.online ClassifiedOrders.live) ClassifiedOrders.decl true = .ok diff ∧
    ⟨"id", .unchanged⟩ ∈ diff.changes ∧
    ⟨"name", .modified (.new "name" .string) "string" true⟩ ∈ diff.changes ∧
    ⟨"author_id", .unchanged⟩ ∈ diff.changes ∧
    ⟨"total", .new (.new "total" .integer)⟩ ∈ diff.changes ∧
    ⟨"flag", .dropped (.new "flag" .boolean) (some "text") true⟩ ∈ diff.changes ∧
    diff.warnings = [⟨"legacy", .columnNotLive "orders"⟩] := by
  obtain ⟨diff, compared, classes, -⟩ := classification_is_a_partition
    (by decide : ClassifiedOrders.decl.columnNames.Nodup) DiffOptions.standard.systemColumns
    ClassifiedOrders.live
  refine ⟨diff, compared, ?_, ?_, ?_, ?_, ?_, ?_⟩
  · exact (classes.unchanged_iff (.new "id" .id) (by decide)).2 (.inl (by decide))
  · exact (classes.modified_iff (.new "name" .string) (by decide) _ _ _).2
      ⟨by decide, ⟨"name", "VARCHAR(80)", true, none⟩, by decide +kernel, by decide, by decide +kernel,
        rfl, by decide +kernel, rfl⟩
  · exact (classes.unchanged_iff (.new "author_id" .foreignId) (by decide)).2
      (.inr ⟨⟨"author_id", "bigint unsigned", false, none⟩, by decide +kernel, by decide,
        by decide +kernel, by decide⟩)
  · exact (classes.new_iff (.new "total" .integer) (by decide) _).2
      ⟨by decide, by decide +kernel, by decide, rfl⟩
  · exact (classes.dropped_iff ((ColumnDecl.new "flag" .boolean).withFlag "drop") (by decide)
      _ _ _).2 ⟨by decide, ⟨"flag", "text", true, none⟩, by decide +kernel, by decide, by decide,
        by decide +kernel, rfl⟩
  · rw [classes.warnings_eq]
    decide +kernel

end SchemaPlan
