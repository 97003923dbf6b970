import Mathlib.Data.List.Nodup
import SchemaPlan.Artifact
import SchemaPlan.Proofs.Comparison

/-!
# The columns of a comparison, sorted

What is done about a column depends on what it calls for, so the changes of a comparison
come in sorts, one for each kind of artifact that is made for a table that exists. The names
in such a *bucket* are in declared order (`TableDiff.bucket_sublist`), and no name is in two
of them if the declared names are different (`TableDiff.nodup_buckets`).

This does not depend on where the live schema is looked up, nor on what is found there. All
that is needed of a comparison is that its changes are in declared order and bear the names
of their columns (`TableDiff.changes_sublist`).
-/

namespace SchemaPlan

namespace ColumnAction

/-- The kind of the artifact that does what the action calls for. -/
def kind? : ColumnAction → Option ArtifactKind
  | unchanged => none
  | new _ => some .addColumns
  | modified _ _ _ => some .modifyColumns
  | dropped _ _ _ => some .dropColumns

/-- The column that the action is about. -/
def column? : ColumnAction → Option ColumnDecl
  | unchanged => none
  | new column => some column
  | modified column _ _ => some column
  | dropped column _ _ => some column

end ColumnAction

namespace TableDiff

variable {options : DiffOptions} {inspector : Inspector} {decl : TableDecl} {diff : TableDiff}

/-! ## The columns of a kind of artifact -/

/-- The columns that the artifact of a kind is about. -/
def columnsOf (diff : TableDiff) : ArtifactKind → List ColumnDecl
  | .create => []
  | .addColumns => diff.newColumns
  | .modifyColumns => diff.modifiedColumns.map Prod.fst
  | .dropColumns => diff.droppedColumns.map Prod.fst

/-- **The names of the columns that the artifact of a kind is about.** A column
that stays as it is is in no bucket, and a creation, which is never part of an
alteration, has an empty one. -/
def bucket (diff : TableDiff) (kind : ArtifactKind) : List String :=
  (diff.columnsOf kind).map fun c => c.name

theorem columnsOf_eq (diff : TableDiff) (kind : ArtifactKind) : diff.columnsOf kind =
    (diff.changes.filter fun change => change.action.kind? = some kind).filterMap
      fun change => change.action.column? := by
  rw [List.filterMap_filter]
  cases kind with
  | create =>
    refine (List.filterMap_eq_nil_iff.2 fun change _ => ?_).symm
    cases change.action <;> rfl
  | addColumns =>
    refine List.filterMap_congr fun change _ => ?_
    cases change.action <;> rfl
  | modifyColumns =>
    rw [columnsOf, modifiedColumns, List.map_filterMap]
    refine List.filterMap_congr fun change _ => ?_
    cases change.action <;> rfl
  | dropColumns =>
    rw [columnsOf, droppedColumns, List.map_filterMap]
    refine List.filterMap_congr fun change _ => ?_
    cases change.action <;> rfl

theorem mem_columnsOf {change : ColumnChange} (hm : change ∈ diff.changes) {kind : ArtifactKind}
    (hk : change.action.kind? = some kind) {c : ColumnDecl} (hc : change.action.column? = some c) :
    c ∈ diff.columnsOf kind := by
  rw [columnsOf_eq, List.mem_filterMap]
  exact ⟨change, List.mem_filter.2 ⟨hm, decide_eq_true hk⟩, hc⟩

/-- There is nothing to do just when no kind of artifact has a column. What is
left out of the buckets are the columns that stay as they are. -/
theorem isUpToDate_iff (alters : diff.tableAction = .alter) : diff.isUpToDate = true ↔
    ∀ kind ∈ [ArtifactKind.addColumns, .modifyColumns, .dropColumns], diff.bucket kind = [] := by
  have all : diff.isUpToDate = true ↔ ∀ change ∈ diff.changes, change.action = .unchanged := by
    simp [isUpToDate, alters]
  rw [all]
  constructor
  · intro unchanged kind _
    rw [bucket, columnsOf_eq, List.map_eq_nil_iff, List.filterMap_eq_nil_iff]
    intro change hm
    rw [unchanged change (List.mem_of_mem_filter hm)]
    rfl
  · intro empty change hm
    by_contra changes
    have known : ∃ kind ∈ [ArtifactKind.addColumns, .modifyColumns, .dropColumns],
        ∃ c, change.action.kind? = some kind ∧ change.action.column? = some c := by
      cases action : change.action with
      | unchanged => exact absurd action changes
      | new c => exact ⟨.addColumns, by decide, c, rfl, rfl⟩
      | modified c type nullable => exact ⟨.modifyColumns, by decide, c, rfl, rfl⟩
      | dropped c type nullable => exact ⟨.dropColumns, by decide, c, rfl, rfl⟩
    obtain ⟨kind, hkind, c, hk, hc⟩ := known
    have none := List.map_eq_nil_iff.1 (empty kind hkind)
    exact absurd (mem_columnsOf hm hk hc) (none ▸ List.not_mem_nil)

/-! ## Names and their order -/

theorem tableAction_of_alteration (h : alteration options inspector decl = .ok diff) :
    diff.tableAction = .alter := by
  obtain ⟨_, -, made⟩ := bind_eq_ok_iff.1 h
  cases made
  rfl

/-- Looking for what a column calls for leaves its name alone. -/
theorem name_of_compareColumn {table : String} {column : ColumnDecl} {action : ColumnAction}
    (h : compareColumn options inspector table column = .ok (some action)) {c : ColumnDecl}
    (hc : action.column? = some c) : c.name = column.name := by
  unfold compareColumn at h
  split at h
  · cases h
    cases hc
  · obtain ⟨live, -, h⟩ := bind_eq_ok_iff.1 h
    cases called : actionFor column live with
    | none =>
      rw [called] at h
      dsimp only at h
      split at h <;> cases h
    | some other =>
      rw [called] at h
      cases h
      cases action with
      | unchanged => cases hc
      | new d =>
        cases hc
        rw [(actionFor_eq_new_iff.1 called).2.2]
      | modified d type nullable =>
        cases hc
        obtain ⟨-, -, -, -, rfl, -⟩ := actionFor_eq_modified_iff.1 called
        rfl
      | dropped d type nullable =>
        cases hc
        obtain ⟨-, -, -, rfl, -⟩ := actionFor_eq_dropped_iff.1 called
        rfl

theorem rows_of_compareColumns {table : String} {columns : List ColumnDecl}
    {compared : List (String × Option ColumnAction)}
    (h : compareColumns options inspector table columns = .ok compared) :
    compared.map Prod.fst = (columns.map fun c => c.name) ∧ ∀ row ∈ compared, ∃ c : ColumnDecl,
      row.1 = c.name ∧ compareColumn options inspector table c = .ok row.2 := by
  induction columns generalizing compared with
  | nil =>
    cases h
    exact ⟨rfl, List.forall_mem_nil _⟩
  | cons column rest ih =>
    obtain ⟨action, first, h⟩ := bind_eq_ok_iff.1 h
    obtain ⟨later, tail, h⟩ := bind_eq_ok_iff.1 h
    cases h
    obtain ⟨names, rows⟩ := ih tail
    exact ⟨congrArg (column.name :: ·) names, List.forall_mem_cons.2 ⟨⟨column, rfl, first⟩, rows⟩⟩

/-- **A comparison names its columns**: a change bears the name of the column it is about. -/
def NamesColumns (diff : TableDiff) : Prop :=
  ∀ change ∈ diff.changes, ∀ c, change.action.column? = some c → c.name = change.name

/-- **The changes of a comparison are in declared order**, by name, and each is
about a column of its own name. The statements on buckets follow from these two
facts and know nothing else of a comparison. -/
theorem changes_sublist (h : alteration options inspector decl = .ok diff) :
    (diff.changes.map ColumnChange.name).Sublist decl.columnNames ∧ diff.NamesColumns := by
  obtain ⟨compared, columns, h⟩ := bind_eq_ok_iff.1 h
  cases h
  obtain ⟨names, rows⟩ := rows_of_compareColumns columns
  constructor
  · rw [TableDecl.columnNames, ← names]
    refine map_filterMap_sublist (fun row change made => ?_) compared
    obtain ⟨action, -, rfl⟩ := Option.map_eq_some_iff.1 made
    rfl
  · intro change hm c hc
    obtain ⟨row, hr, made⟩ := List.mem_filterMap.1 hm
    obtain ⟨action, called, rfl⟩ := Option.map_eq_some_iff.1 made
    obtain ⟨column, name, compared⟩ := rows row hr
    rw [called] at compared
    exact (name_of_compareColumn compared hc).trans name.symm

/-- The columns of a kind are those of the changes of that kind, by name. -/
theorem bucket_eq (named : diff.NamesColumns) (kind : ArtifactKind) : diff.bucket kind =
      (diff.changes.filter fun change => change.action.kind? = some kind).map
        ColumnChange.name := by
  rw [bucket, columnsOf_eq, List.map_filterMap, ← List.filterMap_eq_map]
  refine List.filterMap_congr fun change hm => ?_
  obtain ⟨hm, hk⟩ := List.mem_filter.1 hm
  have known : ∃ c, change.action.column? = some c := by
    cases action : change.action with
    | unchanged =>
      rw [action] at hk
      cases hk
    | new c => exact ⟨c, rfl⟩
    | modified c type nullable => exact ⟨c, rfl⟩
    | dropped c type nullable => exact ⟨c, rfl⟩
  obtain ⟨c, hc⟩ := known
  rw [hc, Option.map_some, named change hm c hc]
  rfl

/-- **The columns of a kind come in declared order**, which is the order of the
operations in the artifact of that kind. -/
theorem bucket_sublist (h : alteration options inspector decl = .ok diff) (kind : ArtifactKind) :
    (diff.bucket kind).Sublist decl.columnNames := by
  obtain ⟨ordered, named⟩ := changes_sublist h
  rw [bucket_eq named]
  exact (List.filter_sublist.map _).trans ordered

/-- Columns of different kinds have different names if all changes have. -/
theorem notMem_bucket_of_ne (named : diff.NamesColumns)
    (distinct : (diff.changes.map ColumnChange.name).Nodup) {kind other : ArtifactKind}
    (ne : kind ≠ other) {n : String} (hn : n ∈ diff.bucket kind) : n ∉ diff.bucket other := by
  rw [bucket_eq named] at hn ⊢
  intro ho
  obtain ⟨first, hfirst, rfl⟩ := List.mem_map.1 hn
  obtain ⟨second, hsecond, same⟩ := List.mem_map.1 ho
  obtain ⟨hm, hk⟩ := List.mem_filter.1 hfirst
  obtain ⟨hm', hk'⟩ := List.mem_filter.1 hsecond
  have one := List.inj_on_of_nodup_map distinct hm' hm same
  rw [one] at hk'
  exact ne (Option.some.inj ((of_decide_eq_true hk).symm.trans (of_decide_eq_true hk')))

/-- **No name is in two buckets**, nor twice in one, so no two operations of a
run are about one column, but for a column and its own foreign key. -/
theorem nodup_buckets (h : alteration options inspector decl = .ok diff)
    (distinct : decl.columnNames.Nodup) :
    (diff.bucket .addColumns ++ diff.bucket .modifyColumns ++ diff.bucket .dropColumns).Nodup := by
  obtain ⟨ordered, named⟩ := changes_sublist h
  have each (kind : ArtifactKind) := distinct.sublist (bucket_sublist h kind)
  have apart {kind other : ArtifactKind} (ne : kind ≠ other) :
      ∀ n ∈ diff.bucket kind, ∀ m ∈ diff.bucket other, n ≠ m := fun n hn m hm same =>
    notMem_bucket_of_ne named (distinct.sublist ordered) ne hn (same ▸ hm)
  refine List.nodup_append.2 ⟨List.nodup_append.2 ⟨each _, each _, apart (by decide)⟩, each _, ?_⟩
  intro n hn
  rcases List.mem_append.1 hn with hn | hn
  · exact apart (by decide) n hn
  · exact apart (by decide) n hn

end TableDiff

end SchemaPlan
