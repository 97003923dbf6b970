import SchemaPlan.Proofs.Sequences
import SchemaPlan.TableDiff

/-!
# The comparison with a known schema

Against a schema that is known, the comparison of a table is a function of
each column by itself: `TableDiff.verdict` says what a declared column calls
for, and the changes of a table are the verdicts of its columns in declared
order (`TableDiff.changes_of_alteration`). Whether drops are strict only
decides if there is an outcome at all.

What each verdict says of the live schema is stated as an equivalence, one
for each of the five outcomes, and the three lists that artifacts are made
from are described by their members.
-/

namespace SchemaPlan

/-! ## The verdict on one column -/

namespace TableDiff

/-- What a declared column of a table calls for in a known schema. -/
def verdict (options : DiffOptions) (catalog : Catalog) (table : String) (column : ColumnDecl) :
    Option ColumnAction :=
  if options.systemColumns.contains column.name then some .unchanged
  else actionFor column (catalog.column? table column.name)

variable {options : DiffOptions} {catalog : Catalog} {table : String} {column other : ColumnDecl}

/-- **A column is new exactly if it is not live and not marked for removal.**
This and the next four statements turn the branches of the comparison into
conditions; no later proof opens it again. -/
theorem actionFor_eq_new_iff {live : Option LiveColumn} :
    actionFor column live = some (.new other) ↔
      live = none ∧ column.isMarkedForDrop = false ∧ other = column := by
  unfold actionFor
  cases live with
  | none => cases column.isMarkedForDrop <;> simp [eq_comm]
  | some live =>
    dsimp only
    split
    · simp
    · split <;> simp

/-- **A column is modified exactly if it is live, is to stay, and differs** in
type or in nullability. What is kept of the live column is its canonical type
and its nullability, which is all that taking the change back needs. -/
theorem actionFor_eq_modified_iff {live : Option LiveColumn} {type : String} {nullable : Bool} :
    actionFor column live = some (.modified other type nullable) ↔
      ∃ found, live = some found ∧ column.isMarkedForDrop = false ∧
        ¬ (TypeName.agrees column.kind found.type = true ∧
          column.isNullable = found.nullable) ∧
        other = column ∧ type = TypeName.canonical found.type ∧ nullable = found.nullable := by
  unfold actionFor
  cases live with
  | none => cases column.isMarkedForDrop <;> simp
  | some live =>
    dsimp only
    cases column.isMarkedForDrop with
    | true => simp
    | false =>
      -- a column that is to be kept is left alone just if type and nullability agree
      by_cases same : TypeName.agrees column.kind live.type = true ∧
          column.isNullable = live.nullable
      · simp [same]
      · have differs : (TypeName.agrees column.kind live.type &&
            column.isNullable == live.nullable) = false := by
          rw [← Bool.not_eq_true, Bool.and_eq_true, beq_iff_eq]
          exact same
        simp only [differs, Bool.false_eq_true, if_false, Option.some.injEq,
          ColumnAction.modified.injEq, true_and, exists_eq_left', @eq_comm _ other, @eq_comm _ type,
          @eq_comm _ nullable]
        exact (and_iff_right same).symm

/-- **A column is dropped exactly if it is live and marked for removal.** The
live type is kept only where the declared kind does not agree with it. -/
theorem actionFor_eq_dropped_iff {live : Option LiveColumn} {type : Option String}
    {nullable : Bool} :
    actionFor column live = some (.dropped other type nullable) ↔
      ∃ found, live = some found ∧ column.isMarkedForDrop = true ∧ other = column.withoutDrop ∧
        type = (if TypeName.agrees column.kind found.type then none
          else some (TypeName.canonical found.type)) ∧ nullable = found.nullable := by
  unfold actionFor
  cases live with
  | none => cases column.isMarkedForDrop <;> simp
  | some live =>
    dsimp only
    cases column.isMarkedForDrop with
    | true => simp [@eq_comm _ other, @eq_comm _ type, @eq_comm _ nullable]
    | false =>
      simp only [Bool.false_eq_true, if_false, false_and, and_false, exists_false, iff_false]
      split <;> simp

/-- A column stays as it is exactly if it is live, is to stay and agrees in
type and in nullability. -/
theorem actionFor_eq_unchanged_iff {live : Option LiveColumn} :
    actionFor column live = some .unchanged ↔
      ∃ found, live = some found ∧ column.isMarkedForDrop = false ∧
        TypeName.agrees column.kind found.type = true ∧ column.isNullable = found.nullable := by
  unfold actionFor
  cases live with
  | none => cases column.isMarkedForDrop <;> simp
  | some live =>
    dsimp only
    cases column.isMarkedForDrop with
    | true => simp
    | false =>
      simp only [Bool.false_eq_true, if_false, true_and, Option.some.injEq, exists_eq_left']
      split <;> simp_all

/-- A column calls for nothing exactly if it is to be removed and is not there.
This is the one case that strict drops refuse. -/
theorem actionFor_eq_none_iff {live : Option LiveColumn} :
    actionFor column live = none ↔ live = none ∧ column.isMarkedForDrop = true := by
  unfold actionFor
  cases live with
  | none => cases column.isMarkedForDrop <;> simp
  | some live =>
    dsimp only
    split
    · simp
    · split <;> simp

/-! ## The verdicts on all columns -/

/-- **In a known schema only a drop of a missing column can fail, and only if
drops are strict.** In all other cases the comparison is the verdict. -/
theorem compareColumn_online : compareColumn options (.online catalog) table column =
    match verdict options catalog table column with
    | some action => .ok (some action)
    | none => if options.strictDrops then .error (.missingDrop table column.name) else .ok none := by
  unfold compareColumn verdict
  split
  · rfl
  · show (match actionFor column (catalog.column? table column.name) with
      | some action => Except.ok (some action)
      | none => _) = _
    cases actionFor column (catalog.column? table column.name) with
    | some action => rfl
    | none =>
      dsimp only
      split <;> rfl

/-- Columns that can be compared are compared one by one: each outcome is the
verdict on its own column, whatever the others are. -/
theorem compareColumns_online {columns : List ColumnDecl}
    {compared : List (String × Option ColumnAction)}
    (h : compareColumns options (.online catalog) table columns = .ok compared) :
    compared = columns.map fun c => (c.name, verdict options catalog table c) := by
  induction columns generalizing compared with
  | nil =>
    cases h
    rfl
  | cons column rest ih =>
    obtain ⟨action, first, h⟩ := bind_eq_ok_iff.1 h
    obtain ⟨later, tail, h⟩ := bind_eq_ok_iff.1 h
    cases h
    rw [List.map_cons, ← ih tail]
    refine congrArg (fun a => (column.name, a) :: later) ?_
    rw [compareColumn_online] at first
    cases hv : verdict options catalog table column with
    | some a =>
      rw [hv] at first
      cases first
      rfl
    | none =>
      rw [hv] at first
      dsimp only at first
      split at first
      · cases first
      · cases first
        rfl

/-- **The changes of a table are the verdicts on its columns**, in declared
order and without the columns that call for nothing. All that later modules
know of an alteration comes from this. -/
theorem changes_of_alteration {decl : TableDecl} {diff : TableDiff}
    (h : alteration options (.online catalog) decl = .ok diff) :
    diff.table = decl.name ∧ diff.tableAction = .alter ∧
      diff.changes = decl.columns.filterMap fun c =>
        (verdict options catalog decl.name c).map fun action => ⟨c.name, action⟩ := by
  obtain ⟨compared, columns, h⟩ := bind_eq_ok_iff.1 h
  cases h
  refine ⟨rfl, rfl, ?_⟩
  rw [compareColumns_online columns, List.filterMap_map]
  rfl

/-- Unless drops are strict, every column can be compared. -/
theorem exists_compareColumns_of_lenient (lenient : options.strictDrops = false)
    (columns : List ColumnDecl) :
    ∃ compared, compareColumns options (.online catalog) table columns = .ok compared := by
  induction columns with
  | nil => exact ⟨[], rfl⟩
  | cons column rest ih =>
    obtain ⟨later, tail⟩ := ih
    have first : ∃ action, compareColumn options (.online catalog) table column = .ok action := by
      rw [compareColumn_online, lenient]
      cases verdict options catalog table column with
      | none => exact ⟨none, rfl⟩
      | some action => exact ⟨some action, rfl⟩
    obtain ⟨action, first⟩ := first
    refine ⟨(column.name, action) :: later, ?_⟩
    rw [compareColumns, first, tail]
    rfl

/-- Unless drops are strict, every table can be altered as declared. -/
theorem exists_alteration_of_lenient (lenient : options.strictDrops = false) (decl : TableDecl) :
    ∃ diff, alteration options (.online catalog) decl = .ok diff := by
  obtain ⟨compared, hc⟩ :=
    @exists_compareColumns_of_lenient options catalog decl.name lenient decl.columns
  exact ⟨_, bind_eq_ok_iff.2 ⟨compared, hc, rfl⟩⟩

/-! ## The columns that artifacts are made from -/

/-- A column that the framework looks after stays as it is, whatever is live
and even if it is marked for removal. -/
theorem verdict_of_system (h : column.name ∈ options.systemColumns) :
    verdict options catalog table column = some .unchanged :=
  if_pos (List.contains_iff_mem.2 h)

/-- On any other column the verdict is the comparison with the live column of
its name. -/
theorem verdict_of_not_system (h : column.name ∉ options.systemColumns) :
    verdict options catalog table column =
      actionFor column (catalog.column? table column.name) :=
  if_neg fun h' => h (List.contains_iff_mem.1 h')

/-- A verdict that changes something is about a column of the declaration that
is not looked after by the framework. -/
theorem actionFor_of_verdict {action : ColumnAction}
    (h : verdict options catalog table column = some action) (changes : action ≠ .unchanged) :
    column.name ∉ options.systemColumns ∧
      actionFor column (catalog.column? table column.name) = some action := by
  by_cases system : column.name ∈ options.systemColumns
  · rw [verdict_of_system system, Option.some.injEq] at h
    exact absurd h.symm changes
  · exact ⟨system, verdict_of_not_system system ▸ h⟩

end TableDiff

namespace ColumnAction

/-- The column that is new. -/
def new? : ColumnAction → Option ColumnDecl
  | new column => some column
  | _ => none

/-- The column that is modified, with the type and the nullability it has. -/
def modified? : ColumnAction → Option (ColumnDecl × String × Bool)
  | modified column type nullable => some (column, type, nullable)
  | _ => none

/-- The column that is dropped, with the type, when it is not the declared
one, and the nullability it has. -/
def dropped? : ColumnAction → Option (ColumnDecl × Option String × Bool)
  | dropped column type nullable => some (column, type, nullable)
  | _ => none

@[simp] theorem new?_eq_some_iff {action : ColumnAction} {column : ColumnDecl} :
    action.new? = some column ↔ action = .new column := by
  cases action <;> simp [new?]

@[simp] theorem modified?_eq_some_iff {action : ColumnAction} {m : ColumnDecl × String × Bool} :
    action.modified? = some m ↔ action = .modified m.1 m.2.1 m.2.2 := by
  obtain ⟨column, type, nullable⟩ := m
  cases action <;> simp [modified?]

@[simp] theorem dropped?_eq_some_iff {action : ColumnAction} {d : ColumnDecl × Option String × Bool} :
    action.dropped? = some d ↔ action = .dropped d.1 d.2.1 d.2.2 := by
  obtain ⟨column, type, nullable⟩ := d
  cases action <;> simp [dropped?]

end ColumnAction

namespace TableDiff

variable {options : DiffOptions} {catalog : Catalog} {decl : TableDecl} {diff : TableDiff}

/-- A selection among the changes is a selection among the verdicts. The three
lists below, of new, modified and dropped columns, are cases of it. -/
theorem filterMap_changes {β : Type} (h : alteration options (.online catalog) decl = .ok diff)
    (select : ColumnAction → Option β) :
    diff.changes.filterMap (fun change => select change.action) =
      decl.columns.filterMap fun c => (verdict options catalog decl.name c).bind select := by
  rw [(changes_of_alteration h).2.2, List.filterMap_filterMap]
  congr 1
  funext c
  cases verdict options catalog decl.name c <;> rfl

theorem newColumns_eq (h : alteration options (.online catalog) decl = .ok diff) :
    diff.newColumns =
      decl.columns.filterMap fun c =>
        (verdict options catalog decl.name c).bind ColumnAction.new? :=
  filterMap_changes h ColumnAction.new?

theorem modifiedColumns_eq (h : alteration options (.online catalog) decl = .ok diff) :
    diff.modifiedColumns =
      decl.columns.filterMap fun c =>
        (verdict options catalog decl.name c).bind ColumnAction.modified? :=
  filterMap_changes h ColumnAction.modified?

theorem droppedColumns_eq (h : alteration options (.online catalog) decl = .ok diff) :
    diff.droppedColumns =
      decl.columns.filterMap fun c =>
        (verdict options catalog decl.name c).bind ColumnAction.dropped? :=
  filterMap_changes h ColumnAction.dropped?

/-- **A column is listed as new exactly if it is declared and the verdict on it
says so.** -/
theorem mem_newColumns_iff (h : alteration options (.online catalog) decl = .ok diff)
    {column : ColumnDecl} : column ∈ diff.newColumns ↔
      column ∈ decl.columns ∧ verdict options catalog decl.name column = some (.new column) := by
  rw [newColumns_eq h]
  simp only [List.mem_filterMap, Option.bind_eq_some_iff, ColumnAction.new?_eq_some_iff]
  constructor
  · rintro ⟨c, hc, action, hv, rfl⟩
    obtain ⟨-, -, rfl⟩ := actionFor_eq_new_iff.1 (actionFor_of_verdict hv (by simp)).2
    exact ⟨hc, hv⟩
  · rintro ⟨hc, hv⟩
    exact ⟨column, hc, _, hv, rfl⟩

/-- A column is listed as modified exactly if it is declared and the verdict on
it says so; type and nullability are those of the verdict. -/
theorem mem_modifiedColumns_iff (h : alteration options (.online catalog) decl = .ok diff)
    {column : ColumnDecl} {type : String} {nullable : Bool} :
    (column, type, nullable) ∈ diff.modifiedColumns ↔ column ∈ decl.columns ∧
      verdict options catalog decl.name column = some (.modified column type nullable) := by
  rw [modifiedColumns_eq h]
  simp only [List.mem_filterMap, Option.bind_eq_some_iff, ColumnAction.modified?_eq_some_iff]
  constructor
  · rintro ⟨c, hc, action, hv, rfl⟩
    obtain ⟨-, -, -, -, rfl, -⟩ :=
      actionFor_eq_modified_iff.1 (actionFor_of_verdict hv (by simp)).2
    exact ⟨hc, hv⟩
  · rintro ⟨hc, hv⟩
    exact ⟨column, hc, _, hv, rfl⟩

/-- **A column is listed as dropped exactly if it is a declared one without its
mark**, and the verdict on that one says so. The mark is gone because the
column must not be marked where it is added again. -/
theorem mem_droppedColumns_iff (h : alteration options (.online catalog) decl = .ok diff)
    {column : ColumnDecl} {type : Option String} {nullable : Bool} :
    (column, type, nullable) ∈ diff.droppedColumns ↔ ∃ c ∈ decl.columns,
      column = c.withoutDrop ∧
        verdict options catalog decl.name c = some (.dropped column type nullable) := by
  rw [droppedColumns_eq h]
  simp only [List.mem_filterMap, Option.bind_eq_some_iff, ColumnAction.dropped?_eq_some_iff]
  constructor
  · rintro ⟨c, hc, action, hv, rfl⟩
    obtain ⟨-, -, -, same, -⟩ :=
      actionFor_eq_dropped_iff.1 (actionFor_of_verdict hv (by simp)).2
    exact ⟨c, hc, same, hv⟩
  · rintro ⟨c, hc, -, hv⟩
    exact ⟨c, hc, _, hv, rfl⟩

end TableDiff

end SchemaPlan
