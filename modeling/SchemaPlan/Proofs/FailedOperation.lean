import SchemaPlan.Proofs.Creation

/-!
# What a failed operation leaves behind

An edit that fails changes nothing. But an operation is a run of edits, and a run that
stops has made the edits in front of the one that failed (`runUntilFault_eq_some_iff`).
So what a failed operation leaves behind is what the first of its edits have made.

Of nearly every operation these make nothing: it has one edit, or its edits only ask for
columns (`Operation.exists_names_of_split`). The exception is the operation that adds two
columns for times. Where the name of the second is taken and that of the first is free,
it fails and has added the first (`Catalog.StopsHalfway`).
-/

namespace SchemaPlan

/-! ## Runs that stop -/

/-- **A run that stops has taken the steps in front of the one that failed**,
and that step may have changed the state as well. The steps behind it were not
taken. -/
theorem runUntilFault_eq_some_iff {σ α ε : Type} {step : σ → α → σ × Option ε} {s last : σ}
    {steps : List α} {e : ε} :
    runUntilFault step s steps = (last, some e) ↔
      ∃ made a rest middle, steps = made ++ a :: rest ∧
        runUntilFault step s made = (middle, none) ∧ step middle a = (last, some e) := by
  constructor
  · intro stopped
    induction steps generalizing s with
    | nil => cases stopped
    | cons a rest ih =>
      rw [runUntilFault] at stopped
      rcases first : step s a with ⟨next, _ | problem⟩
      · rw [first] at stopped
        obtain ⟨made, b, later, middle, rfl, ran, failed⟩ := ih stopped
        exact ⟨a :: made, b, later, middle, rfl,
          runUntilFault_cons_eq_none_iff.2 ⟨next, first, ran⟩, failed⟩
      · rw [first] at stopped
        cases stopped
        exact ⟨[], a, rest, s, rfl, rfl, first⟩
  · rintro ⟨made, a, rest, middle, rfl, ran, failed⟩
    rw [runUntilFault_append, ran]
    dsimp only
    rw [runUntilFault, failed]

namespace LiveTable

variable {table changed : LiveTable} {problem : ReplayProblem}

/-- Edits that stop leave the table that the edits in front of the failing one have
made. -/
theorem exists_split_of_editAll {edits : List Edit}
    (stopped : table.editAll edits = (changed, some problem)) :
    ∃ made e rest, edits = made ++ e :: rest ∧ table.editAll made = (changed, none) ∧
      changed.editOrKeep e = (changed, some problem) := by
  obtain ⟨made, e, rest, middle, split, ran, failed⟩ := runUntilFault_eq_some_iff.1 stopped
  obtain rfl : changed = middle := editOrKeep_eq_some failed
  exact ⟨made, e, rest, split, ran, failed⟩

/-- A column is not added when its name is taken. -/
theorem editOrKeep_add_eq_some_iff {c : LiveColumn} :
    table.editOrKeep (.add c) = (changed, some problem) ↔
      (table.column? c.name).isSome ∧ changed = table ∧
        problem = .columnExists c.name table.name := by
  simp only [editOrKeep, edit]
  rcases table.column? c.name with _ | found <;> simp [@eq_comm _ changed, @eq_comm _ problem]

/-- **Additions that stop have added the columns in front of the one whose name is
taken.** -/
theorem exists_split_of_editAll_add {columns : List LiveColumn}
    (stopped : table.editAll (columns.map .add) = (changed, some problem)) :
    ∃ made c rest, columns = made ++ c :: rest ∧
      (∀ d ∈ made, table.column? d.name = none) ∧
      changed = ⟨table.name, table.columns ++ made⟩ ∧ (changed.column? c.name).isSome ∧
      problem = .columnExists c.name table.name := by
  obtain ⟨_, _, _, split, ran, failed⟩ := exists_split_of_editAll stopped
  obtain ⟨made, later, rfl, rfl, rest'⟩ := List.map_eq_append_iff.1 split
  obtain ⟨c, rest, rfl, rfl, -⟩ := List.map_eq_cons_iff.1 rest'
  obtain ⟨⟨free, -⟩, rfl⟩ := editAll_add_eq_none_iff.1 ran
  obtain ⟨taken, -, rfl⟩ := editOrKeep_add_eq_some_iff.1 failed
  exact ⟨made, c, rest, rfl, free, rfl, taken, rfl⟩

/-- The columns for times are not added where the first of them is there, and only the
first is added where the second is. -/
theorem of_editAll_timestamps
    (stopped : table.editAll Operation.timestamps.edits = (changed, some problem)) :
    (table.column? "created_at").isSome ∧ changed = table ∨
      table.column? "created_at" = none ∧ (table.column? "updated_at").isSome ∧
        changed = ⟨table.name, table.columns ++ [.time "created_at"]⟩ ∧
        problem = .columnExists "updated_at" table.name := by
  obtain ⟨made, c, rest, split, free, rfl, taken, rfl⟩ := @exists_split_of_editAll_add table changed
    problem [.time "created_at", .time "updated_at"] stopped
  rcases made with _ | ⟨first, _ | ⟨second, later⟩⟩
  · cases split
    rw [List.append_nil] at taken ⊢
    exact .inl ⟨taken, rfl⟩
  · cases split
    have before : (table.column? "updated_at").isSome := by
      simpa [column?, LiveColumn.time] using taken
    exact .inr ⟨free _ (List.mem_singleton.2 rfl), before, rfl, rfl⟩
  · cases later <;> cases split

end LiveTable

/-! ## Operations that stop -/

/-- **In front of its last edit an operation only asks for columns**, unless it adds the
columns for times. -/
theorem Operation.exists_names_of_split {operation : Operation} (others : operation ≠ .timestamps)
    {made rest : List Edit} {e : Edit} (split : operation.edits = made ++ e :: rest) :
    ∃ names : List String, made = names.map .require := by
  have single : ∀ {first : Edit}, [first] = made ++ e :: rest → ∃ names : List String,
      made = names.map .require := by
    intro first split
    cases made with
    | nil => exact ⟨[], rfl⟩
    | cons _ later => cases later <;> cases split
  cases operation with
  | id => exact single split
  | addColumn => exact single split
  | changeColumn => exact single split
  | dropColumn => exact single split
  | dropForeign => exact single split
  | createIndex index =>
    obtain ⟨names, _, -, rfl, -⟩ := List.map_eq_append_iff.1 split
    exact ⟨names, rfl⟩
  | softDeletes => exact single split
  | timestamps => exact absurd rfl others
  | dropTable => cases made <;> cases split

namespace Catalog

variable {catalog after : Catalog} {T : String} {operation : Operation} {problem : ReplayProblem}

/-- **An operation stops halfway**: it adds the columns for times to a table that has no
`created_at` but has an `updated_at`. -/
def StopsHalfway (catalog : Catalog) (T : String) (operation : Operation) : Prop :=
  operation = .timestamps ∧ catalog.column? T "created_at" = none ∧
    (catalog.column? T "updated_at").isSome

instance (catalog : Catalog) (T : String) (operation : Operation) :
    Decidable (catalog.StopsHalfway T operation) :=
  inferInstanceAs (Decidable (_ ∧ _ ∧ _))

/-- An operation fails where there is no table, which changes nothing, or it stops in its
edits. -/
theorem exists_editAll_of_apply (failed : catalog.apply T operation = (after, some problem)) :
    catalog.table? T = none ∧ after = catalog ∨
      ∃ table changed, catalog.table? T = some table ∧
        table.editAll operation.edits = (changed, some problem) ∧ after = catalog.put changed := by
  cases found : catalog.table? T with
  | none =>
    simp only [apply, found] at failed
    cases failed
    exact .inl ⟨rfl, rfl⟩
  | some table =>
    have alters : operation ≠ .dropTable := by
      rintro rfl
      simp only [apply, found, if_true] at failed
      cases failed
    rw [apply_of_table? found alters] at failed
    rcases ran : table.editAll operation.edits with ⟨changed, p⟩
    rw [ran] at failed
    cases failed
    exact .inr ⟨table, changed, rfl, ran, rfl⟩

/-- An operation that fails and does not add the columns for times changes
nothing. It consists of one edit, or of edits that only ask for columns. -/
theorem eq_of_apply_of_ne_timestamps (others : operation ≠ .timestamps)
    (failed : catalog.apply T operation = (after, some problem)) : after = catalog := by
  rcases exists_editAll_of_apply failed with ⟨-, same⟩ | ⟨table, changed, found, stopped, rfl⟩
  · exact same
  · -- all edits in front of the one that failed ask for columns, so they made nothing
    obtain ⟨made, e, rest, split, ran, -⟩ := LiveTable.exists_split_of_editAll stopped
    obtain ⟨names, rfl⟩ := Operation.exists_names_of_split others split
    obtain ⟨-, rfl⟩ := LiveTable.editAll_require_eq_none_iff.1 ran
    exact put_of_table? found

/-- Where an operation stops halfway, the first of the two columns has been added. -/
theorem of_stopsHalfway (halfway : catalog.StopsHalfway T operation)
    (failed : catalog.apply T operation = (after, some problem)) :
    problem = .columnExists "updated_at" T ∧ ∃ table, catalog.table? T = some table ∧
      after = catalog.put ⟨T, table.columns ++ [.time "created_at"]⟩ := by
  obtain ⟨rfl, free, taken⟩ := halfway
  rcases exists_editAll_of_apply failed with ⟨absent, -⟩ | ⟨table, changed, found, stopped, rfl⟩
  · rw [column?, absent] at taken
    cases taken
  · have name : table.name = T := name_of_table?_eq_some found
    rw [column?_of_table? found] at free
    rcases LiveTable.of_editAll_timestamps stopped with ⟨present, -⟩ | ⟨-, -, rfl, rfl⟩
    · rw [free] at present
      cases present
    · exact ⟨by rw [name], table, found, by rw [name]⟩

/-- An operation that fails and does not stop halfway changes nothing. -/
theorem eq_of_not_stopsHalfway (whole : ¬ catalog.StopsHalfway T operation)
    (failed : catalog.apply T operation = (after, some problem)) : after = catalog := by
  by_cases times : operation = .timestamps
  · subst times
    rcases exists_editAll_of_apply failed with ⟨-, same⟩ | ⟨table, changed, found, stopped, rfl⟩
    · exact same
    · rcases LiveTable.of_editAll_timestamps stopped with ⟨-, rfl⟩ | ⟨free, taken, -, -⟩
      · exact put_of_table? found
      · rw [← column?_of_table? found] at free taken
        exact absurd ⟨rfl, free, taken⟩ whole
  · exact eq_of_apply_of_ne_timestamps times failed

end Catalog

/-- **An operation that fails changes nothing, unless it stops halfway.** There is one way
to stop halfway: the columns for times are added to a table that has no `created_at` but
has an `updated_at`. Then the operation fails because of the second column, and the table
is left with the first. -/
theorem schema_of_failed_operation {catalog after : Catalog} {T : String}
    {operation : Operation} {problem : ReplayProblem}
    (failed : catalog.apply T operation = (after, some problem)) :
    (after = catalog ↔ ¬ catalog.StopsHalfway T operation) ∧
    (catalog.StopsHalfway T operation → problem = .columnExists "updated_at" T ∧
      ∃ table, catalog.table? T = some table ∧
        after = catalog.put ⟨T, table.columns ++ [.time "created_at"]⟩) := by
  refine ⟨⟨?_, fun whole => Catalog.eq_of_not_stopsHalfway whole failed⟩,
    fun halfway => Catalog.of_stopsHalfway halfway failed⟩
  rintro rfl halfway
  obtain ⟨-, table, found, same⟩ := Catalog.of_stopsHalfway halfway failed
  -- the table would be the one with a column more
  have longer := Catalog.table?_put_self after ⟨T, table.columns ++ [.time "created_at"]⟩
  rw [← same, found, Option.some.injEq] at longer
  have columns := congrArg (fun t => t.columns.length) longer
  rw [List.length_append, List.length_singleton] at columns
  exact Nat.succ_ne_self _ columns.symm

namespace StampedOrders

/-- A table of orders that records only when they change. -/
def live : Catalog := ⟨[⟨"orders", [.key, .time "updated_at"]⟩]⟩

/-- The table once it was to record when they are made. -/
def after : Catalog := ⟨[⟨"orders", [.key, .time "updated_at", .time "created_at"]⟩]⟩

theorem stopped : live.apply "orders" .timestamps =
    (after, some (.columnExists "updated_at" "orders")) := by
  decide

/-- An index over a column that is not there. -/
def index : CompositeIndex := ⟨.plain, ["id", "total"], none⟩

theorem refused : live.apply "orders" (.createIndex index) =
    ((live.apply "orders" (.createIndex index)).1, some (.noColumn "total" "orders")) := by
  decide

end StampedOrders

/-- An index over a column that is not there leaves the orders as they are, and the
columns for times leave them with one. -/
theorem schema_of_failed_operation_orders :
    (StampedOrders.live.apply "orders" (.createIndex StampedOrders.index)).1 =
      StampedOrders.live ∧
    StampedOrders.after =
      StampedOrders.live.put ⟨"orders", [.key, .time "updated_at", .time "created_at"]⟩ := by
  constructor
  · exact (schema_of_failed_operation StampedOrders.refused).1.2 (by decide)
  · obtain ⟨-, table, found, after⟩ :=
      (schema_of_failed_operation StampedOrders.stopped).2 (by decide)
    cases found
    exact after

/-- An operation that fails can change the schema. -/
theorem failed_timestamps_add_a_column :
    ¬ ∀ (catalog after : Catalog) (T : String) (operation : Operation) (problem : ReplayProblem),
      catalog.apply T operation = (after, some problem) → after = catalog := by
  intro keeps
  have same := keeps _ _ _ _ _ StampedOrders.stopped
  exact absurd same (by decide)

end SchemaPlan
