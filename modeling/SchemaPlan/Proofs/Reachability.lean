import SchemaPlan.Proofs.Replay

/-!
# The schemas that calls lead to

A live schema comes about by calls. Each of them is about one table: it puts the table
in, or carries operations out on it one after the other up to the first that fails, and
what was done before stays done. Nothing is asked of the operations, nor of the artifacts
they are from; they need not fit the schema nor each other.

Still three things hold of every schema that is reached (`reachable_schemas`). Tables
have different names, and so have the columns of a table, which is what look-ups by name
rely on. A call does not touch another table, nor the order of the others. And a foreign
key is never lost with its column: a column that has one keeps it until it is dropped by
name, unless the whole table goes. An operation can fail with one of its edits made, but
each edit is made as a whole or not at all, so that none of this needs a call to succeed.
-/

namespace SchemaPlan

/-- **What every step keeps holds after a run**, whether it succeeds or not. -/
theorem of_runUntilFault {σ α ε : Type} {step : σ → α → σ × Option ε} (P : σ → Prop) {s : σ}
    {steps : List α} (keeps : ∀ a ∈ steps, ∀ s, P s → P (step s a).1) (h : P s) :
    P (runUntilFault step s steps).1 := by
  induction steps generalizing s with
  | nil => exact h
  | cons a rest ih =>
    have first := keeps a List.mem_cons_self s h
    rw [runUntilFault]
    rcases hs : step s a with ⟨next, _ | e⟩
    · rw [hs] at first
      exact ih (fun b hb => keeps b (List.mem_cons_of_mem a hb)) first
    · rw [hs] at first
      exact first

namespace Catalog

/-! ## Calls -/

/-- One call that changes a live schema. The schemas that such calls lead to,
some of them failing, are the ones that can be reached. -/
inductive Call where
  /-- A table is put in, in the place of one of its name if there is one. -/
  | insert (table : LiveTable)
  /-- The change of an artifact is made. -/
  | apply (artifact : Artifact)
  /-- The change of an artifact is taken back. -/
  | revert (artifact : Artifact)
  /-- Operations are carried out on a table. -/
  | operate (table : String) (operations : List Operation)

namespace Call

/-- The table that a call is about. -/
def table : Call → String
  | insert table => table.name
  | apply artifact => artifact.table
  | revert artifact => artifact.table
  | operate table _ => table

/-- The operations that a call carries out. -/
def operations : Call → List Operation
  | insert _ => []
  | apply artifact => artifact.forward
  | revert artifact => artifact.inverse
  | operate _ operations => operations

/-- Makes a call. The result is the schema as far as it was changed, and what stopped
the call. -/
def run (catalog : Catalog) : Call → Catalog × Option ReplayProblem
  | insert table => (catalog.put table, none)
  | apply artifact => catalog.applyArtifact artifact
  | revert artifact => catalog.revertArtifact artifact
  | operate table operations => catalog.applyAll table operations

/-- A table that is put in has columns of different names. No other call can
make two columns of one name, so this is asked for nowhere else. -/
def IsProper : Call → Prop
  | insert table => table.columnNames.Nodup
  | _ => True

/-- Whether a call puts a table in. -/
def IsInsert : Call → Prop
  | insert _ => True
  | _ => False

instance : (call : Call) → Decidable call.IsProper
  | insert table => inferInstanceAs (Decidable table.columnNames.Nodup)
  | apply _ | revert _ | operate _ _ => inferInstanceAs (Decidable True)

instance : (call : Call) → Decidable call.IsInsert
  | insert _ => inferInstanceAs (Decidable True)
  | apply _ | revert _ | operate _ _ => inferInstanceAs (Decidable False)

/-- The schema on which a call begins to carry its operations out, if it gets so far: a
table is created only where there is none. -/
def start? (catalog : Catalog) : Call → Option Catalog
  | insert table => some (catalog.put table)
  | apply artifact =>
    if artifact.kind = .create then
      if (catalog.table? artifact.table).isSome then none
      else some (catalog.put ⟨artifact.table, []⟩)
    else some catalog
  | revert _ | operate _ _ => some catalog

/-- A call carries its operations out on the schema that it begins with. -/
theorem run_eq (call : Call) (catalog : Catalog) :
    call.run catalog =
      match call.start? catalog with
      | none => (catalog, some (.tableExists call.table))
      | some begun => begun.applyAll call.table call.operations := by
  cases call with
  | insert table => rfl
  | revert artifact => rfl
  | operate table operations => rfl
  | apply artifact =>
    show catalog.applyArtifact artifact = _
    unfold applyArtifact start?
    by_cases creates : artifact.kind = .create
    · rw [if_pos creates]
      simp only [if_pos creates]
      rcases catalog.table? artifact.table with _ | found <;> rfl
    · rw [if_neg creates]
      simp only [if_neg creates]
      rfl

end Call

/-- The schema after calls that are made one after the other, each of them whether or not
those before it have succeeded. -/
def afterCalls (catalog : Catalog) (calls : List Call) : Catalog :=
  calls.foldl (fun c call => (call.run c).1) catalog

/-! ## Names are distinct -/

/-- **Names are distinct**, those of tables and those of the columns of each table. -/
structure IsDistinct (catalog : Catalog) : Prop where
  /-- The tables have different names. -/
  tables : (catalog.tables.map fun t => t.name).Nodup
  /-- The columns of each table have different names. -/
  columns : ∀ table ∈ catalog.tables, table.columnNames.Nodup

end Catalog

namespace LiveTable

variable {table : LiveTable}

/-- An edit keeps the names of the columns distinct: a column is only added where its
name is free. -/
theorem nodup_columnNames_editOrKeep (h : table.columnNames.Nodup) (e : Edit) :
    (table.editOrKeep e).1.columnNames.Nodup := by
  rcases he : table.editOrKeep e with ⟨changed, _ | problem⟩
  · cases e with
    | add c =>
      obtain ⟨free, rfl⟩ := editOrKeep_add_eq_none_iff.1 he
      rw [column?_eq_none_iff] at free
      show ((table.columns ++ [c]).map fun d => d.name).Nodup
      rw [List.map_append]
      exact List.nodup_append_comm.1 (List.nodup_cons.2 ⟨free, h⟩)
    | retype n type nullable =>
      obtain ⟨-, rfl⟩ := editOrKeep_retype_eq_none_iff.1 he
      show ((changeFirst n _ table.columns).map fun d => d.name).Nodup
      rw [map_name_changeFirst (LiveColumn.name_retyped type nullable)]
      exact h
    | remove n =>
      obtain ⟨-, rfl⟩ := editOrKeep_remove_eq_none_iff.1 he
      exact h.sublist (List.filter_sublist.map _)
    | release n =>
      obtain ⟨-, rfl⟩ := editOrKeep_release_eq_none_iff.1 he
      show ((changeFirst n _ table.columns).map fun d => d.name).Nodup
      rw [map_name_changeFirst LiveColumn.name_released]
      exact h
    | require n =>
      obtain ⟨-, rfl⟩ := editOrKeep_require_eq_none_iff.1 he
      exact h
  · rw [editOrKeep_eq_some he]
    exact h

theorem nodup_columnNames_editAll (h : table.columnNames.Nodup) (edits : List Edit) :
    (table.editAll edits).1.columnNames.Nodup :=
  of_runUntilFault (fun t : LiveTable => t.columnNames.Nodup)
    (fun e _ _ distinct => nodup_columnNames_editOrKeep distinct e) h

end LiveTable

namespace Catalog

variable {catalog : Catalog} {T n : String}

theorem map_name_putTable (table : LiveTable) (tables : List LiveTable) :
    (putTable table tables).map (fun t => t.name) =
      if table.name ∈ tables.map (fun t => t.name) then tables.map fun t => t.name
      else tables.map (fun t => t.name) ++ [table.name] := by
  induction tables with
  | nil => rfl
  | cons first rest ih =>
    rw [putTable]
    by_cases same : first.name = table.name
    · simp [same]
    · have different : ¬ table.name = first.name := fun h => same h.symm
      rw [if_neg same, List.map_cons, ih]
      by_cases later : table.name ∈ rest.map fun t => t.name
      · rw [if_pos later, List.map_cons, if_pos (List.mem_cons_of_mem first.name later)]
      · rw [if_neg later, List.map_cons, if_neg (by simp [different, later])]
        rfl

theorem eq_or_mem_of_mem_putTable {table t : LiveTable} {tables : List LiveTable}
    (h : t ∈ putTable table tables) : t = table ∨ t ∈ tables := by
  induction tables with
  | nil => exact .inl (List.mem_singleton.1 h)
  | cons first rest ih =>
    rw [putTable] at h
    split at h
    · exact (List.mem_cons.1 h).imp_right (List.mem_cons_of_mem first)
    · rcases List.mem_cons.1 h with rfl | h
      · exact .inr List.mem_cons_self
      · exact (ih h).imp_right (List.mem_cons_of_mem first)

/-- Where names are distinct, a table is found by its name. -/
theorem table?_eq_some_of_mem (h : (catalog.tables.map fun t => t.name).Nodup) {table : LiveTable}
    (ht : table ∈ catalog.tables) : catalog.table? table.name = some table := by
  rcases hf : catalog.table? table.name with _ | t
  · simpa using List.find?_eq_none.1 hf table ht
  · have member : t ∈ catalog.tables := List.mem_of_find?_eq_some hf
    rw [List.inj_on_of_nodup_map h member ht (name_of_table?_eq_some hf)]

namespace IsDistinct

theorem empty : IsDistinct .empty :=
  ⟨List.nodup_nil, nofun⟩

theorem put (h : catalog.IsDistinct) {table : LiveTable} (distinct : table.columnNames.Nodup) :
    (catalog.put table).IsDistinct := by
  constructor
  case tables =>
    show ((putTable table catalog.tables).map fun t => t.name).Nodup
    rw [map_name_putTable]
    split
    · exact h.tables
    · rename_i fresh
      exact List.nodup_append_comm.1 (List.nodup_cons.2 ⟨fresh, h.tables⟩)
  case columns =>
    intro t ht
    rcases eq_or_mem_of_mem_putTable ht with rfl | ht
    · exact distinct
    · exact h.columns t ht

theorem erase (h : catalog.IsDistinct) (T : String) : (catalog.erase T).IsDistinct where
  tables := h.tables.sublist (List.filter_sublist.map _)
  columns table ht := h.columns table (List.mem_of_mem_filter ht)

theorem apply (h : catalog.IsDistinct) (T : String) (operation : Operation) :
    (catalog.apply T operation).1.IsDistinct := by
  rcases hf : catalog.table? T with _ | table
  · simpa [Catalog.apply, hf] using h
  · by_cases drops : operation = .dropTable
    · simpa [Catalog.apply, hf, drops] using h.erase T
    · rw [apply_of_table? hf drops]
      have distinct := h.columns table (List.mem_of_find?_eq_some hf)
      exact h.put (LiveTable.nodup_columnNames_editAll distinct operation.edits)

theorem applyAll (h : catalog.IsDistinct) (T : String) (operations : List Operation) :
    (catalog.applyAll T operations).1.IsDistinct :=
  of_runUntilFault IsDistinct (fun operation _ _ distinct => distinct.apply T operation) h

theorem start? (h : catalog.IsDistinct) {call : Call} (proper : call.IsProper) {begun : Catalog}
    (starts : call.start? catalog = some begun) : begun.IsDistinct := by
  cases call with
  | insert table =>
    cases starts
    exact h.put proper
  | apply artifact =>
    rw [Call.start?] at starts
    split at starts
    · split at starts
      · cases starts
      · cases starts
        exact h.put List.nodup_nil
    · cases starts
      exact h
  | revert artifact =>
    cases starts
    exact h
  | operate table operations =>
    cases starts
    exact h

/-- **A call keeps names distinct**, whether it succeeds or not. -/
theorem run (h : catalog.IsDistinct) {call : Call} (proper : call.IsProper) :
    (call.run catalog).1.IsDistinct := by
  rw [Call.run_eq]
  cases starts : call.start? catalog with
  | none => exact h
  | some begun => exact (h.start? proper starts).applyAll call.table call.operations

theorem afterCalls (h : catalog.IsDistinct) {calls : List Call}
    (proper : ∀ call ∈ calls, call.IsProper) : (catalog.afterCalls calls).IsDistinct := by
  induction calls generalizing catalog with
  | nil => exact h
  | cons call rest ih =>
    exact ih (h.run (proper call List.mem_cons_self)) fun c hc =>
      proper c (List.mem_cons_of_mem call hc)

end IsDistinct

/-! ## Other tables are left alone -/

/-- **A call changes no other table**, nor the order of the others. -/
@[simp] theorem erase_run (call : Call) (catalog : Catalog) :
    (call.run catalog).1.erase call.table = catalog.erase call.table := by
  cases call with
  | insert table => exact erase_put catalog table
  | apply artifact => exact erase_of_applyArtifact rfl
  | revert artifact => exact erase_of_applyAll rfl
  | operate table operations => exact erase_of_applyAll rfl

end Catalog

/-! ## Foreign keys are dropped by name -/

namespace LiveTable

variable {table : LiveTable} {n : String}

/-- A table has a column of a given name, and that has a foreign key. -/
def HasKey (table : LiveTable) (n : String) : Prop :=
  ∃ c, table.column? n = some c ∧ c.foreign.isSome = true

/-- An edit that does not drop the foreign key of a column leaves it there. -/
theorem hasKey_editOrKeep (h : table.HasKey n) {e : Edit} (keeps : e ≠ .release n) :
    (table.editOrKeep e).1.HasKey n := by
  obtain ⟨c, found, key⟩ := h
  rcases he : table.editOrKeep e with ⟨changed, _ | problem⟩
  · by_cases hn : n = e.target
    · subst hn
      cases e with
      | add d =>
        have free : table.column? d.name = none := (editOrKeep_add_eq_none_iff.1 he).1
        cases found.symm.trans free
      | retype m type nullable =>
        obtain ⟨-, rfl⟩ := editOrKeep_retype_eq_none_iff.1 he
        refine ⟨c.retyped type nullable, ?_, key⟩
        have changed := find?_changeFirst_self (LiveColumn.name_retyped type nullable) m table.columns
        exact changed.trans (congrArg (Option.map _) found)
      | remove m =>
        -- a column with a foreign key is not removed
        obtain ⟨⟨d, there, free⟩, -⟩ := editOrKeep_remove_eq_none_iff.1 he
        cases found.symm.trans there
        cases key.symm.trans free
      | release m => exact absurd rfl keeps
      | require m =>
        obtain ⟨-, rfl⟩ := editOrKeep_require_eq_none_iff.1 he
        exact ⟨c, found, key⟩
    · exact ⟨c, (column?_of_editOrKeep he hn).trans found, key⟩
  · rw [editOrKeep_eq_some he]
    exact ⟨c, found, key⟩

end LiveTable

/-- Of the operations on the columns of a table only one drops a foreign key. -/
theorem Operation.release_notMem_edits {operation : Operation} {n : String}
    (keeps : operation ≠ .dropForeign n) : ∀ e ∈ operation.edits, e ≠ .release n := by
  rintro e member rfl
  cases operation with
  | dropForeign column =>
    cases List.mem_singleton.1 member
    exact keeps rfl
  | createIndex index =>
    obtain ⟨column, -, same⟩ := List.mem_map.1 member
    cases same
  | _ => simp [edits] at member

namespace Catalog

variable {catalog : Catalog} {T n : String}

/-- A live column has a foreign key. -/
def HasKey (catalog : Catalog) (T n : String) : Prop :=
  ∃ c, catalog.column? T n = some c ∧ c.foreign.isSome = true

theorem hasKey_iff : catalog.HasKey T n ↔ ∃ table, catalog.table? T = some table ∧ table.HasKey n := by
  unfold HasKey LiveTable.HasKey column?
  rcases catalog.table? T with _ | table <;> simp

/-- A schema in which the table is the same has the same foreign keys of it. -/
theorem HasKey.congr {other : Catalog} (h : catalog.HasKey T n)
    (same : other.table? T = catalog.table? T) : other.HasKey T n := by
  rw [hasKey_iff] at h ⊢
  rw [same]
  exact h

/-- The operations that end a foreign key: its table is removed, or it is
dropped. Removing the column is not among them, because that fails as long as
there is a key. -/
def EndsKey (n : String) (operation : Operation) : Prop :=
  operation = .dropTable ∨ operation = .dropForeign n

/-- **An operation leaves a foreign key where it is, or ends it.** -/
theorem hasKey_apply (h : catalog.HasKey T n) (operation : Operation) :
    (catalog.apply T operation).1.HasKey T n ∨
      EndsKey n operation ∧ (catalog.apply T operation).2 = none := by
  obtain ⟨table, hf, key⟩ := hasKey_iff.1 h
  by_cases drops : operation = .dropTable
  · refine .inr ⟨.inl drops, ?_⟩
    simp [apply, hf, drops]
  · by_cases releases : operation = .dropForeign n
    · refine .inr ⟨.inr releases, ?_⟩
      obtain ⟨c, found, foreign⟩ := key
      have edited := LiveTable.editOrKeep_release_eq_none_iff.2 ⟨⟨c, found, foreign⟩, rfl⟩
      rw [apply_of_table? hf drops, releases]
      show (runUntilFault LiveTable.editOrKeep table [.release n]).2 = none
      rw [runUntilFault, edited]
      rfl
    · rw [apply_of_table? hf drops]
      have kept : (table.editAll operation.edits).1.HasKey n :=
        of_runUntilFault (fun t : LiveTable => t.HasKey n)
          (fun e he _ holds => LiveTable.hasKey_editOrKeep holds
            (Operation.release_notMem_edits releases e he)) key
      rcases he : table.editAll operation.edits with ⟨changed, problem⟩
      rw [he] at kept
      have name : changed.name = T := (LiveTable.name_of_editAll he).trans (name_of_table?_eq_some hf)
      exact .inl (hasKey_iff.2 ⟨changed, name ▸ table?_put_self catalog changed, kept⟩)

/-- **An operation of a list is carried out**: the list is carried out up to it and
with it. -/
def CarriesOut (catalog : Catalog) (T : String) (operations : List Operation)
    (operation : Operation) : Prop :=
  ∃ first later reached, operations = first ++ operation :: later ∧
    catalog.applyAll T (first ++ [operation]) = (reached, none)

theorem CarriesOut.cons {next : Catalog} {first operation : Operation} {rest : List Operation}
    (h : next.CarriesOut T rest operation) (applied : catalog.apply T first = (next, none)) :
    catalog.CarriesOut T (first :: rest) operation := by
  obtain ⟨earlier, later, reached, rfl, carried⟩ := h
  exact ⟨first :: earlier, later, reached, rfl,
    runUntilFault_cons_eq_none_iff.2 ⟨next, applied, carried⟩⟩

theorem carriesOut_self {next : Catalog} {operation : Operation}
    (applied : catalog.apply T operation = (next, none)) (rest : List Operation) :
    catalog.CarriesOut T (operation :: rest) operation :=
  ⟨[], rest, next, rfl, runUntilFault_cons_eq_none_iff.2 ⟨next, applied, rfl⟩⟩

/-- Operations leave a foreign key where it is, or one of them that is carried out ends it. -/
theorem hasKey_applyAll (h : catalog.HasKey T n) (operations : List Operation) :
    (catalog.applyAll T operations).1.HasKey T n ∨
      ∃ operation, EndsKey n operation ∧ catalog.CarriesOut T operations operation := by
  induction operations generalizing catalog with
  | nil => exact .inl h
  | cons operation rest ih =>
    have first := hasKey_apply h operation
    rw [applyAll, runUntilFault]
    rcases ha : catalog.apply T operation with ⟨next, _ | problem⟩
    · rw [ha] at first
      rcases first with kept | ⟨ends, -⟩
      · refine (ih kept).imp_right ?_
        rintro ⟨other, ends, carried⟩
        exact ⟨other, ends, carried.cons ha⟩
      · exact .inr ⟨operation, ends, carriesOut_self ha rest⟩
    · rw [ha] at first
      rcases first with kept | ⟨-, done⟩
      · exact .inl kept
      · cases done

/-- **A table undergoes an operation in the course of calls**: one of them is about the
table, and carries the operation out. -/
def Undergoes (catalog : Catalog) (calls : List Call) (T : String) (operation : Operation) : Prop :=
  ∃ earlier call later begun, calls = earlier ++ call :: later ∧ call.table = T ∧
    call.start? (catalog.afterCalls earlier) = some begun ∧
    begun.CarriesOut T call.operations operation

/-- What a table undergoes is asked for by a call. -/
theorem Undergoes.exists_mem {calls : List Call} {operation : Operation}
    (h : catalog.Undergoes calls T operation) :
    ∃ call ∈ calls, call.table = T ∧ operation ∈ call.operations := by
  obtain ⟨earlier, call, later, begun, rfl, about, -, first, rest, reached, asked, -⟩ := h
  refine ⟨call, List.mem_append_right earlier List.mem_cons_self, about, ?_⟩
  rw [asked]
  exact List.mem_append_right first List.mem_cons_self

/-- A call that puts no table in begins with the tables that there are. -/
theorem table?_start? {call : Call} (present : (catalog.table? T).isSome)
    (inserts : call.IsInsert → call.table ≠ T) {begun : Catalog}
    (starts : call.start? catalog = some begun) : begun.table? T = catalog.table? T := by
  cases call with
  | insert table =>
    cases starts
    exact table?_put_of_ne catalog fun same => inserts trivial same.symm
  | apply artifact =>
    rw [Call.start?] at starts
    split at starts
    · split at starts
      · cases starts
      · rename_i absent
        cases starts
        refine table?_put_of_ne catalog fun same => absent ?_
        rw [show T = artifact.table from same] at present
        exact present
    · cases starts
      rfl
  | revert artifact =>
    cases starts
    rfl
  | operate table operations =>
    cases starts
    rfl

/-- Calls leave a foreign key where it is, or one of them ends it. -/
theorem hasKey_afterCalls (h : catalog.HasKey T n) {calls : List Call}
    (inserts : ∀ call ∈ calls, call.IsInsert → call.table ≠ T) :
    (catalog.afterCalls calls).HasKey T n ∨
      ∃ operation, EndsKey n operation ∧ catalog.Undergoes calls T operation := by
  induction calls generalizing catalog with
  | nil => exact .inl h
  | cons call rest ih =>
    have further (kept : (call.run catalog).1.HasKey T n) :
        (catalog.afterCalls (call :: rest)).HasKey T n ∨
          ∃ operation, EndsKey n operation ∧ catalog.Undergoes (call :: rest) T operation := by
      refine (ih kept fun c hc => inserts c (List.mem_cons_of_mem call hc)).imp_right ?_
      rintro ⟨operation, ends, earlier, other, later, begun, rfl, about, starts, carried⟩
      exact ⟨operation, ends, call :: earlier, other, later, begun, rfl, about, starts, carried⟩
    obtain ⟨table, present, -⟩ := hasKey_iff.1 h
    have present : (catalog.table? T).isSome := by rw [present]; rfl
    cases starts : call.start? catalog with
    | none =>
      refine further ?_
      rw [Call.run_eq, starts]
      exact h
    | some begun =>
      have same := table?_start? present (inserts call List.mem_cons_self) starts
      by_cases about : call.table = T
      · rcases hasKey_applyAll (h.congr same) call.operations with kept | ⟨operation, ends, carried⟩
        · refine further ?_
          rw [Call.run_eq, starts, about]
          exact kept
        · exact .inr ⟨operation, ends, [], call, rest, begun, rfl, about, starts, carried⟩
      · refine further (h.congr ?_)
        simp [← table?_erase_of_ne _ (Ne.symm about)]

end Catalog

/-- **What holds of every schema that is reached**, from the empty one and by any calls,
each of them whether or not it succeeds. Names are distinct, those of the tables and
those of the columns of each table. A further call leaves all tables as they are but its
own, and in their order. And whatever calls follow: a column with a foreign key still has
it afterwards, unless it was dropped by name; it is assumed that the table was not put
in again and not removed meanwhile. So a column that is missing afterwards has had its
foreign key dropped before. -/
theorem reachable_schemas {calls : List Catalog.Call} (proper : ∀ call ∈ calls, call.IsProper) :
    (Catalog.empty.afterCalls calls).IsDistinct ∧
    (∀ call : Catalog.Call,
      (call.run (Catalog.empty.afterCalls calls)).1.erase call.table =
        (Catalog.empty.afterCalls calls).erase call.table) ∧
    ∀ (more : List Catalog.Call) (table : LiveTable) (column : LiveColumn),
      table ∈ (Catalog.empty.afterCalls calls).tables → column ∈ table.columns →
      column.foreign.isSome = true →
      (∀ call ∈ more, call.IsInsert → call.table ≠ table.name) →
      ¬ (Catalog.empty.afterCalls calls).Undergoes more table.name .dropTable →
      (∃ found, (Catalog.empty.afterCalls (calls ++ more)).column? table.name column.name =
          some found ∧ found.foreign.isSome = true) ∨
        (Catalog.empty.afterCalls calls).Undergoes more table.name (.dropForeign column.name) := by
  have distinct := Catalog.IsDistinct.empty.afterCalls proper
  refine ⟨distinct, fun call => Catalog.erase_run call _, ?_⟩
  intro more table column ht hc key inserts stays
  have found : (Catalog.empty.afterCalls calls).HasKey table.name column.name :=
    Catalog.hasKey_iff.2 ⟨table, Catalog.table?_eq_some_of_mem distinct.tables ht, column,
      LiveTable.column?_eq_some_of_mem (distinct.columns table ht) hc, key⟩
  have whole : Catalog.empty.afterCalls (calls ++ more) =
      (Catalog.empty.afterCalls calls).afterCalls more := List.foldl_append
  rw [whole]
  rcases Catalog.hasKey_afterCalls found inserts with kept | ⟨operation, ends, undergone⟩
  · exact .inl kept
  · rcases ends with rfl | rfl
    · exact absurd undergone stays
    · exact .inr undergone

namespace ReachedOrders

/-- The author of an order. -/
def author : ColumnSpec :=
  { ColumnSpec.new "author_id" .foreignId with foreign := some ⟨"authors", "id", none, none⟩ }

/-- Orders get an author, and one of two timestamps before the call fails at the other. -/
def calls : List Catalog.Call :=
  [.insert ⟨"orders", [⟨"id", "bigint", false, none⟩, ⟨"updated_at", "datetime", true, none⟩]⟩,
    .operate "orders" [.addColumn author, .timestamps, .dropTable]]

/-- The author is to go, at first without and then with its foreign key. -/
def more : List Catalog.Call :=
  [.operate "orders" [.dropColumn "author_id"],
    .operate "orders" [.dropForeign "author_id", .dropColumn "author_id"]]

/-- The orders before that. -/
def table : LiveTable where
  name := "orders"
  columns := [⟨"id", "bigint", false, none⟩, ⟨"updated_at", "datetime", true, none⟩,
    .ofSpec author, .time "created_at"]

theorem reached : Catalog.empty.afterCalls calls = ⟨[table]⟩ := by
  decide +kernel

end ReachedOrders

/-- The author of the orders is gone, and its foreign key was dropped before. -/
theorem reachable_schemas_orders :
    (Catalog.empty.afterCalls ReachedOrders.calls).IsDistinct ∧
    (Catalog.empty.afterCalls (ReachedOrders.calls ++ ReachedOrders.more)).column? "orders"
      "author_id" = none ∧
    (Catalog.empty.afterCalls ReachedOrders.calls).Undergoes ReachedOrders.more "orders"
      (.dropForeign "author_id") := by
  obtain ⟨distinct, -, keys⟩ := reachable_schemas
    (by decide : ∀ call ∈ ReachedOrders.calls, call.IsProper)
  have gone : (Catalog.empty.afterCalls (ReachedOrders.calls ++ ReachedOrders.more)).column?
      "orders" "author_id" = none := by
    decide +kernel
  have asked : ∀ call ∈ ReachedOrders.more, .dropTable ∉ call.operations := by
    decide
  refine ⟨distinct, gone, ?_⟩
  have kept := keys ReachedOrders.more ReachedOrders.table (.ofSpec ReachedOrders.author)
    (by rw [ReachedOrders.reached]; exact List.mem_singleton_self _) (by decide) rfl (by decide)
    fun undergone => by
      obtain ⟨call, member, -, drops⟩ := undergone.exists_mem
      exact asked call member drops
  rcases kept with ⟨found, there, -⟩ | undergone
  · cases there.symm.trans gone
  · exact undergone

end SchemaPlan
