import SchemaPlan.Proofs.Edits

/-!
# What a successful replay did

The edits of `SchemaPlan.Proofs.Edits` change one table; operations and
artifacts change a schema. `Catalog.applyAll_eq_none_iff` leads from the one
to the other: operations on a live table succeed exactly when their edits do,
and then the table is put back in its place.

What a replay leaves alone is every other table: the schema without the table
of the operations is the same before and after them
(`Catalog.erase_of_applyAll`).
-/

namespace SchemaPlan

namespace Catalog

variable {catalog after : Catalog} {T : String} {table : LiveTable}

/-! ## Tables in their places -/

theorem name_of_table?_eq_some (h : catalog.table? T = some table) : table.name = T := by
  simpa using List.find?_some h

theorem putTable_of_find? {tables : List LiveTable}
    (h : tables.find? (fun t => t.name == T) = some table) : putTable table tables = tables := by
  have name : table.name = T := by simpa using List.find?_some h
  induction tables with
  | nil => simp at h
  | cons first rest ih =>
    rw [putTable]
    split
    · rename_i same
      rw [List.find?_cons, show (first.name == T) = true by simp [same, name]] at h
      cases h
      rfl
    · rename_i different
      rw [List.find?_cons, show (first.name == T) = false by simpa [← name] using different] at h
      rw [ih h]

/-- Putting a table where it is changes nothing. -/
theorem put_of_table? (h : catalog.table? T = some table) : catalog.put table = catalog :=
  congrArg Catalog.mk (putTable_of_find? h)

theorem putTable_putTable {a b : LiveTable} (h : a.name = b.name) (tables : List LiveTable) :
    putTable b (putTable a tables) = putTable b tables := by
  induction tables with
  | nil => simp [putTable, h]
  | cons first rest ih =>
    rw [putTable]
    split
    · rename_i same
      simp [putTable, same, h]
    · rename_i different
      have different' : ¬ first.name = b.name := h ▸ different
      simp [putTable, different', ih]

/-- Of two tables of one name the one that is put last counts, and it stands
where the first one stood. -/
theorem put_put {a b : LiveTable} (h : a.name = b.name) (catalog : Catalog) :
    (catalog.put a).put b = catalog.put b :=
  congrArg Catalog.mk (putTable_putTable h catalog.tables)

@[simp] theorem filter_putTable (table : LiveTable) (tables : List LiveTable) :
    (putTable table tables).filter (fun t => t.name != table.name) =
      tables.filter fun t => t.name != table.name := by
  induction tables with
  | nil => simp [putTable]
  | cons first rest ih =>
    rw [putTable]
    split
    · rename_i same
      simp [same]
    · simp [List.filter_cons, ih]

/-- Putting a table changes no other table: without the table of this name the
schema is the same. -/
@[simp] theorem erase_put (catalog : Catalog) (table : LiveTable) :
    (catalog.put table).erase table.name = catalog.erase table.name :=
  congrArg Catalog.mk (filter_putTable table catalog.tables)

/-- A table that is not there is put at the end. -/
theorem put_of_absent (h : catalog.table? table.name = none) :
    catalog.put table = ⟨catalog.tables ++ [table]⟩ := by
  have different := List.find?_eq_none.1 h
  refine congrArg Catalog.mk ?_
  generalize catalog.tables = tables at different
  induction tables with
  | nil => rfl
  | cons first rest ih =>
    rw [List.forall_mem_cons] at different
    rw [putTable, if_neg (by simpa using different.1), ih different.2]
    rfl

/-- Tables that have names of their own are put one behind the other, so a
schema that is filled table by table has them in the order in which they came.
-/
theorem foldl_put_of_nodup {tables : List LiveTable}
    (distinct : ((catalog.tables ++ tables).map fun t => t.name).Nodup) :
    tables.foldl Catalog.put catalog = ⟨catalog.tables ++ tables⟩ := by
  induction tables generalizing catalog with
  | nil =>
    rw [List.append_nil]
    rfl
  | cons table rest ih =>
    have absent : catalog.table? table.name = none := by
      rw [List.map_append, List.map_cons] at distinct
      refine List.find?_eq_none.2 fun other ho same => ?_
      exact (List.nodup_append.1 distinct).2.2 _ (List.mem_map_of_mem ho) _ List.mem_cons_self
        (eq_of_beq same)
    rw [List.append_cons] at distinct ⊢
    rw [List.foldl_cons, put_of_absent absent]
    exact ih distinct

/-- And removing it again leads back, which is how a creation is taken back. -/
theorem erase_put_of_absent (h : catalog.table? table.name = none) :
    (catalog.put table).erase table.name = catalog := by
  rw [erase_put]
  refine congrArg Catalog.mk (List.filter_eq_self.2 fun t ht => ?_)
  simpa using List.find?_eq_none.1 h t ht

@[simp] theorem erase_erase (catalog : Catalog) (T : String) :
    (catalog.erase T).erase T = catalog.erase T :=
  congrArg Catalog.mk (by simp [erase])

theorem column?_of_table? (h : catalog.table? T = some table) (n : String) :
    catalog.column? T n = table.column? n := by
  rw [column?, h]
  rfl

/-! ## Operations on a live table -/

theorem apply_of_table? (h : catalog.table? T = some table) {operation : Operation}
    (alters : operation ≠ .dropTable) :
    catalog.apply T operation =
      (catalog.put (table.editAll operation.edits).1, (table.editAll operation.edits).2) := by
  simp only [apply, h, if_neg alters]

/-- **Operations on a live table are edits of it**, and the table stays where
it is. -/
theorem applyAll_of_table? {operations : List Operation} (alters : .dropTable ∉ operations)
    (h : catalog.table? T = some table) :
    catalog.applyAll T operations =
      (catalog.put (table.editAll (operations.flatMap Operation.edits)).1,
        (table.editAll (operations.flatMap Operation.edits)).2) := by
  unfold applyAll
  induction operations generalizing catalog table with
  | nil =>
    show (catalog, none) = (catalog.put table, none)
    rw [put_of_table? h]
  | cons operation rest ih =>
    rw [List.mem_cons, not_or] at alters
    rw [runUntilFault, apply_of_table? h (Ne.symm alters.1), List.flatMap_cons,
      LiveTable.editAll, LiveTable.editAll, runUntilFault_append]
    rcases he : runUntilFault LiveTable.editOrKeep table operation.edits with ⟨next, _ | problem⟩
    · have name : next.name = table.name := LiveTable.name_of_editAll he
      have found : (catalog.put next).table? T = some next := by
        rw [← name_of_table?_eq_some h, ← name]
        exact table?_put_self catalog next
      -- the table that the first operation leaves is put back, and the run goes on from there
      show runUntilFault _ (catalog.put next) rest = _
      rw [ih alters.2 found]
      rcases hr : next.editAll (rest.flatMap Operation.edits) with ⟨last, problem⟩
      have later : runUntilFault LiveTable.editOrKeep next (rest.flatMap Operation.edits) =
          (last, problem) := hr
      simp only [later]
      rw [put_put ((LiveTable.name_of_editAll hr).symm)]
    · rfl

theorem applyAll_eq_none_iff {operations : List Operation} (alters : .dropTable ∉ operations)
    (h : catalog.table? T = some table) :
    catalog.applyAll T operations = (after, none) ↔
      ∃ changed, table.editAll (operations.flatMap Operation.edits) = (changed, none) ∧
        after = catalog.put changed := by
  rw [applyAll_of_table? alters h]
  rcases table.editAll (operations.flatMap Operation.edits) with ⟨changed, _ | problem⟩
  · simp [@eq_comm _ after]
  · simp

theorem exists_applyAll_iff {operations : List Operation} (alters : .dropTable ∉ operations)
    (h : catalog.table? T = some table) :
    (∃ after, catalog.applyAll T operations = (after, none)) ↔
      ∃ changed, table.editAll (operations.flatMap Operation.edits) = (changed, none) := by
  simp only [applyAll_eq_none_iff alters h]
  constructor
  · rintro ⟨after, changed, edited, -⟩
    exact ⟨changed, edited⟩
  · rintro ⟨changed, edited⟩
    exact ⟨_, changed, edited, rfl⟩

/-- Operations that succeed, if there are any, find their table: none of them
creates it. -/
theorem exists_table?_of_applyAll {operations : List Operation} (nonempty : operations ≠ [])
    (h : catalog.applyAll T operations = (after, none)) :
    ∃ table, catalog.table? T = some table := by
  cases operations with
  | nil => exact absurd rfl nonempty
  | cons operation rest =>
    obtain ⟨next, first, -⟩ := runUntilFault_cons_eq_none_iff.1 h
    rcases hf : catalog.table? T with _ | table
    · simp [apply, hf] at first
    · exact ⟨table, rfl⟩

/-! ## What a replay leaves alone -/

theorem erase_of_apply {operation : Operation} {problem : Option ReplayProblem}
    (h : catalog.apply T operation = (after, problem)) : after.erase T = catalog.erase T := by
  unfold apply at h
  split at h
  · cases h
    rfl
  · rename_i found hf
    split at h
    · cases h
      exact erase_erase catalog T
    · rcases he : found.editAll operation.edits with ⟨changed, p⟩
      rw [he] at h
      cases h
      have name : changed.name = T :=
        (LiveTable.name_of_editAll he).trans (name_of_table?_eq_some hf)
      rw [← name]
      exact erase_put catalog changed

/-- **Operations change no other table**, whether they succeed or not. It is
said by erasing the table: what is left is the same schema, with its other
tables in their order. -/
theorem erase_of_applyAll {operations : List Operation} {problem : Option ReplayProblem}
    (h : catalog.applyAll T operations = (after, problem)) : after.erase T = catalog.erase T :=
  eq_of_runUntilFault (fun c => c.erase T) (fun _ _ _ _ _ ha => erase_of_apply ha) h

/-! ## Artifacts -/

/-- An artifact that creates its table does so where there is none, and then
edits the empty table. -/
theorem applyArtifact_create_eq_none_iff {artifact : Artifact} (creates : artifact.kind = .create)
    (alters : .dropTable ∉ artifact.forward) :
    catalog.applyArtifact artifact = (after, none) ↔
      catalog.table? artifact.table = none ∧ ∃ changed,
        (LiveTable.mk artifact.table []).editAll (artifact.forward.flatMap Operation.edits) =
          (changed, none) ∧ after = catalog.put changed := by
  have found : (catalog.put ⟨artifact.table, []⟩).table? artifact.table =
      some ⟨artifact.table, []⟩ := table?_put_self catalog ⟨artifact.table, []⟩
  rw [applyArtifact, if_pos creates]
  rcases hf : catalog.table? artifact.table with _ | table
  · simp only [applyAll_eq_none_iff alters found, true_and]
    constructor
    · rintro ⟨changed, edited, rfl⟩
      exact ⟨changed, edited, put_put (LiveTable.name_of_editAll edited).symm catalog⟩
    · rintro ⟨changed, edited, rfl⟩
      exact ⟨changed, edited, (put_put (LiveTable.name_of_editAll edited).symm catalog).symm⟩
  · simp

theorem applyArtifact_of_alters {artifact : Artifact} (alters : artifact.kind ≠ .create) :
    catalog.applyArtifact artifact = catalog.applyAll artifact.table artifact.forward :=
  if_neg alters

/-- An artifact that is taken back by removing its table is taken back where there
is one. -/
theorem revertArtifact_of_dropTable {artifact : Artifact} (removes : artifact.inverse = [.dropTable])
    (h : catalog.table? artifact.table = some table) :
    catalog.revertArtifact artifact = (catalog.erase artifact.table, none) := by
  rw [revertArtifact, removes, applyAll, runUntilFault, apply, h]
  rfl

theorem erase_of_applyArtifact {artifact : Artifact} {problem : Option ReplayProblem}
    (h : catalog.applyArtifact artifact = (after, problem)) :
    after.erase artifact.table = catalog.erase artifact.table := by
  unfold applyArtifact at h
  split at h
  · split at h
    · cases h
      rfl
    · exact (erase_of_applyAll h).trans (erase_put catalog ⟨artifact.table, []⟩)
  · exact erase_of_applyAll h

/-- **Artifacts of one table change no other table**, whether they succeed or
not, and so the runs of different tables do not meet. -/
theorem erase_of_applyArtifacts {artifacts : List Artifact} {problem : Option ReplayProblem}
    (tables : ∀ artifact ∈ artifacts, artifact.table = T)
    (h : catalog.applyArtifacts artifacts = (after, problem)) : after.erase T = catalog.erase T := by
  refine eq_of_runUntilFault (fun c => c.erase T) (fun artifact member _ _ _ ha => ?_) h
  rw [← tables artifact member]
  exact erase_of_applyArtifact ha

/-- Artifacts that alter one table are their operations, one artifact after
the other. -/
theorem applyArtifacts_of_alters {artifacts : List Artifact}
    (alters : ∀ artifact ∈ artifacts, artifact.kind ≠ .create)
    (tables : ∀ artifact ∈ artifacts, artifact.table = T) :
    catalog.applyArtifacts artifacts = catalog.applyAll T (artifacts.flatMap Artifact.forward) := by
  unfold applyArtifacts applyAll
  induction artifacts generalizing catalog with
  | nil => rfl
  | cons artifact rest ih =>
    have name : artifact.table = T := tables artifact List.mem_cons_self
    rw [runUntilFault, List.flatMap_cons, runUntilFault_append,
      applyArtifact_of_alters (alters artifact List.mem_cons_self), name, applyAll]
    rcases runUntilFault _ catalog artifact.forward with ⟨next, _ | p⟩
    · exact ih (fun a ha => alters a (List.mem_cons_of_mem artifact ha))
        fun a ha => tables a (List.mem_cons_of_mem artifact ha)
    · rfl

end Catalog

end SchemaPlan
