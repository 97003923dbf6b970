import Mathlib.Data.List.Nodup
import SchemaPlan.Catalog.Replay
import SchemaPlan.TableDiff.Artifacts

/-!
# What a successful run of edits did

Replaying an artifact is a run of edits on one table. Here every such run is
read backwards: from the fact that it succeeded follow the preconditions that
held and the table that came out, so that no later proof opens an edit again.

The three runs that artifacts consist of have one statement each, and each is
an equivalence. A run of additions needs names that are free, a run of
removals needs columns whose foreign keys are as the removal expects them,
and a run of changes needs columns that exist. Read from right to left the
same statements say that a run succeeds, which is what taking an artifact
back needs.
-/

namespace SchemaPlan

/-! ## Runs of steps -/

section Runs

variable {σ α ε : Type} {step : σ → α → σ × Option ε} {s last : σ}

/-- A run succeeds when its first step does and, from where that ends, the
rest. Every induction over a run in this project begins with this step. -/
theorem runUntilFault_cons_eq_none_iff {a : α} {rest : List α} :
    runUntilFault step s (a :: rest) = (last, none) ↔
      ∃ next, step s a = (next, none) ∧ runUntilFault step next rest = (last, none) := by
  rw [runUntilFault]
  rcases step s a with ⟨next, _ | e⟩ <;> simp

/-- A run over two lists succeeds when it succeeds over the first and, from
where that ends, over the second. -/
theorem runUntilFault_append_eq_none_iff {first later : List α} :
    runUntilFault step s (first ++ later) = (last, none) ↔
      ∃ middle, runUntilFault step s first = (middle, none) ∧
        runUntilFault step middle later = (last, none) := by
  rw [runUntilFault_append]
  rcases runUntilFault step s first with ⟨next, _ | e⟩ <;> simp

/-- **What every step keeps, a run keeps**, whether it succeeds or not. The
induction on the steps is made here; what is observed is left open. -/
theorem eq_of_runUntilFault {β : Type} (observe : σ → β) {steps : List α} {problem : Option ε}
    (keeps : ∀ a ∈ steps, ∀ before after p, step before a = (after, p) →
      observe after = observe before)
    (h : runUntilFault step s steps = (last, problem)) : observe last = observe s := by
  induction steps generalizing s with
  | nil =>
    cases h
    rfl
  | cons a rest ih =>
    have later := fun d hd => keeps d (List.mem_cons_of_mem a hd)
    rw [runUntilFault] at h
    rcases first : step s a with ⟨next, _ | p⟩
    · rw [first] at h
      exact (ih later h).trans (keeps a List.mem_cons_self s next none first)
    · -- the run stops at this step, which still keeps what is observed
      rw [first] at h
      cases h
      exact keeps a List.mem_cons_self s _ _ first

/-- **What decides over every step decides over a run**: where the same is observed,
there is the same problem, or none, and the same is observed at the end. -/
theorem runUntilFault_congr {β : Type} (observe : σ → β) {t : σ} {steps : List α}
    (decides : ∀ a ∈ steps, ∀ s t, observe s = observe t →
      (step s a).2 = (step t a).2 ∧ observe (step s a).1 = observe (step t a).1)
    (h : observe s = observe t) :
    (runUntilFault step s steps).2 = (runUntilFault step t steps).2 ∧
      observe (runUntilFault step s steps).1 = observe (runUntilFault step t steps).1 := by
  induction steps generalizing s t with
  | nil => exact ⟨rfl, h⟩
  | cons a rest ih =>
    obtain ⟨problem, next⟩ := decides a List.mem_cons_self s t h
    rw [runUntilFault, runUntilFault]
    rcases hs : step s a with ⟨s', p⟩
    rcases ht : step t a with ⟨t', p'⟩
    rw [hs, ht] at problem next
    cases problem
    cases p with
    | none => exact ih (fun b hb => decides b (List.mem_cons_of_mem a hb)) next
    | some e => exact ⟨rfl, next⟩

end Runs

/-! ## The first column of a name -/

namespace LiveColumn

/-- A column with another type and another nullability. -/
def retyped (type : String) (nullable : Bool) (c : LiveColumn) : LiveColumn :=
  { c with type := type, nullable := nullable }

/-- A column without its foreign key. -/
def released (c : LiveColumn) : LiveColumn :=
  { c with foreign := none }

@[simp] theorem name_retyped (type : String) (nullable : Bool) (c : LiveColumn) :
    (retyped type nullable c).name = c.name := rfl

@[simp] theorem type_retyped (type : String) (nullable : Bool) (c : LiveColumn) :
    (retyped type nullable c).type = type := rfl

@[simp] theorem nullable_retyped (type : String) (nullable : Bool) (c : LiveColumn) :
    (retyped type nullable c).nullable = nullable := rfl

@[simp] theorem foreign_retyped (type : String) (nullable : Bool) (c : LiveColumn) :
    (retyped type nullable c).foreign = c.foreign := rfl

@[simp] theorem name_released (c : LiveColumn) : c.released.name = c.name := rfl

@[simp] theorem name_ofSpec (spec : ColumnSpec) : (ofSpec spec).name = spec.name := rfl

@[simp] theorem type_ofSpec (spec : ColumnSpec) :
    (ofSpec spec).type = TypeName.storage spec.kind := by
  dsimp only [ofSpec]

@[simp] theorem nullable_ofSpec (spec : ColumnSpec) : (ofSpec spec).nullable = spec.nullable := rfl

@[simp] theorem foreign_ofSpec (spec : ColumnSpec) : (ofSpec spec).foreign = spec.foreign := rfl

end LiveColumn

/-- The operations that add columns are the edits that add them. -/
@[simp] theorem Operation.flatMap_edits_addColumn (specs : List ColumnSpec) :
    (specs.map addColumn).flatMap edits = (specs.map LiveColumn.ofSpec).map .add := by
  rw [List.flatMap_map, List.map_map, List.map_eq_flatMap]
  rfl

namespace LiveTable

variable {table changed : LiveTable}

/-- The names of the columns, in order. -/
def columnNames (table : LiveTable) : List String :=
  table.columns.map fun c => c.name

theorem name_of_column?_eq_some {n : String} {c : LiveColumn} (h : table.column? n = some c) :
    c.name = n := by
  simpa using List.find?_some h

/-- A look-up fails exactly for names that no column has. -/
theorem column?_eq_none_iff {n : String} : table.column? n = none ↔ n ∉ table.columnNames := by
  unfold column? columnNames
  rw [List.find?_eq_none]
  simp

/-- Where names are distinct, a column is found by its name. Otherwise it may
stand behind another one of its name. -/
theorem column?_eq_some_of_mem (h : table.columnNames.Nodup) {c : LiveColumn}
    (hc : c ∈ table.columns) : table.column? c.name = some c := by
  rcases hf : table.column? c.name with _ | d
  · rw [column?_eq_none_iff] at hf
    exact absurd (List.mem_map_of_mem hc) hf
  · have hd : d ∈ table.columns := List.mem_of_find?_eq_some hf
    rw [List.inj_on_of_nodup_map h hd hc (name_of_column?_eq_some hf)]

/-- Changing the first column of a name is seen when this name is looked up,
because the look-up finds the first one as well; the next statement says that
it is not seen elsewhere. -/
theorem find?_changeFirst_self {change : LiveColumn → LiveColumn}
    (keeps : ∀ c, (change c).name = c.name) (n : String) (columns : List LiveColumn) :
    (changeFirst n change columns).find? (fun c => c.name == n) =
      (columns.find? fun c => c.name == n).map change := by
  induction columns with
  | nil => rfl
  | cons first rest ih =>
    rw [changeFirst]
    split
    · rename_i same
      simp [same, keeps]
    · rename_i different
      simp [different, ih]

theorem find?_changeFirst_of_ne {change : LiveColumn → LiveColumn}
    (keeps : ∀ c, (change c).name = c.name) {n other : String} (h : other ≠ n)
    (columns : List LiveColumn) :
    (changeFirst n change columns).find? (fun c => c.name == other) =
      columns.find? fun c => c.name == other := by
  induction columns with
  | nil => rfl
  | cons first rest ih =>
    rw [changeFirst]
    split
    · rename_i same
      have different : first.name ≠ other := fun h' => h (h' ▸ same)
      simp [keeps, different]
    · rw [List.find?_cons, List.find?_cons, ih]

/-- A change that keeps the name of a column keeps the names of all columns, in
their order. -/
theorem map_name_changeFirst {change : LiveColumn → LiveColumn}
    (keeps : ∀ c, (change c).name = c.name) (n : String) (columns : List LiveColumn) :
    (changeFirst n change columns).map (fun c => c.name) = columns.map fun c => c.name := by
  induction columns with
  | nil => rfl
  | cons first rest ih =>
    rw [changeFirst]
    split
    · simp [keeps]
    · simp [ih]

/-- A change of the columns of one name is not seen in a selection by name
that leaves them out. -/
theorem filter_changeFirst {change : LiveColumn → LiveColumn}
    (keeps : ∀ c, (change c).name = c.name) {keep : String → Bool} {n : String}
    (h : keep n = false) (columns : List LiveColumn) :
    (changeFirst n change columns).filter (fun c => keep c.name) =
      columns.filter fun c => keep c.name := by
  induction columns with
  | nil => rfl
  | cons first rest ih =>
    rw [changeFirst]
    split
    · rename_i same
      simp [keeps, same, h]
    · simp [List.filter_cons, ih]

/-- A selection by name is not seen by a look-up of a name that it keeps. -/
theorem find?_filter_name {keep : String → Bool} {n : String} (h : keep n = true)
    (columns : List LiveColumn) :
    (columns.filter fun c => keep c.name).find? (fun c => c.name == n) =
      columns.find? fun c => c.name == n := by
  rw [List.find?_filter]
  congr 1
  funext c
  by_cases same : c.name = n
  · simp [same, h]
  · simp [same]

/-! ## One edit -/

/-- **A column can be added exactly if its name is free**, and then it stands
at the end. This statement and the four after it say all that a single edit can
do; nothing later looks into an edit. -/
@[simp] theorem editOrKeep_add_eq_none_iff {c : LiveColumn} :
    table.editOrKeep (.add c) = (changed, none) ↔
      table.column? c.name = none ∧ changed = ⟨table.name, table.columns ++ [c]⟩ := by
  simp only [editOrKeep, edit]
  rcases table.column? c.name with _ | found <;> simp [@eq_comm _ changed]

/-- A column can be changed if it is there, and its foreign key stays as it is.
-/
@[simp] theorem editOrKeep_retype_eq_none_iff {n type : String} {nullable : Bool} :
    table.editOrKeep (.retype n type nullable) = (changed, none) ↔
      (table.column? n).isSome ∧
        changed = ⟨table.name, changeFirst n (LiveColumn.retyped type nullable) table.columns⟩ := by
  simp only [editOrKeep, edit]
  rcases table.column? n with _ | found
  · simp
  · simp only [Prod.mk.injEq, and_true, Option.isSome_some, true_and]
    exact eq_comm

/-- **A column can be removed exactly if it is there and has no foreign key.**
A foreign key has to be released by an edit of its own before. -/
@[simp] theorem editOrKeep_remove_eq_none_iff {n : String} :
    table.editOrKeep (.remove n) = (changed, none) ↔
      (∃ c, table.column? n = some c ∧ c.foreign.isSome = false) ∧
        changed = ⟨table.name, table.columns.filter fun c => c.name != n⟩ := by
  simp only [editOrKeep, edit]
  rcases table.column? n with _ | found
  · simp
  · rcases hf : found.foreign with _ | key <;> simp [hf, @eq_comm _ changed]

/-- A foreign key can be released exactly if there is one. -/
@[simp] theorem editOrKeep_release_eq_none_iff {n : String} :
    table.editOrKeep (.release n) = (changed, none) ↔
      (∃ c, table.column? n = some c ∧ c.foreign.isSome = true) ∧
        changed = ⟨table.name, changeFirst n LiveColumn.released table.columns⟩ := by
  simp only [editOrKeep, edit]
  rcases table.column? n with _ | found
  · simp
  · rcases hf : found.foreign with _ | key
    · simp [hf]
    · simp only [hf, Option.isSome_some, if_true, Prod.mk.injEq, and_true, Option.some.injEq,
        exists_eq_left', true_and]
      exact eq_comm

/-- An index asks for its columns and changes nothing. -/
@[simp] theorem editOrKeep_require_eq_none_iff {n : String} :
    table.editOrKeep (.require n) = (changed, none) ↔
      (table.column? n).isSome ∧ changed = table := by
  simp only [editOrKeep, edit]
  rcases table.column? n with _ | found <;> simp [@eq_comm _ changed]

/-- An edit that fails changes nothing. What a failed operation may have
changed was changed by the edits before. -/
theorem editOrKeep_eq_some {e : Edit} {problem : ReplayProblem}
    (h : table.editOrKeep e = (changed, some problem)) : changed = table := by
  unfold editOrKeep at h
  split at h
  · simp at h
  · simp only [Prod.mk.injEq] at h
    exact h.1.symm

end LiveTable

/-! ## What an edit leaves alone -/

/-- The column that an edit is about. An edit neither needs nor changes any
other. -/
def Edit.target : Edit → String
  | .add column => column.name
  | .retype column _ _ => column
  | .remove column => column
  | .release column => column
  | .require column => column

namespace LiveTable

variable {table changed : LiveTable}

/-- An edit changes the columns of a table and not its name. -/
theorem name_of_editOrKeep {e : Edit} {problem : Option ReplayProblem}
    (h : table.editOrKeep e = (changed, problem)) : changed.name = table.name := by
  rcases problem with _ | problem
  · cases e with
    | add c => rw [(editOrKeep_add_eq_none_iff.1 h).2]
    | retype n type nullable => rw [(editOrKeep_retype_eq_none_iff.1 h).2]
    | remove n => rw [(editOrKeep_remove_eq_none_iff.1 h).2]
    | release n => rw [(editOrKeep_release_eq_none_iff.1 h).2]
    | require n => rw [(editOrKeep_require_eq_none_iff.1 h).2]
  · rw [editOrKeep_eq_some h]

/-- An edit leaves the columns alone that it is not about, whether it succeeds
or fails. -/
theorem column?_of_editOrKeep {e : Edit} {problem : Option ReplayProblem} {n : String}
    (h : table.editOrKeep e = (changed, problem)) (hn : n ≠ e.target) :
    changed.column? n = table.column? n := by
  rcases problem with _ | problem
  · cases e with
    | add c =>
      have different : c.name ≠ n := fun h' => hn h'.symm
      rw [(editOrKeep_add_eq_none_iff.1 h).2, column?, List.find?_append]
      simp [column?, different]
    | retype m type nullable =>
      rw [(editOrKeep_retype_eq_none_iff.1 h).2]
      exact find?_changeFirst_of_ne (LiveColumn.name_retyped type nullable) hn table.columns
    | remove m =>
      have kept : (n != m) = true := bne_iff_ne.2 hn
      rw [(editOrKeep_remove_eq_none_iff.1 h).2]
      exact @find?_filter_name (fun name => name != m) n kept table.columns
    | release m =>
      rw [(editOrKeep_release_eq_none_iff.1 h).2]
      exact find?_changeFirst_of_ne LiveColumn.name_released hn table.columns
    | require m => rw [(editOrKeep_require_eq_none_iff.1 h).2]
  · rw [editOrKeep_eq_some h]

/-- A run of edits changes the columns of a table and not its name, whether it
succeeds or not. -/
theorem name_of_editAll {edits : List Edit} {problem : Option ReplayProblem}
    (h : table.editAll edits = (changed, problem)) : changed.name = table.name :=
  eq_of_runUntilFault LiveTable.name (fun _ _ _ _ _ he => name_of_editOrKeep he) h

/-- Edits of two lists succeed one list after the other. The operations of an
alteration are taken apart by this into those that add, change and remove. -/
theorem editAll_append_eq_none_iff {first later : List Edit} :
    table.editAll (first ++ later) = (changed, none) ↔
      ∃ middle, table.editAll first = (middle, none) ∧ middle.editAll later = (changed, none) :=
  runUntilFault_append_eq_none_iff

/-- Edits that follow a list that succeeds go on from where it ends. -/
theorem editAll_append {middle : LiveTable} {first : List Edit}
    (h : table.editAll first = (middle, none)) (later : List Edit) :
    table.editAll (first ++ later) = middle.editAll later := by
  have succeeded : runUntilFault editOrKeep table first = (middle, none) := h
  rw [editAll, runUntilFault_append, succeeded]
  rfl

/-! ## Three runs of edits -/

/-- **Columns can be added when their names are free and differ**, and then
they stand at the end of the table, in order. -/
theorem editAll_add_eq_none_iff {columns : List LiveColumn} :
    table.editAll (columns.map .add) = (changed, none) ↔
      ((∀ c ∈ columns, table.column? c.name = none) ∧ (columns.map fun c => c.name).Nodup) ∧
        changed = ⟨table.name, table.columns ++ columns⟩ := by
  unfold editAll
  induction columns generalizing table with
  | nil => simp [runUntilFault, eq_comm]
  | cons c rest ih =>
    have free : ∀ d : LiveColumn,
        (LiveTable.mk table.name (table.columns ++ [c])).column? d.name = none ↔
          table.column? d.name = none ∧ c.name ≠ d.name := by
      intro d
      simp [column?]
    rw [List.map_cons, runUntilFault_cons_eq_none_iff]
    constructor
    · rintro ⟨next, first, later⟩
      obtain ⟨absent, rfl⟩ := editOrKeep_add_eq_none_iff.1 first
      obtain ⟨⟨fresh, distinct⟩, rfl⟩ := ih.1 later
      refine ⟨⟨fun d hd => ?_, ?_⟩, by simp⟩
      · rcases List.mem_cons.1 hd with rfl | hd
        · exact absent
        · exact ((free d).1 (fresh d hd)).1
      · rw [List.map_cons, List.nodup_cons]
        refine ⟨fun repeated => ?_, distinct⟩
        obtain ⟨d, hd, same⟩ := List.mem_map.1 repeated
        exact ((free d).1 (fresh d hd)).2 same.symm
    · rintro ⟨⟨fresh, distinct⟩, rfl⟩
      rw [List.map_cons, List.nodup_cons] at distinct
      refine ⟨_, editOrKeep_add_eq_none_iff.2 ⟨fresh c List.mem_cons_self, rfl⟩,
        ih.2 ⟨⟨fun d hd => (free d).2 ⟨fresh d (List.mem_cons_of_mem c hd), fun same => ?_⟩,
          distinct.2⟩, by simp⟩⟩
      exact distinct.1 (List.mem_map.2 ⟨d, hd, same.symm⟩)

/-- **The operations that remove a column need its foreign key to be as they
expect it**: one that is to be dropped must be there, and none may be left. -/
theorem editAll_removal_eq_none_iff {spec : ColumnSpec} :
    table.editAll (spec.removal.flatMap Operation.edits) = (changed, none) ↔
      (∃ c, table.column? spec.name = some c ∧ c.foreign.isSome = spec.foreign.isSome) ∧
        changed = ⟨table.name, table.columns.filter fun c => c.name != spec.name⟩ := by
  unfold editAll ColumnSpec.removal
  rcases spec.foreign with _ | key
  · show runUntilFault editOrKeep table [.remove spec.name] = _ ↔ _
    rw [runUntilFault_cons_eq_none_iff]
    constructor
    · rintro ⟨next, first, rest⟩
      cases rest
      exact editOrKeep_remove_eq_none_iff.1 first
    · exact fun h => ⟨changed, editOrKeep_remove_eq_none_iff.2 h, rfl⟩
  · show runUntilFault editOrKeep table [.release spec.name, .remove spec.name] = _ ↔ _
    have released : (LiveTable.mk table.name
        (changeFirst spec.name LiveColumn.released table.columns)).column? spec.name =
          (table.column? spec.name).map LiveColumn.released :=
      find?_changeFirst_self LiveColumn.name_released spec.name table.columns
    have removed := @filter_changeFirst LiveColumn.released LiveColumn.name_released
      (fun name => name != spec.name) spec.name (bne_self_eq_false spec.name) table.columns
    rw [runUntilFault_cons_eq_none_iff]
    constructor
    · rintro ⟨next, first, later⟩
      obtain ⟨present, rfl⟩ := editOrKeep_release_eq_none_iff.1 first
      obtain ⟨last, second, rest⟩ := runUntilFault_cons_eq_none_iff.1 later
      obtain ⟨-, rfl⟩ := editOrKeep_remove_eq_none_iff.1 second
      cases rest
      exact ⟨present, congrArg (LiveTable.mk table.name) removed⟩
    · rintro ⟨⟨c, found, key⟩, rfl⟩
      refine ⟨_, editOrKeep_release_eq_none_iff.2 ⟨⟨c, found, key⟩, rfl⟩,
        runUntilFault_cons_eq_none_iff.2 ⟨_, editOrKeep_remove_eq_none_iff.2
          ⟨⟨c.released, ?_, rfl⟩, rfl⟩, ?_⟩⟩
      · rw [released, found]
        rfl
      · exact congrArg (fun columns => (LiveTable.mk table.name columns, none)) removed

/-- **Columns of different names can be removed when each has a foreign key
just where its removal drops one.** -/
theorem editAll_removals_eq_none_iff {specs : List ColumnSpec}
    (distinct : (specs.map fun spec => spec.name).Nodup) :
    table.editAll ((specs.flatMap ColumnSpec.removal).flatMap Operation.edits) = (changed, none) ↔
      (∀ spec ∈ specs, ∃ c, table.column? spec.name = some c ∧
        c.foreign.isSome = spec.foreign.isSome) ∧
      changed = ⟨table.name,
        table.columns.filter fun c => c.name ∉ specs.map fun spec => spec.name⟩ := by
  induction specs generalizing table with
  | nil => simp [editAll, runUntilFault, eq_comm]
  | cons spec rest ih =>
    rw [List.map_cons, List.nodup_cons] at distinct
    have others : ∀ d ∈ rest, (LiveTable.mk table.name
        (table.columns.filter fun c => c.name != spec.name)).column? d.name =
          table.column? d.name := by
      intro d hd
      have kept : (d.name != spec.name) = true :=
        bne_iff_ne.2 fun same => distinct.1 (same ▸ List.mem_map_of_mem hd)
      exact @find?_filter_name (fun name => name != spec.name) d.name kept table.columns
    have twice : (table.columns.filter fun c => c.name != spec.name).filter
        (fun c => c.name ∉ rest.map fun d => d.name) =
          table.columns.filter fun c => c.name ∉ (spec :: rest).map fun d => d.name := by
      rw [List.filter_filter]
      congr 1
      funext c
      by_cases same : c.name = spec.name <;> simp [same]
    rw [List.flatMap_cons, List.flatMap_append, editAll, runUntilFault_append_eq_none_iff]
    constructor
    · rintro ⟨next, first, later⟩
      obtain ⟨present, rfl⟩ := editAll_removal_eq_none_iff.1 first
      obtain ⟨presentLater, rfl⟩ := (ih distinct.2).1 later
      refine ⟨fun d hd => ?_, congrArg (LiveTable.mk table.name) twice⟩
      rcases List.mem_cons.1 hd with rfl | hd
      · exact present
      · rw [← others d hd]
        exact presentLater d hd
    · rintro ⟨present, rfl⟩
      refine ⟨_, editAll_removal_eq_none_iff.2 ⟨present spec List.mem_cons_self, rfl⟩,
        (ih distinct.2).2 ⟨fun d hd => ?_, congrArg (LiveTable.mk table.name) twice.symm⟩⟩
      rw [others d hd]
      exact present d (List.mem_cons_of_mem spec hd)

/-- Columns with the types and the nullabilities of specifications. -/
def retypeAll (specs : List ColumnSpec) (columns : List LiveColumn) : List LiveColumn :=
  specs.foldl (fun columns spec =>
    changeFirst spec.name (LiveColumn.retyped (TypeName.storage spec.kind) spec.nullable) columns)
    columns

/-- Changing the types of columns changes no name. -/
@[simp] theorem map_name_retypeAll (specs : List ColumnSpec) (columns : List LiveColumn) :
    (retypeAll specs columns).map (fun c => c.name) = columns.map fun c => c.name := by
  unfold retypeAll
  induction specs generalizing columns with
  | nil => rfl
  | cons spec rest ih =>
    rw [List.foldl_cons, ih, map_name_changeFirst (LiveColumn.name_retyped _ _)]

/-- A column that is not among the changed ones is found as it was; the next
statement says how a changed one is found. -/
theorem find?_retypeAll_of_notMem {specs : List ColumnSpec} {n : String}
    (hn : n ∉ specs.map fun spec => spec.name) (columns : List LiveColumn) :
    (retypeAll specs columns).find? (fun c => c.name == n) =
      columns.find? fun c => c.name == n := by
  unfold retypeAll
  induction specs generalizing columns with
  | nil => rfl
  | cons spec rest ih =>
    rw [List.map_cons, List.mem_cons, not_or] at hn
    rw [List.foldl_cons, ih hn.2, find?_changeFirst_of_ne (LiveColumn.name_retyped _ _) hn.1]

/-- Of specifications with different names each one says how its column is
changed. -/
theorem find?_retypeAll_of_mem {specs : List ColumnSpec}
    (distinct : (specs.map fun spec => spec.name).Nodup) {spec : ColumnSpec} (hs : spec ∈ specs)
    (columns : List LiveColumn) :
    (retypeAll specs columns).find? (fun c => c.name == spec.name) =
      (columns.find? fun c => c.name == spec.name).map
        (LiveColumn.retyped (TypeName.storage spec.kind) spec.nullable) := by
  induction specs generalizing columns with
  | nil => exact absurd hs List.not_mem_nil
  | cons first rest ih =>
    rw [List.map_cons, List.nodup_cons] at distinct
    show (retypeAll rest (changeFirst first.name _ columns)).find? _ = _
    rcases List.mem_cons.1 hs with rfl | hs
    · rw [find?_retypeAll_of_notMem distinct.1, find?_changeFirst_self (LiveColumn.name_retyped _ _)]
    · have different : spec.name ≠ first.name :=
        fun same => distinct.1 (same ▸ List.mem_map_of_mem hs)
      rw [ih distinct.2 hs, find?_changeFirst_of_ne (LiveColumn.name_retyped _ _) different]

/-- Changes are not seen in a selection by name that leaves their columns
out. -/
theorem filter_retypeAll {keep : String → Bool} {specs : List ColumnSpec}
    (h : ∀ spec ∈ specs, keep spec.name = false) (columns : List LiveColumn) :
    (retypeAll specs columns).filter (fun c => keep c.name) =
      columns.filter fun c => keep c.name := by
  induction specs generalizing columns with
  | nil => rfl
  | cons spec rest ih =>
    show (retypeAll rest (changeFirst spec.name _ columns)).filter _ = _
    rw [ih fun d hd => h d (List.mem_cons_of_mem spec hd),
      filter_changeFirst (LiveColumn.name_retyped _ _) (h spec List.mem_cons_self)]

/-- **Columns can be changed when they exist**, and nothing else is asked of
them; in particular a foreign key is not in the way. -/
theorem editAll_changes_eq_none_iff {specs : List ColumnSpec} :
    table.editAll ((specs.map Operation.changeColumn).flatMap Operation.edits) = (changed, none) ↔
      (∀ spec ∈ specs, (table.column? spec.name).isSome) ∧
        changed = ⟨table.name, retypeAll specs table.columns⟩ := by
  induction specs generalizing table with
  | nil => simp [editAll, runUntilFault, retypeAll, @eq_comm _ changed]
  | cons spec rest ih =>
    have kept : ∀ d : ColumnSpec, ((LiveTable.mk table.name (changeFirst spec.name
        (LiveColumn.retyped (TypeName.storage spec.kind) spec.nullable)
          table.columns)).column? d.name).isSome = (table.column? d.name).isSome := by
      intro d
      by_cases same : d.name = spec.name
      · rw [same, column?, find?_changeFirst_self (LiveColumn.name_retyped _ _), Option.isSome_map]
        rfl
      · rw [column?, find?_changeFirst_of_ne (LiveColumn.name_retyped _ _) same]
        rfl
    show runUntilFault editOrKeep table (.retype spec.name _ spec.nullable :: _) = _ ↔ _
    rw [runUntilFault_cons_eq_none_iff]
    constructor
    · rintro ⟨next, first, later⟩
      obtain ⟨present, rfl⟩ := editOrKeep_retype_eq_none_iff.1 first
      obtain ⟨presentLater, rfl⟩ := ih.1 later
      refine ⟨fun d hd => ?_, rfl⟩
      rcases List.mem_cons.1 hd with rfl | hd
      · exact present
      · rw [← kept d]
        exact presentLater d hd
    · rintro ⟨present, rfl⟩
      refine ⟨_, editOrKeep_retype_eq_none_iff.2 ⟨present spec List.mem_cons_self, rfl⟩,
        ih.2 ⟨fun d hd => ?_, rfl⟩⟩
      exact (kept d).trans (present d (List.mem_cons_of_mem spec hd))

end LiveTable

end SchemaPlan
