import SchemaPlan.Proofs.Creation
import SchemaPlan.Proofs.Declaration
import SchemaPlan.Proofs.Restoring
import SchemaPlan.Proofs.Run

/-!
# Taking a whole history back

A history is a sequence of runs, each planned against the schema that the one
before it has left and replayed on it. Taking all its artifacts back, the last
one first, never fails, and it leads to the schema that the history began
with, up to what `LiveColumn.Restores` leaves open.

The proof walks back run by run. What is kept is `Catalog.Restores`: the
schema on the way back restores the one that the way there went through,
table by table. A run that created its table is taken back by removing it, and
a run that altered one by `AlterationSpecs.restores`; no other table is
touched either way, so related lists of tables stay related.
-/

namespace SchemaPlan

/-! ## Schemas that are back -/

/-- **A schema is back**: it has the same tables in the same order, and each is
back. -/
def Catalog.Restores (dropped : String → String → Prop) (now before : Catalog) : Prop :=
  List.Forall₂ (fun a b : LiveTable => a.Restores (dropped b.name) b) now.tables before.tables

namespace Catalog.Restores

variable {dropped : String → String → Prop} {now before : Catalog} {T : String}

theorem refl (dropped : String → String → Prop) (catalog : Catalog) :
    catalog.Restores dropped catalog :=
  List.forall₂_same.2 fun table _ => .refl (dropped table.name) table

theorem forall₂_putTable {tables others : List LiveTable} {a b : LiveTable}
    (h : List.Forall₂ (fun a b : LiveTable => a.Restores (dropped b.name) b) tables others)
    (hab : a.Restores (dropped b.name) b) :
    List.Forall₂ (fun a b : LiveTable => a.Restores (dropped b.name) b)
      (putTable a tables) (putTable b others) := by
  induction h with
  | nil => exact .cons hab .nil
  | @cons first other rest others related later ih =>
    rw [putTable, putTable, related.name, hab.name]
    split
    · exact .cons hab later
    · exact .cons related ih

/-- A table that is back takes its place. -/
theorem put (h : now.Restores dropped before) {a b : LiveTable}
    (hab : a.Restores (dropped b.name) b) : (now.put a).Restores dropped (before.put b) :=
  forall₂_putTable h hab

theorem forall₂_erase {tables others : List LiveTable}
    (h : List.Forall₂ (fun a b : LiveTable => a.Restores (dropped b.name) b) tables others) :
    List.Forall₂ (fun a b : LiveTable => a.Restores (dropped b.name) b)
      (tables.filter fun t => t.name != T) (others.filter fun t => t.name != T) := by
  induction h with
  | nil => exact .nil
  | cons related _ ih =>
    rw [List.filter_cons, List.filter_cons, related.name]
    split
    · exact .cons related ih
    · exact ih

/-- Removing a table from both keeps a schema back. -/
theorem erase (h : now.Restores dropped before) (T : String) :
    (now.erase T).Restores dropped (before.erase T) :=
  forall₂_erase h

theorem exists_find? {tables others : List LiveTable}
    (h : List.Forall₂ (fun a b : LiveTable => a.Restores (dropped b.name) b) tables others)
    {table : LiveTable} (ht : others.find? (fun t => t.name == T) = some table) :
    ∃ back, tables.find? (fun t => t.name == T) = some back ∧
      back.Restores (dropped T) table := by
  induction h with
  | nil => cases ht
  | @cons first other rest others related later ih =>
    rw [List.find?_cons] at ht ⊢
    rw [related.name]
    cases same : other.name == T with
    | true =>
      rw [same] at ht
      cases ht
      rw [← beq_iff_eq.1 same]
      exact ⟨first, rfl, related⟩
    | false =>
      rw [same] at ht
      exact ih ht

/-- A table that was live is live again. -/
theorem exists_table? (h : now.Restores dropped before) {table : LiveTable}
    (ht : before.table? T = some table) :
    ∃ back, now.table? T = some back ∧ back.Restores (dropped T) table :=
  exists_find? h ht

end Catalog.Restores

/-! ## The way back -/

namespace Catalog

/-- Takes the changes of artifacts back, that of the last one first, up to
the first that fails. -/
def revertArtifacts (catalog : Catalog) (artifacts : List Artifact) :
    Catalog × Option ReplayProblem :=
  runUntilFault revertArtifact catalog artifacts.reverse

theorem revertArtifacts_append_eq_none_iff {catalog reverted : Catalog}
    {first later : List Artifact} :
    catalog.revertArtifacts (first ++ later) = (reverted, none) ↔
      ∃ middle, catalog.revertArtifacts later = (middle, none) ∧
        middle.revertArtifacts first = (reverted, none) := by
  unfold revertArtifacts
  rw [List.reverse_append]
  exact runUntilFault_append_eq_none_iff

/-- Artifacts of one table are taken back by their inverse operations. -/
theorem revertArtifacts_eq {catalog : Catalog} {T : String} {artifacts : List Artifact}
    (tables : ∀ artifact ∈ artifacts, artifact.table = T) :
    catalog.revertArtifacts artifacts =
      catalog.applyAll T (artifacts.reverse.flatMap Artifact.inverse) := by
  have tables' : ∀ artifact ∈ artifacts.reverse, artifact.table = T :=
    fun artifact ha => tables artifact (List.mem_reverse.1 ha)
  unfold revertArtifacts applyAll
  generalize artifacts.reverse = backwards at tables'
  induction backwards generalizing catalog with
  | nil => rfl
  | cons artifact rest ih =>
    have later : ∀ a ∈ rest, a.table = T := fun a ha => tables' a (List.mem_cons_of_mem artifact ha)
    rw [runUntilFault, List.flatMap_cons, runUntilFault_append, revertArtifact,
      tables' artifact List.mem_cons_self, applyAll]
    rcases runUntilFault _ catalog artifact.inverse with ⟨next, _ | p⟩
    · exact ih later
    · rfl

end Catalog

/-- Whether one of the artifacts drops a column of a table. -/
def DropsColumn (artifacts : List Artifact) (table column : String) : Prop :=
  ∃ artifact ∈ artifacts, artifact.kind = .dropColumns ∧ artifact.table = table ∧
    .dropColumn column ∈ artifact.forward

variable {dropped : String → String → Prop} {now before after : Catalog} {decl : TableDecl}
  {artifacts : List Artifact}

/-- A column that specifications drop is dropped by one of their artifacts. -/
theorem dropsColumn_of_bodies {specs : AlterationSpecs} {T n : String}
    (bodies : artifacts.map Artifact.body = specs.bodies)
    (tables : ∀ artifact ∈ artifacts, artifact.table = T) (hn : n ∈ specs.droppedNames) :
    DropsColumn artifacts T n := by
  obtain ⟨pair, hp, rfl⟩ := List.mem_map.1 hn
  have operation : Operation.dropColumn pair.1.name ∈ specs.removals :=
    List.mem_flatMap.2 ⟨pair, hp, List.mem_append_right _ (List.mem_singleton.2 rfl)⟩
  have nonempty : specs.removals.isEmpty = false := by
    rw [← Bool.not_eq_true, List.isEmpty_iff]
    intro none
    rw [none] at operation
    cases operation
  have single (inverse : List Operation) :
      TableDiff.bodyOf .dropColumns specs.removals inverse =
        [⟨.dropColumns, specs.removals, inverse⟩] := by
    rw [TableDiff.bodyOf, nonempty]
    rfl
  have body : ∃ inverse,
      (⟨.dropColumns, specs.removals, inverse⟩ : ArtifactBody) ∈ artifacts.map Artifact.body := by
    rw [bodies, AlterationSpecs.bodies, single]
    exact ⟨_, List.mem_append_right _ (List.mem_singleton.2 rfl)⟩
  obtain ⟨inverse, member⟩ := body
  obtain ⟨artifact, ha, same⟩ := List.mem_map.1 member
  have kind : artifact.kind = .dropColumns := congrArg ArtifactBody.kind same
  have forward : artifact.forward = specs.removals := congrArg ArtifactBody.forward same
  exact ⟨artifact, ha, kind, tables artifact ha, forward ▸ operation⟩

/-- **A run that altered its table can be taken back.** -/
theorem revert_of_altered {options : DiffOptions} {specs : AlterationSpecs} {table : LiveTable}
    (described : specs.Describes options before decl) (distinct : decl.columnNames.Nodup)
    (live : before.table? decl.name = some table)
    (bodies : artifacts.map Artifact.body = specs.bodies)
    (tables : ∀ artifact ∈ artifacts, artifact.table = decl.name)
    (fresh : ∀ spec ∈ specs.added, table.column? spec.name = none)
    (linked : ∀ pair ∈ specs.dropped, ∃ c, table.column? pair.1.name = some c ∧
      c.foreign.isSome = pair.1.foreign.isSome)
    (drops : ∀ T n, DropsColumn artifacts T n → dropped T n)
    (h : now.Restores dropped (before.put (specs.altered table))) :
    ∃ reverted, now.revertArtifacts artifacts = (reverted, none) ∧
      reverted.Restores dropped before := by
  have separate := described.separate distinct
  have recalls := described.recalls live
  have name : table.name = decl.name := Catalog.name_of_table?_eq_some live
  have found : (before.put (specs.altered table)).table? decl.name = some (specs.altered table) :=
    name ▸ Catalog.table?_put_self before (specs.altered table)
  obtain ⟨back, hb, restored⟩ := h.exists_table? found
  have operations : artifacts.reverse.flatMap Artifact.inverse = specs.inverse.operations := by
    rw [← specs.operations_inverse, ← bodies, ← List.map_reverse, List.flatMap_map]
    rfl
  rw [Catalog.revertArtifacts_eq tables, operations]
  refine ⟨now.put (specs.inverse.altered back),
    (Catalog.applyAll_eq_none_iff specs.inverse.dropTable_notMem_operations hb).2
      ⟨_, AlterationSpecs.editAll_inverse separate recalls fresh restored, rfl⟩, ?_⟩
  have led : (specs.inverse.altered back).Restores (dropped table.name) table := by
    rw [name]
    exact AlterationSpecs.restores separate recalls fresh linked
      (fun n hn => drops decl.name n (dropsColumn_of_bodies bodies tables hn)) restored
  -- putting the table back into the altered schema gives the one before
  have same : (before.put (specs.altered table)).put table = before := by
    rw [@Catalog.put_put (specs.altered table) table rfl before, Catalog.put_of_table? live]
  rw [← same]
  exact h.put led

/-- A run that created its table is taken back by removing it. -/
theorem revert_of_created {specs : List ColumnSpec} {artifact : Artifact} {table : LiveTable}
    (absent : before.table? table.name = none) (name : artifact.table = table.name)
    (body : artifact.body = TableDiff.creationOf decl specs)
    (h : now.Restores dropped (before.put table)) :
    ∃ reverted, now.revertArtifacts [artifact] = (reverted, none) ∧
      reverted.Restores dropped before := by
  obtain ⟨back, hb, -⟩ := h.exists_table? (Catalog.table?_put_self before table)
  have step : now.revertArtifact artifact = (now.erase table.name, none) :=
    name ▸ Catalog.revertArtifact_of_dropTable (congrArg ArtifactBody.inverse body) (name ▸ hb)
  refine ⟨now.erase table.name, runUntilFault_cons_eq_none_iff.2 ⟨_, step, rfl⟩, ?_⟩
  have erased := h.erase table.name
  rw [Catalog.erase_put_of_absent absent] at erased
  exact erased

/-! ## Histories -/

/-- **Runs one after the other**, each planned against the schema that the one
before it has left and replayed on it, with any archive, any options, any
declaration and at any time; with the artifacts of all of them. -/
inductive History (first : Catalog) : List Artifact → Catalog → Prop
  /-- Nothing has happened. -/
  | start : History first [] first
  /-- One more run. -/
  | run {made : List Artifact} {current last : Catalog} (history : History first made current)
    {σ : Type} (archive : Archive (StateM σ)) (s : σ) (options : RunOptions) (now : Instant)
    (text : String) (outcome : Outcome)
    (ran : ((archive.generate options (.online current) now text).run s).1.result = .ok outcome)
    (applied : current.applyArtifacts (outcome.artifacts.map StoredArtifact.artifact) =
      (last, none)) :
    History first (made ++ outcome.artifacts.map StoredArtifact.artifact) last

/-- **One run can be taken back.** -/
theorem revert_of_run {σ : Type} {archive : Archive (StateM σ)} {s : σ} {options : RunOptions}
    {time : Instant} {text : String} {outcome : Outcome}
    (ran : ((archive.generate options (.online before) time text).run s).1.result = .ok outcome)
    (applied : before.applyArtifacts (outcome.artifacts.map StoredArtifact.artifact) =
      (after, none))
    (drops : ∀ T n, DropsColumn (outcome.artifacts.map StoredArtifact.artifact) T n → dropped T n)
    (h : now.Restores dropped after) :
    ∃ reverted, now.revertArtifacts (outcome.artifacts.map StoredArtifact.artifact) =
      (reverted, none) ∧ reverted.Restores dropped before := by
  cases outcome with
  | upToDate =>
    cases applied
    exact ⟨now, rfl, h⟩
  | generated stored =>
    obtain ⟨decl, -, -, parsed, -⟩ := Archive.of_generated ran
    have distinct : decl.columnNames.Nodup := TableDecl.nodup_columnNames_of_parse parsed
    obtain ⟨nonempty, tableExists, diff, -, compared, made⟩ :=
      Archive.of_generated_online parsed ran
    cases tableExists with
    | false =>
      cases compared
      obtain ⟨specs, artifact, table, -, single, name, body, absent, rfl, -, rfl⟩ :=
        TableDiff.exists_created made applied
      show ∃ reverted, now.revertArtifacts (stored.map StoredArtifact.artifact) = _ ∧ _
      rw [single]
      exact revert_of_created absent name body h
    | true =>
      have nonempty' : (stored.map StoredArtifact.artifact) ≠ [] :=
        fun none => nonempty (List.map_eq_nil_iff.1 none)
      obtain ⟨specs, table, described, live, rfl, bodies, tables, fresh, linked⟩ :=
        TableDiff.exists_altered compared made nonempty' distinct applied
      exact revert_of_altered described distinct live bodies tables fresh linked drops h

/-- **A history can be taken back**, from every schema that restores its
last one. -/
theorem revert_of_restores {first last : Catalog} {made : List Artifact}
    (history : History first made last) (drops : ∀ T n, DropsColumn made T n → dropped T n)
    (h : now.Restores dropped last) :
    ∃ reverted, now.revertArtifacts made = (reverted, none) ∧
      reverted.Restores dropped first := by
  induction history generalizing now with
  | start => exact ⟨now, rfl, h⟩
  | run history archive s options time text outcome ran applied ih =>
    have earlier : ∀ T n, DropsColumn _ T n → dropped T n := fun T n hd =>
      drops T n (hd.imp fun _ ha => ⟨List.mem_append_left _ ha.1, ha.2⟩)
    have latest : ∀ T n, DropsColumn _ T n → dropped T n := fun T n hd =>
      drops T n (hd.imp fun _ ha => ⟨List.mem_append_right _ ha.1, ha.2⟩)
    -- the last run is taken back first, and the runs before it from where that leads
    obtain ⟨middle, step, restored⟩ := revert_of_run ran applied latest h
    obtain ⟨reverted, rest, back⟩ := ih earlier restored
    exact ⟨reverted, Catalog.revertArtifacts_append_eq_none_iff.2 ⟨middle, step, rest⟩, back⟩

/-! ## What is back at the end -/

/-- A column as it was, or with its type spelled by its canonical name, which
is what a comparison remembers of a type. -/
def LiveColumn.Respells (now before : LiveColumn) : Prop :=
  now = before ∨ now = { before with type := TypeName.canonical before.type }

theorem LiveColumn.Restores.respells {now before : LiveColumn} {D : Prop}
    (h : now.Restores D before) (kept : ¬ D) : now.Respells before := by
  obtain ⟨name, type, nullable, foreign⟩ := now
  obtain ⟨name', type', nullable', foreign'⟩ := before
  obtain rfl : name = name' := h.name
  obtain rfl : nullable = nullable' := h.nullable
  obtain rfl : foreign = foreign' := h.foreign kept
  exact (h.type kept).imp (fun same => congrArg (LiveColumn.mk name · nullable foreign) same)
    fun same => congrArg (LiveColumn.mk name · nullable foreign) same

theorem forall₂_of_names {R : LiveColumn → LiveColumn → Prop} {columns others : List LiveColumn}
    (names : columns.map (fun c => c.name) = others.map fun c => c.name)
    (related : ∀ c ∈ columns, ∀ d ∈ others, c.name = d.name → R c d) :
    List.Forall₂ R columns others := by
  induction columns generalizing others with
  | nil =>
    cases List.map_eq_nil_iff.1 names.symm
    exact .nil
  | cons c rest ih =>
    cases others with
    | nil => cases names
    | cons d later =>
      obtain ⟨same, names⟩ := List.cons.inj names
      refine .cons (related c List.mem_cons_self d List.mem_cons_self same)
        (ih names fun e he f hf => ?_)
      exact related e (List.mem_cons_of_mem c he) f (List.mem_cons_of_mem d hf)

namespace LiveTable.Restores

variable {dropped : String → Prop} {now before : LiveTable}

theorem perm_columnNames (h : now.Restores dropped before) (distinct : before.columnNames.Nodup) :
    now.columnNames.Perm before.columnNames := by
  refine (List.perm_ext_iff_of_nodup (h.distinct distinct) distinct).2 fun n => ?_
  rw [← not_iff_not, ← column?_eq_none_iff, ← column?_eq_none_iff]
  have related := h.columns n
  constructor
  · intro absent
    rw [absent] at related
    generalize before.column? n = c at related ⊢
    cases related
    rfl
  · exact h.column?_eq_none

/-- Where no column was dropped in between, the columns are back in their
order. -/
theorem forall₂_respells (h : now.Restores dropped before) (distinct : before.columnNames.Nodup)
    (kept : ∀ n, ¬ dropped n) :
    List.Forall₂ LiveColumn.Respells now.columns before.columns := by
  refine forall₂_of_names (h.ordered kept) fun c hc d hd same => ?_
  have related := h.columns d.name
  rw [column?_eq_some_of_mem distinct hd, ← same,
    column?_eq_some_of_mem (h.distinct distinct) hc] at related
  cases related with
  | some restored => exact restored.respells (kept c.name)

end LiveTable.Restores

/-- **Every history can be taken back.** From the schema that a history of runs
leads to, taking all artifacts back, the last one first, never fails. It leads
to a schema with the tables of the first one in their order. Each has the same
column names, and each column the same nullability and a foreign key where it
had one, and, unless an artifact of the history dropped it, the same foreign
key and the same canonical type. If no artifact dropped columns, all columns
are back in their order and as they were, but for types that are spelled by
their canonical names. -/
theorem history_can_be_reverted {first last : Catalog} {made : List Artifact}
    (distinct : ∀ table ∈ first.tables, table.columnNames.Nodup)
    (history : History first made last) :
    ∃ reverted, last.revertArtifacts made = (reverted, none) ∧
      List.Forall₂ (fun now before : LiveTable =>
          now.name = before.name ∧ now.columnNames.Perm before.columnNames ∧
          ∀ n, Option.Rel (LiveColumn.Restores (DropsColumn made before.name n))
            (now.column? n) (before.column? n))
        reverted.tables first.tables ∧
      ((∀ artifact ∈ made, artifact.kind ≠ .dropColumns) →
        List.Forall₂ (fun now before : LiveTable =>
            now.name = before.name ∧ List.Forall₂ LiveColumn.Respells now.columns before.columns)
          reverted.tables first.tables) := by
  obtain ⟨reverted, back, restored⟩ :=
    revert_of_restores history (fun _ _ => id) (.refl (DropsColumn made) last)
  have both : List.Forall₂ (fun now before : LiveTable =>
      before.columnNames.Nodup ∧ now.Restores (DropsColumn made before.name) before)
        reverted.tables first.tables :=
    ((List.forall₂_and_left first.tables reverted.tables).2 ⟨distinct, restored.flip⟩).flip
  refine ⟨reverted, back, both.imp fun now before h => ?_, fun undropped => ?_⟩
  · exact ⟨h.2.name, h.2.perm_columnNames h.1, h.2.columns⟩
  · refine both.imp fun now before h => ⟨h.2.name, h.2.forall₂_respells h.1 fun n => ?_⟩
    rintro ⟨artifact, ha, kind, -⟩
    exact undropped artifact ha kind

namespace NotesAndOrders

/-- Notes, and orders that refer to them. -/
def initial : Catalog :=
  ⟨[⟨"notes", [⟨"body", "varchar(255)", false, none⟩]⟩,
    ⟨"orders", [⟨"title", "varchar(255)", false, none⟩,
      ⟨"note_id", "bigint", false, some ⟨"notes", "id", some .cascade, none⟩⟩,
      ⟨"paid", "tinyint(1)", true, none⟩]⟩]⟩

/-- The notes have become longer and have a tag. -/
def tagged : Catalog :=
  ⟨[⟨"notes", [⟨"body", "text", false, none⟩, ⟨"tag", "string", false, none⟩]⟩,
    ⟨"orders", [⟨"title", "varchar(255)", false, none⟩,
      ⟨"note_id", "bigint", false, some ⟨"notes", "id", some .cascade, none⟩⟩,
      ⟨"paid", "tinyint(1)", true, none⟩]⟩]⟩

/-- The orders have only their title left. -/
def reduced : Catalog :=
  ⟨[⟨"notes", [⟨"body", "text", false, none⟩, ⟨"tag", "string", false, none⟩]⟩,
    ⟨"orders", [⟨"title", "varchar(255)", false, none⟩]⟩]⟩

/-- There are labels as well. -/
def labelled : Catalog :=
  ⟨reduced.tables ++
    [⟨"labels", [⟨"id", "bigint", false, none⟩, ⟨"name", "string", false, none⟩]⟩]⟩

/-- The result of a run over an empty archive. -/
def run (current : Catalog) (text : String) : Except Fault Outcome :=
  (((Archive.memory 2).generate ⟨false, .standard⟩ (.online current) LongerNotes.start text).run
    []).1.result

/-- The artifacts of a run are of such kinds for such tables, and they lead from
one schema to another. -/
def leads (current next : Catalog) (made : List (ArtifactKind × String)) (outcome : Outcome) :
    Bool :=
  outcome.artifacts.map (fun entry => (entry.artifact.kind, entry.artifact.table)) == made &&
    current.applyArtifacts (outcome.artifacts.map StoredArtifact.artifact) == (next, none)

theorem notes_run : (run initial "notes,body:text,tag:string").toOption.any
    (leads initial tagged [(.addColumns, "notes"), (.modifyColumns, "notes")]) = true := by
  decide +kernel

theorem orders_run :
    (run tagged "orders,note_id:foreignId:drop,paid:boolean:drop").toOption.any
      (leads tagged reduced [(.dropColumns, "orders")]) = true := by
  decide +kernel

theorem labels_run : (run reduced "labels,name:string").toOption.any
    (leads reduced labelled [(.create, "labels")]) = true := by
  decide +kernel

/-- A history goes on with a run. -/
theorem exists_history {current next : Catalog} {earlier : List Artifact}
    {told made : List (ArtifactKind × String)} {text : String}
    (h : (run current text).toOption.any (leads current next made) = true)
    (history : History initial earlier current ∧
      earlier.map (fun artifact => (artifact.kind, artifact.table)) = told) :
    ∃ later, History initial later next ∧
      later.map (fun artifact => (artifact.kind, artifact.table)) = told ++ made := by
  obtain ⟨outcome, ran, led⟩ := exists_eq_ok_of_any h
  rw [leads, Bool.and_eq_true, beq_iff_eq, beq_iff_eq] at led
  refine ⟨_, .run history.1 (Archive.memory 2) [] ⟨false, .standard⟩ LongerNotes.start text outcome
    ran led.2, ?_⟩
  rw [List.map_append, history.2, List.map_map]
  exact congrArg (told ++ ·) led.1

end NotesAndOrders

/-- Notes become longer and get a tag, orders lose two columns, one of them with
its foreign key, and labels are new. The four artifacts of these three runs are
taken back. Of the first run alone, without the tag, the columns come back in
their order. -/
theorem history_can_be_reverted_notes :
    (∃ made reverted, made.map (fun artifact => (artifact.kind, artifact.table)) =
        [(.addColumns, "notes"), (.modifyColumns, "notes"), (.dropColumns, "orders"),
          (.create, "labels")] ∧
      NotesAndOrders.labelled.revertArtifacts made = (reverted, none) ∧
      List.Forall₂ (fun now before : LiveTable =>
          now.name = before.name ∧ now.columnNames.Perm before.columnNames ∧
          ∀ n, Option.Rel (LiveColumn.Restores (DropsColumn made before.name n))
            (now.column? n) (before.column? n))
        reverted.tables NotesAndOrders.initial.tables) ∧
    ∃ reverted, LongerNotes.after.revertArtifacts [LongerNotes.artifact] = (reverted, none) ∧
      List.Forall₂ (fun now before : LiveTable =>
          now.name = before.name ∧ List.Forall₂ LiveColumn.Respells now.columns before.columns)
        reverted.tables LongerNotes.before.tables := by
  constructor
  · obtain ⟨_, notes⟩ := NotesAndOrders.exists_history NotesAndOrders.notes_run ⟨.start, rfl⟩
    obtain ⟨_, orders⟩ := NotesAndOrders.exists_history NotesAndOrders.orders_run notes
    obtain ⟨made, history, told⟩ := NotesAndOrders.exists_history NotesAndOrders.labels_run orders
    have distinct : ∀ table ∈ NotesAndOrders.initial.tables, table.columnNames.Nodup := by decide
    obtain ⟨reverted, back, restored, -⟩ := history_can_be_reverted distinct history
    exact ⟨made, reverted, told, back, restored⟩
  · obtain ⟨stored, generated, single⟩ := LongerNotes.exists_stored
    have applied : LongerNotes.before.applyArtifacts
        ((Outcome.generated stored).artifacts.map StoredArtifact.artifact) =
          (LongerNotes.after, none) := by
      rw [Outcome.artifacts, single]
      exact LongerNotes.applied
    have distinct : ∀ table ∈ LongerNotes.before.tables, table.columnNames.Nodup := by decide
    obtain ⟨reverted, back, -, undropped⟩ := history_can_be_reverted distinct
      (History.run .start (Archive.memory 1) [] ⟨false, .standard⟩ LongerNotes.start
        LongerNotes.text (.generated stored) generated applied)
    rw [Outcome.artifacts, single] at back undropped
    refine ⟨reverted, back, undropped fun artifact ha => ?_⟩
    rw [List.mem_singleton.1 ha]
    exact ArtifactKind.noConfusion

end SchemaPlan
