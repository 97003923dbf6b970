import SchemaPlan.Proofs.Alteration
import SchemaPlan.Proofs.Creation
import SchemaPlan.Proofs.Declaration
import SchemaPlan.Proofs.Run

/-!
# A declaration is reached in one run

After a run whose artifacts are replayed, the live schema is as the
declaration wants it, and a second run has nothing left to do. What the
declaration wants is `TableDecl.Settled`; it speaks of the declared columns
that the framework does not look after. The proof goes through it in both
directions: an alteration and a creation each lead to a settled schema
(`settled_of_altered`, `settled_of_created`), and in a settled schema every
verdict is to do nothing (`TableDecl.Settled.verdict`).

The storage type of a kind is accepted by the kind
(`TypeName.agrees_storage`), which is what makes the two meet.
-/

namespace SchemaPlan

/-- **The live schema is as a declaration wants it**: the table is live, a
column that is to be kept has the declared nullability and a type that stands
for the declared kind, and one that is marked for removal is gone. Nothing is
said of the columns of the given names. -/
structure TableDecl.Settled (decl : TableDecl) (systemColumns : List String)
    (catalog : Catalog) : Prop where
  /-- The table is live. -/
  live : (catalog.table? decl.name).isSome
  /-- A column that is to be kept is as declared. -/
  present : ∀ c ∈ decl.columns, c.name ∉ systemColumns → c.isMarkedForDrop = false →
    ∃ found, catalog.column? decl.name c.name = some found ∧ found.nullable = c.isNullable ∧
      TypeName.agrees c.kind found.type = true
  /-- A column that is marked for removal is gone. -/
  absent : ∀ c ∈ decl.columns, c.name ∉ systemColumns → c.isMarkedForDrop = true →
    catalog.column? decl.name c.name = none

/-! ## A settled schema has nothing to do -/

namespace TableDecl.Settled

variable {decl : TableDecl} {options : DiffOptions} {catalog : Catalog}

theorem verdict (h : decl.Settled options.systemColumns catalog) {c : ColumnDecl}
    (hc : c ∈ decl.columns) :
    TableDiff.verdict options catalog decl.name c = some .unchanged ∨
      TableDiff.verdict options catalog decl.name c = none := by
  by_cases system : c.name ∈ options.systemColumns
  · exact .inl (TableDiff.verdict_of_system system)
  · rw [TableDiff.verdict_of_not_system system]
    cases marked : c.isMarkedForDrop with
    | false =>
      obtain ⟨found, present, nullable, agrees⟩ := h.present c hc system marked
      exact .inl (TableDiff.actionFor_eq_unchanged_iff.2
        ⟨found, present, marked, agrees, nullable.symm⟩)
    | true =>
      exact .inr (TableDiff.actionFor_eq_none_iff.2 ⟨h.absent c hc system marked, marked⟩)

/-- **In a settled schema a declaration calls for no artifacts**, whatever
names are listed and whatever the time. -/
theorem requested_eq_nil (h : decl.Settled options.systemColumns catalog)
    (lenient : options.strictDrops = false) {text : String}
    (parsed : TableDecl.parse text = .ok decl) (names : List String) (now : Instant) :
    Archive.requested options (.ok names) (.online catalog) now text = .ok [] := by
  obtain ⟨diff, compared⟩ := TableDiff.exists_alteration_of_lenient lenient decl
  obtain ⟨-, alters, changes⟩ := TableDiff.changes_of_alteration compared
  have upToDate : diff.isUpToDate = true := by
    rw [TableDiff.isUpToDate, alters, changes, Bool.and_eq_true, List.all_eq_true]
    refine ⟨rfl, fun change hm => ?_⟩
    obtain ⟨c, hc, called⟩ := List.mem_filterMap.1 hm
    rcases h.verdict hc with hv | hv
    · rw [hv] at called
      cases called
      rfl
    · rw [hv] at called
      cases called
  have found : Plan.findsTable names (.online catalog) decl.name = .ok true := by
    simp [h.live]
  have made : Plan.make options names (.online catalog) decl = .ok ⟨decl, true, diff⟩ :=
    Plan.make_eq_ok_iff.2 ⟨true, diff, found, compared, rfl⟩
  have planned : Plan.artifacts ⟨decl, true, diff⟩ now = .ok [] := if_pos upToDate
  exact Archive.requested_eq_ok_iff.2 ⟨decl, names, _, parsed, rfl, made, planned⟩

/-- **A run over a settled schema asks for the stored names and has nothing else
to do.** -/
theorem run_generate (h : decl.Settled options.systemColumns catalog)
    (lenient : options.strictDrops = false) {text : String}
    (parsed : TableDecl.parse text = .ok decl) {σ : Type} (archive : Archive (StateM σ)) (s : σ)
    (trial : Bool) (now : Instant) :
    (archive.generate ⟨trial, options⟩ (.online catalog) now text).run s =
      match archive.names.run s with
      | (.ok _, listed) => (⟨[], .ok .upToDate, []⟩, listed)
      | (.error fault, listed) => (.stopped fault, listed) := by
  rcases hn : archive.names.run s with ⟨names, listed⟩
  rw [Archive.run_generate parsed hn]
  cases names with
  | error fault =>
    unfold Archive.requested
    rw [parsed]
    rfl
  | ok names =>
    rw [h.requested_eq_nil lenient parsed]
    rfl

end TableDecl.Settled

/-! ## A replay leads to a settled schema -/

open AlterationSpecs

variable {options : DiffOptions} {before : Catalog} {decl : TableDecl}

/-- **An altered table is settled.** -/
theorem settled_of_altered {specs : AlterationSpecs} {table : LiveTable}
    (described : specs.Describes options before decl) (distinct : decl.columnNames.Nodup)
    (live : before.table? decl.name = some table)
    (fresh : ∀ spec ∈ specs.added, table.column? spec.name = none) :
    decl.Settled options.systemColumns (before.put (specs.altered table)) := by
  have name : table.name = decl.name := Catalog.name_of_table?_eq_some live
  have found : (before.put (specs.altered table)).table? decl.name = some (specs.altered table) :=
    name ▸ Catalog.table?_put_self before (specs.altered table)
  have lookup : ∀ c : ColumnDecl, c.name ∉ options.systemColumns →
      TableDiff.verdict options before decl.name c =
        TableDiff.actionFor c (table.column? c.name) := by
    intro c system
    rw [TableDiff.verdict_of_not_system system, Catalog.column?_of_table? live]
  constructor
  case live =>
    rw [found]
    rfl
  case present =>
    intro c hc system kept
    rw [Catalog.column?_of_table? found]
    have asked := lookup c system
    rcases hl : table.column? c.name with _ | old
    · -- the column is new
      have hv := asked.trans (TableDiff.actionFor_eq_new_iff.2 ⟨hl, kept, rfl⟩)
      obtain ⟨spec, hs, made⟩ := described.exists_added c hc hv
      obtain ⟨same, kind, nullable, -⟩ := ColumnSpec.of_ofDecl made
      rw [← same]
      refine ⟨.ofSpec spec, column?_altered_of_added hs (described.separate distinct)
        (fresh spec hs), nullable, ?_⟩
      rw [← kind, LiveColumn.type_ofSpec]
      exact TypeName.agrees_storage spec.kind
    · by_cases agreed : TypeName.agrees c.kind old.type = true ∧ c.isNullable = old.nullable
      · -- the column is as it was
        have hv := asked.trans (TableDiff.actionFor_eq_unchanged_iff.2 ⟨old, hl, kept, agreed⟩)
        rw [column?_altered_of_untouched (described.notMem_of_verdict distinct hc (.inl hv))]
        exact ⟨old, hl, agreed.2.symm, agreed.1⟩
      · -- the column is changed
        have hv := asked.trans
          (TableDiff.actionFor_eq_modified_iff.2 ⟨old, hl, kept, agreed, rfl, rfl, rfl⟩)
        obtain ⟨⟨declared, previous⟩, hp, made⟩ := described.exists_modified c hc _ _ hv
        obtain ⟨same, kind, nullable, -⟩ := ColumnSpec.of_ofDecl made
        dsimp only at same kind nullable
        rw [← same] at hl ⊢
        refine ⟨_, column?_altered_of_modified (List.mem_map_of_mem hp)
          (described.separate distinct) hl, nullable, ?_⟩
        rw [← kind, LiveColumn.type_retyped]
        exact TypeName.agrees_storage declared.kind
  case absent =>
    intro c hc system marked
    rw [Catalog.column?_of_table? found]
    have asked := lookup c system
    rcases hl : table.column? c.name with _ | old
    · have hv := asked.trans (TableDiff.actionFor_eq_none_iff.2 ⟨hl, marked⟩)
      rw [column?_altered_of_untouched (described.notMem_of_verdict distinct hc (.inr hv))]
      exact hl
    · have hv := asked.trans
        (TableDiff.actionFor_eq_dropped_iff.2 ⟨old, hl, marked, rfl, rfl, rfl⟩)
      exact column?_altered_of_dropped
        ((described.mem_droppedNames_iff distinct hc).2 ⟨_, _, hv⟩)

/-- **A created table is settled**, unless it is to have a `deleted_at` and
not to have it. -/
theorem settled_of_created {specs : List ColumnSpec} {table : LiveTable}
    (described : (TableDiff.explicitColumns decl).mapM ColumnSpec.ofDecl = .ok specs)
    (distinct : decl.columnNames.Nodup)
    (made : table = ⟨decl.name, TableDiff.createdColumns decl specs⟩)
    (nodup : table.columnNames.Nodup)
    (consistent : decl.flags.softDeletes = true →
      ∀ c ∈ decl.columns, c.name = "deleted_at" → c.isMarkedForDrop = false) :
    decl.Settled DiffOptions.standard.systemColumns (before.put table) := by
  subst made
  have found : (before.put ⟨decl.name, TableDiff.createdColumns decl specs⟩).table? decl.name =
      some ⟨decl.name, TableDiff.createdColumns decl specs⟩ := Catalog.table?_put_self before _
  constructor
  case live =>
    rw [found]
    rfl
  case present =>
    intro c hc system kept
    rw [Catalog.column?_of_table? found]
    have explicit : c ∈ TableDiff.explicitColumns decl := by
      have notKey : (c.name == "id") = false := by
        rw [beq_eq_false_iff_ne]
        exact fun key => system (key ▸ List.mem_cons_self)
      simp [TableDiff.explicitColumns, TableDiff.isKept, TableDiff.isImpliedKey, hc, kept, notKey]
    obtain ⟨spec, hs, made⟩ := exists_of_mapM_eq_ok described explicit
    obtain ⟨same, kind, nullable, -⟩ := ColumnSpec.of_ofDecl made
    have member : LiveColumn.ofSpec spec ∈ TableDiff.createdColumns decl specs :=
      TableDiff.mem_createdColumns_iff.2 (.inr (.inl ⟨spec, hs, rfl⟩))
    refine ⟨.ofSpec spec, ?_, nullable, ?_⟩
    · rw [← same]
      exact LiveTable.column?_eq_some_of_mem nodup member
    · rw [← kind, LiveColumn.type_ofSpec]
      exact TypeName.agrees_storage spec.kind
  case absent =>
    intro c hc system marked
    rw [Catalog.column?_of_table? found, LiveTable.column?_eq_none_iff]
    intro named
    obtain ⟨column, hm, same⟩ := List.mem_map.1 named
    rcases TableDiff.mem_createdColumns_iff.1 hm with
      ⟨-, key⟩ | ⟨spec, hs, made⟩ | ⟨soft, deleted⟩ | ⟨-, times⟩
    · rw [key] at same
      have key : "id" = c.name := same
      exact system (key ▸ List.mem_cons_self)
    · -- a column that is marked for removal is not among the explicit ones
      obtain ⟨d, hd, described⟩ := (mem_iff_of_mapM_eq_ok described).1 hs
      have kept := List.mem_filter.1 (List.mem_filter.1 hd).1
      have name : d.name = c.name := by
        rw [← same, made]
        exact (ColumnSpec.of_ofDecl described).1.symm
      rw [List.inj_on_of_nodup_map distinct kept.1 hc name, TableDiff.isKept, marked] at kept
      cases kept.2
    · rw [deleted] at same
      have kept := consistent soft c hc same.symm
      rw [marked] at kept
      cases kept
    · have stamped : c.name = "created_at" ∨ c.name = "updated_at" := by
        rcases times with time | time
        · rw [time] at same
          exact .inl same.symm
        · rw [time] at same
          exact .inr same.symm
      exact system (List.mem_cons_of_mem "id" (by simpa using stamped))

/-! ## One run is enough -/

/-- What an alteration leaves alone: the columns that are undeclared or looked
after by the framework. -/
def TableDecl.leaves (decl : TableDecl) (systemColumns : List String) (column : LiveColumn) :
    Bool :=
  column.name ∉ decl.columnNames || column.name ∈ systemColumns

/-- **One run is enough.** When the artifacts that a run generates are
replayed on the schema that it was planned against, a second run of the same
declaration, over any archive and at any time, asks for the stored names and
has nothing else to do; the declared columns are as they are declared; and no
other table has changed, nor, in a table that was live, any column that is
undeclared or looked after by the framework. A declaration that has a table
created with the flag for `deleted_at` is not also to drop that column. -/
theorem generate_converges {σ : Type} {archive : Archive (StateM σ)} {s : σ} {trial : Bool}
    {before after : Catalog} {now : Instant} {text : String} {stored : List StoredArtifact}
    (parsed : TableDecl.parse text = .ok decl)
    (consistent : (∃ entry ∈ stored, entry.artifact.kind = .create) →
      decl.flags.softDeletes = true →
        ∀ c ∈ decl.columns, c.name = "deleted_at" → c.isMarkedForDrop = false)
    (generated :
      ((archive.generate ⟨trial, .standard⟩ (.online before) now text).run s).1.result =
        .ok (.generated stored))
    (applied : before.applyArtifacts (stored.map StoredArtifact.artifact) = (after, none)) :
    (∀ {τ : Type} (second : Archive (StateM τ)) (t : τ) (again : Bool) (later : Instant),
      (second.generate ⟨again, .standard⟩ (.online after) later text).run t =
        match second.names.run t with
        | (.ok _, listed) => (⟨[], .ok .upToDate, []⟩, listed)
        | (.error fault, listed) => (.stopped fault, listed)) ∧
      decl.Settled DiffOptions.standard.systemColumns after ∧
      after.erase decl.name = before.erase decl.name ∧
      ∀ table, before.table? decl.name = some table → ∃ altered,
        after.table? decl.name = some altered ∧
        altered.columns.filter (decl.leaves DiffOptions.standard.systemColumns) =
          table.columns.filter (decl.leaves DiffOptions.standard.systemColumns) := by
  have distinct : decl.columnNames.Nodup := TableDecl.nodup_columnNames_of_parse parsed
  obtain ⟨nonempty, tableExists, diff, live, compared, made⟩ :=
    Archive.of_generated_online parsed generated
  have nonempty' : (stored.map fun entry => entry.artifact) ≠ [] :=
    fun none => nonempty (List.map_eq_nil_iff.1 none)
  suffices reached : decl.Settled DiffOptions.standard.systemColumns after ∧
      after.erase decl.name = before.erase decl.name ∧
      ∀ table, before.table? decl.name = some table → ∃ altered,
        after.table? decl.name = some altered ∧
        altered.columns.filter (decl.leaves DiffOptions.standard.systemColumns) =
          table.columns.filter (decl.leaves DiffOptions.standard.systemColumns) by
    exact ⟨fun second t again later => reached.1.run_generate rfl parsed second t again later,
      reached⟩
  cases tableExists with
  | false =>
    cases compared
    obtain ⟨specs, artifact, table, described, single, -, body, absent, rfl, nodup, rfl⟩ :=
      TableDiff.exists_created made applied
    have creates : ∃ entry ∈ stored, entry.artifact.kind = .create := by
      obtain ⟨entry, he⟩ := List.exists_mem_of_ne_nil stored nonempty
      have member : entry.artifact ∈ [artifact] := single ▸ List.mem_map_of_mem he
      rw [List.mem_singleton] at member
      exact ⟨entry, he, member ▸ congrArg ArtifactBody.kind body⟩
    refine ⟨settled_of_created described distinct rfl nodup (consistent creates),
      Catalog.erase_put before _, fun table live => ?_⟩
    rw [absent] at live
    cases live
  | true =>
    obtain ⟨specs, table, described, found, rfl, -, -, fresh, -⟩ :=
      TableDiff.exists_altered compared made nonempty' distinct applied
    have name : table.name = decl.name := Catalog.name_of_table?_eq_some found
    refine ⟨settled_of_altered described distinct found fresh, ?_, ?_⟩
    · rw [← name]
      exact Catalog.erase_put before (specs.altered table)
    · intro table' live'
      cases found.symm.trans live'
      refine ⟨specs.altered table, name ▸ Catalog.table?_put_self before (specs.altered table), ?_⟩
      refine @filter_altered specs table
        (fun n => n ∉ decl.columnNames || n ∈ DiffOptions.standard.systemColumns) fun n hn => ?_
      rw [Bool.or_eq_true, decide_eq_true_iff, decide_eq_true_iff] at hn
      exact described.notMem_of_system distinct hn

/-- Notes that become longer are settled by one run. -/
theorem generate_converges_notes :
    ∃ decl : TableDecl, TableDecl.parse LongerNotes.text = .ok decl ∧
      decl.Settled DiffOptions.standard.systemColumns LongerNotes.after := by
  obtain ⟨decl, parsed⟩ := LongerNotes.exists_decl
  obtain ⟨stored, generated, single⟩ := LongerNotes.exists_stored
  have alters : ¬ ∃ entry ∈ stored, entry.artifact.kind = .create := by
    rintro ⟨entry, he, kind⟩
    have member : entry.artifact ∈ [LongerNotes.artifact] := single ▸ List.mem_map_of_mem he
    rw [List.mem_singleton.1 member] at kind
    cases kind
  have applied : LongerNotes.before.applyArtifacts (stored.map StoredArtifact.artifact) =
      (LongerNotes.after, none) := single ▸ LongerNotes.applied
  exact ⟨decl, parsed,
    (generate_converges parsed (fun creates => absurd creates alters) generated applied).2.1⟩

end SchemaPlan
