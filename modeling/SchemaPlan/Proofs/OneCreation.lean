import SchemaPlan.Proofs.AllOrNothing
import SchemaPlan.Proofs.CreateName
import SchemaPlan.Proofs.Declaration
import SchemaPlan.Proofs.Emission

/-!
# A table is created once

Whether the creation of a table is stored is read off the names that an archive
lists, and a run creates a table only when it finds none. Over any number of
runs on one archive that was empty at first this has two consequences, and they
need each other (`one_creation_per_table`): the names tell of a creation exactly
where one is stored, and no table has two.

What carries the runs along is `Archive.Grown`: the archive holds just the
artifacts that the runs so far have stored. A run that fails adds none, however
far it got.
-/

namespace SchemaPlan

/-! ## What a plan calls for -/

namespace Plan

variable {options : DiffOptions} {names : List String} {inspector : Inspector} {decl : TableDecl}
  {plan : Plan} {now : Instant} {artifacts : List Artifact}

/-- The plan for a table that does not exist calls for one artifact, which
creates it and is made at the time of the run. -/
theorem of_artifacts_creation {tableExists : Bool}
    (planned : Plan.artifacts ⟨decl, tableExists, .creation decl⟩ now = .ok artifacts) :
    ∃ artifact, artifacts = [artifact] ∧ artifact.kind = .create ∧ artifact.table = decl.name ∧
      artifact.createdAt = now := by
  have creates : (TableDiff.creation decl).isUpToDate = false := rfl
  rw [Plan.artifacts, creates, if_neg Bool.false_ne_true] at planned
  obtain ⟨specs, artifact, -, rfl, table, body⟩ := TableDiff.exists_specs_of_creation planned
  exact ⟨artifact, rfl, congrArg ArtifactBody.kind body, table,
    TableDiff.createdAt_of_creation planned artifact List.mem_cons_self⟩

/-- The plan for a table that exists calls for artifacts of that table which do
not create it. -/
theorem of_artifacts_alter (alters : plan.diff.tableAction = .alter)
    (planned : plan.artifacts now = .ok artifacts) :
    ∀ artifact ∈ artifacts, artifact.table = plan.diff.table ∧ artifact.kind ≠ .create := by
  unfold Plan.artifacts at planned
  split at planned
  · cases planned
    exact fun _ ha => absurd ha List.not_mem_nil
  · obtain ⟨bodies, tables⟩ := TableDiff.of_artifacts planned
    exact fun artifact ha => ⟨tables artifact ha,
      TableDiff.kind_of_alter alters bodies artifact.body (List.mem_map_of_mem ha)⟩

/-- The artifacts of a plan are for the declared table, and a table is only
created when no name says that it is. -/
theorem of_artifacts (made : Plan.make options names inspector decl = .ok plan)
    (planned : plan.artifacts now = .ok artifacts) :
    (∀ artifact ∈ artifacts, artifact.table = decl.name) ∧
      ((∀ artifact ∈ artifacts, artifact.kind ≠ .create) ∨
        Archive.creates names decl.name = false ∧
          ∃ artifact, artifacts = [artifact] ∧ artifact.kind = .create ∧
            artifact.createdAt = now) := by
  obtain ⟨tableExists, diff, found, compared, rfl⟩ := make_eq_ok_iff.1 made
  cases tableExists with
  | true =>
    obtain ⟨columns, -, altered⟩ := bind_eq_ok_iff.1 compared
    cases altered
    have alters := of_artifacts_alter rfl planned
    exact ⟨fun artifact ha => (alters artifact ha).1, .inl fun artifact ha => (alters artifact ha).2⟩
  | false =>
    cases compared
    obtain ⟨artifact, rfl, creates, table, time⟩ := of_artifacts_creation planned
    refine ⟨fun other ho => ?_,
      .inr ⟨(findsTable_eq_false_iff.1 found).1, artifact, rfl, creates, time⟩⟩
    rw [List.mem_singleton.1 ho, table]

end Plan

/-! ## What a run stores -/

/-- The artifacts that a run has stored, when it is no trial. -/
def RunReport.stored (report : RunReport) : List Artifact :=
  match report.result with
  | .ok outcome => outcome.artifacts.map StoredArtifact.artifact
  | .error _ => []

theorem RunReport.exists_of_mem_stored {report : RunReport} {artifact : Artifact}
    (h : artifact ∈ report.stored) :
    ∃ entries, report.result = .ok (.generated entries) ∧
      report.stored = entries.map StoredArtifact.artifact := by
  unfold RunReport.stored at h ⊢
  split at h
  · rename_i outcome made
    rw [made]
    cases outcome with
    | upToDate => cases h
    | generated entries => exact ⟨entries, rfl, rfl⟩
  · cases h

namespace Archive

variable {σ : Type} {archive : Archive (StateM σ)} {content : σ → String → Option String}

/-- **An archive lists what it holds**: the names that have a source, whenever
they can be listed. -/
def Lists (archive : Archive (StateM σ)) (content : σ → String → Option String) : Prop :=
  ∀ s names, (archive.names.run s).1 = .ok names → ∀ n, n ∈ names ↔ (content s n).isSome

theorem Grown.append {first later : List Artifact} {before middle after : String → Option String}
    (h : Grown first before middle) (h' : Grown later middle after) :
    Grown (first ++ later) before after := by
  constructor
  case fresh =>
    intro artifact ha
    rcases List.mem_append.1 ha with ha | ha
    · exact h.fresh artifact ha
    · cases hb : before artifact.name with
      | none => rfl
      | some source =>
        have taken := h.preserves hb
        rw [h'.fresh artifact ha] at taken
        cases taken
  case distinct =>
    rw [List.map_append]
    refine List.nodup_append.2 ⟨h.distinct, h'.distinct, ?_⟩
    rintro n hn _ hn' rfl
    obtain ⟨artifact, ha, named⟩ := List.mem_map.1 hn
    obtain ⟨other, ho, rfl⟩ := List.mem_map.1 hn'
    have taken := h.added artifact ha
    rw [named, h'.fresh other ho] at taken
    cases taken
  case added =>
    intro artifact ha
    rcases List.mem_append.1 ha with ha | ha
    · exact h'.preserves (h.added artifact ha)
    · exact h'.added artifact ha
  case kept =>
    intro n hn
    rw [List.map_append, List.mem_append, not_or] at hn
    rw [h'.kept n hn.2, h.kept n hn.1]

theorem Grown.eq_of_nil {before after : String → Option String} (h : Grown [] before after) :
    after = before :=
  funext fun n => h.kept n List.not_mem_nil

/-- An archive that was empty holds what was added to it. -/
theorem Grown.eq_some_iff {artifacts : List Artifact} {before after : String → Option String}
    (h : Grown artifacts before after) (empty : ∀ n, before n = none) (n source : String) :
    after n = some source ↔ ∃ artifact ∈ artifacts, artifact.name = n ∧ artifact.source = source := by
  constructor
  · intro held
    by_cases named : n ∈ artifacts.map Artifact.name
    · obtain ⟨artifact, ha, rfl⟩ := List.mem_map.1 named
      rw [h.added artifact ha] at held
      exact ⟨artifact, ha, rfl, Option.some.inj held⟩
    · rw [h.kept n named, empty] at held
      cases held
  · rintro ⟨artifact, ha, rfl, rfl⟩
    exact h.added artifact ha

/-- A run adds what it has stored. -/
theorem grown_generate (keeps : archive.Keeps content) {options : DiffOptions}
    {inspector : Inspector} {now : Instant} {text : String} {s t : σ} {report : RunReport}
    (ran : (archive.generate ⟨false, options⟩ inspector now text).run s = (report, t)) :
    Grown report.stored (content s) (content t) := by
  rcases parsed : TableDecl.parse text with fault | decl
  · rw [run_generate_of_parse_error parsed] at ran
    cases ran
    exact .nil (content s)
  · rcases hn : archive.names.run s with ⟨names, listed⟩
    have same : content listed = content s := by
      rw [← keeps.names s, hn]
    rw [run_generate parsed hn] at ran
    rw [← same]
    cases hr : requested options names inspector now text with
    | error fault =>
      rw [hr] at ran
      cases ran
      exact .nil _
    | ok artifacts =>
      rw [hr] at ran
      have outcome := @content_carryOut σ archive content ⟨false, options⟩ listed keeps artifacts
      have carried : (archive.carryOut false artifacts).run listed = (report, t) := ran
      rw [carried] at outcome
      by_cases generated : ∃ entries, report.result = .ok (.generated entries)
      · obtain ⟨entries, made⟩ := generated
        have grown := outcome.1 rfl entries made
        unfold RunReport.stored
        rw [made]
        exact grown
      · have none : report.stored = [] := List.eq_nil_iff_forall_not_mem.2 fun artifact ha =>
          generated ((RunReport.exists_of_mem_stored ha).imp fun entries h => h.1)
        have kept : content t = content listed :=
          outcome.2 (.inr fun entries made => generated ⟨entries, made⟩)
        rw [none, kept]
        exact .nil (content listed)

/-- What a run has stored was planned. -/
theorem of_stored {options : DiffOptions} {inspector : Inspector} {now : Instant} {text : String}
    {s t : σ} {report : RunReport}
    (ran : (archive.generate ⟨false, options⟩ inspector now text).run s = (report, t)) :
    report.stored = [] ∨ ∃ decl names, TableDecl.parse text = .ok decl ∧
      (archive.names.run s).1 = .ok names ∧
      (∀ artifact ∈ report.stored, artifact.table = decl.name) ∧
      ((∀ artifact ∈ report.stored, artifact.kind ≠ .create) ∨ creates names decl.name = false ∧
        ∃ artifact, report.stored = [artifact] ∧ artifact.kind = .create ∧
          artifact.createdAt = now) := by
  by_cases nothing : report.stored = []
  · exact .inl nothing
  · obtain ⟨artifact, ha⟩ := List.exists_mem_of_ne_nil report.stored nothing
    obtain ⟨entries, generated, stored⟩ := RunReport.exists_of_mem_stored ha
    obtain ⟨decl, names, plan, parsed, listed, made, planned, -⟩ := of_generated
      (show ((archive.generate ⟨false, options⟩ inspector now text).run s).1.result =
        .ok (.generated entries) by rw [ran]; exact generated)
    rw [stored]
    exact .inr ⟨decl, names, parsed, listed, Plan.of_artifacts made planned⟩

/-! ## Runs one after the other -/

/-- **Runs on one archive, one after the other**, with any declarations,
inspectors and options, at any times of the years 0 to 9999, none of them a
trial; with the artifacts that they have stored. -/
inductive Runs (archive : Archive (StateM σ)) (first : σ) : List Artifact → σ → Prop
  /-- Nothing has happened. -/
  | start : Runs archive first [] first
  /-- One more run, which may have failed. -/
  | run {made : List Artifact} {current last : σ} (runs : Runs archive first made current)
    (options : DiffOptions) (inspector : Inspector) (now : Instant) (text : String)
    (report : RunReport) (common : now.IsCommon)
    (ran : (archive.generate ⟨false, options⟩ inspector now text).run current = (report, last)) :
    Runs archive first (made ++ report.stored) last

namespace Runs

variable {first last : σ} {made : List Artifact}

theorem grown (h : archive.Runs first made last) (keeps : archive.Keeps content) :
    Grown made (content first) (content last) := by
  induction h with
  | start => exact .nil (content first)
  | run _ options inspector now text report common ran ih => exact ih.append (grown_generate keeps ran)

/-- From the names of artifacts it is read which of them create a table, and
which. -/
theorem createdTable?_name (h : archive.Runs first made last) :
    ∀ artifact ∈ made, createdTable? artifact.name =
      if artifact.kind = .create then some artifact.table else none := by
  induction h with
  | start => exact fun _ ha => absurd ha List.not_mem_nil
  | run _ options inspector now text report common ran ih =>
    intro artifact ha
    rcases List.mem_append.1 ha with ha | ha
    · exact ih artifact ha
    · rcases of_stored ran with nothing | ⟨decl, names, parsed, -, tables, kinds⟩
      · rw [nothing] at ha
        cases ha
      · refine Archive.createdTable?_name ?_ fun creates => ?_
        · rw [tables artifact ha]
          exact TableDecl.isIdentifier_of_parse parsed
        · rcases kinds with alters | ⟨-, single, one, -, time⟩
          · exact absurd creates (alters artifact ha)
          · rw [one, List.mem_singleton] at ha
            rw [ha, time]
            exact common

/-- **The names tell of a creation exactly where one is stored.** A run looks
at nothing but names, and this is why that is enough. -/
theorem creates_iff (h : archive.Runs first made last) (keeps : archive.Keeps content)
    (lists : archive.Lists content) (empty : ∀ n, content first n = none) {names : List String}
    (listed : (archive.names.run last).1 = .ok names) (t : String) :
    creates names t = true ↔ ∃ artifact ∈ made, artifact.kind = .create ∧ artifact.table = t := by
  have named : ∀ n, n ∈ names ↔ ∃ artifact ∈ made, artifact.name = n := by
    intro n
    rw [lists last names listed n, Option.isSome_iff_exists]
    simp only [(h.grown keeps).eq_some_iff empty]
    constructor
    · rintro ⟨source, artifact, ha, named, -⟩
      exact ⟨artifact, ha, named⟩
    · rintro ⟨artifact, ha, named⟩
      exact ⟨artifact.source, artifact, ha, named, rfl⟩
  have read := h.createdTable?_name
  simp only [creates, List.any_eq_true, beq_iff_eq, named]
  constructor
  · rintro ⟨_, ⟨artifact, ha, rfl⟩, created⟩
    rw [read artifact ha] at created
    split at created
    · rename_i creates
      exact ⟨artifact, ha, creates, Option.some.inj created⟩
    · cases created
  · rintro ⟨artifact, ha, creates, rfl⟩
    exact ⟨artifact.name, ⟨artifact, ha, rfl⟩, (read artifact ha).trans (if_pos creates)⟩

/-- **No table is created twice.** The induction is on the runs: a run that
creates a table has not found its creation among the names, so none was stored.
-/
theorem nodup_created (h : archive.Runs first made last) (keeps : archive.Keeps content)
    (lists : archive.Lists content) (empty : ∀ n, content first n = none) :
    ((made.filter fun artifact => artifact.kind = .create).map Artifact.table).Nodup := by
  induction h with
  | start => exact List.nodup_nil
  | @run made current last runs options inspector now text report common ran ih =>
    rw [List.filter_append, List.map_append]
    rcases of_stored ran with nothing | ⟨decl, names, -, listed, tables, alters | creation⟩
    · rw [nothing]
      simpa using ih
    · have none : (report.stored.filter fun artifact => artifact.kind = .create) = [] :=
        List.filter_eq_nil_iff.2 fun artifact ha => by simpa using alters artifact ha
      rw [none]
      simpa using ih
    · obtain ⟨uncreated, artifact, one, creates, -⟩ := creation
      -- the names that this run has listed did not tell of a creation, so there is none
      have table : artifact.table = decl.name :=
        tables artifact (one ▸ List.mem_singleton.2 rfl)
      have other : artifact.table ∉
          (made.filter fun artifact => artifact.kind = .create).map Artifact.table := by
        intro repeated
        obtain ⟨earlier, he, same⟩ := List.mem_map.1 repeated
        have stored := List.mem_filter.1 he
        have told := (runs.creates_iff keeps lists empty listed decl.name).2
          ⟨earlier, stored.1, of_decide_eq_true stored.2, same.trans table⟩
        rw [uncreated] at told
        cases told
      rw [one, List.filter_cons, if_pos (decide_eq_true creates), List.filter_nil]
      exact List.nodup_append_comm.1 (List.nodup_cons.2 ⟨other, ih⟩)

end Runs

end Archive

/-- **One creation per table.** After any runs on an archive that was empty at
first, each of which may have failed at any point, the archive holds just the
artifacts that the runs have stored. Then the names that it lists tell of the
creation of a table exactly when an artifact that creates it is stored, no table
has two such artifacts, and the name of an artifact tells of no other table than
its own, and of none unless the artifact creates it. -/
theorem one_creation_per_table {σ : Type} {archive : Archive (StateM σ)}
    {content : σ → String → Option String} (keeps : archive.Keeps content)
    (lists : archive.Lists content) {first last : σ} {made : List Artifact}
    (empty : ∀ n, content first n = none) (runs : archive.Runs first made last) :
    (∀ n source, content last n = some source ↔
      ∃ artifact ∈ made, artifact.name = n ∧ artifact.source = source) ∧
    (∀ names, (archive.names.run last).1 = .ok names → ∀ t, Archive.creates names t = true ↔
      ∃ artifact ∈ made, artifact.kind = .create ∧ artifact.table = t) ∧
    ((made.filter fun artifact => artifact.kind = .create).map Artifact.table).Nodup ∧
    ∀ artifact ∈ made, Archive.createdTable? artifact.name =
      if artifact.kind = .create then some artifact.table else none :=
  ⟨(runs.grown keeps).eq_some_iff empty,
    fun _ listed => runs.creates_iff keeps lists empty listed,
    runs.nodup_created keeps lists empty, runs.createdTable?_name⟩

/-! ## The archive in memory -/

@[simp] theorem Archive.names_memory (capacity : Nat) (s : List (String × String)) :
    ((Archive.memory capacity).names.run s).1 = .ok (s.map Prod.fst) := rfl

/-- A list of names and sources lists what it holds. -/
theorem Archive.lists_memory (capacity : Nat) :
    (Archive.memory capacity).Lists Archive.memoryContent := by
  intro s names listed n
  have names : s.map Prod.fst = names := Except.ok.inj listed
  rw [← names, memoryContent, Option.isSome_map, List.find?_isSome, List.mem_map]
  exact exists_congr fun entry => and_congr_right fun _ => beq_iff_eq.symm

namespace MisleadingOrders

/-- An inspector that answers nothing. -/
def mute : Inspector where
  isLive _ := .error .database
  lookup _ _ := .error .database

/-- The creation of a table with a misleading name. -/
def created : RunReport × List (String × String) :=
  ((Archive.memory 2).generate ⟨false, .standard⟩ .offline LongerNotes.start
    "order_table:title:string").run []

/-- Then `order` is declared, and nobody can tell whether it is live. -/
def refused : RunReport × List (String × String) :=
  ((Archive.memory 2).generate ⟨false, .standard⟩ mute LongerNotes.start
    "order:title:string").run created.2

/-- Then `order_table` is declared with one more column. That it exists is known
from its creation, so the inspector is only asked for a column, in vain. -/
def extended : RunReport × List (String × String) :=
  ((Archive.memory 2).generate ⟨false, .standard⟩ mute LongerNotes.start
    "order_table:title:string,rank:integer").run refused.2

/-- The artifacts of all three runs. -/
def made : List Artifact := [] ++ created.1.stored ++ refused.1.stored ++ extended.1.stored

theorem runs : (Archive.memory 2).Runs [] made extended.2 :=
  .run (.run (.run .start .standard .offline LongerNotes.start _ _ (by decide) Prod.mk.eta.symm)
    .standard mute LongerNotes.start _ _ (by decide) Prod.mk.eta.symm)
    .standard mute LongerNotes.start _ _ (by decide) Prod.mk.eta.symm

end MisleadingOrders

/-- The creation of `order_table` is stored and found, and is not mistaken for
one of `order`, also when later runs fail because nobody can tell what is
live. -/
theorem one_creation_per_table_orders :
    Archive.creates (MisleadingOrders.extended.2.map Prod.fst) "order_table" = true ∧
      Archive.creates (MisleadingOrders.extended.2.map Prod.fst) "order" = false := by
  have stored : MisleadingOrders.made.map (fun artifact => (artifact.kind, artifact.table)) =
      [(.create, "order_table")] := by decide +kernel
  have told := (one_creation_per_table (Archive.keeps_memory 2) (Archive.lists_memory 2)
    (fun _ => rfl) MisleadingOrders.runs).2.1 _
      (Archive.names_memory 2 MisleadingOrders.extended.2)
  generalize MisleadingOrders.made = made at stored told
  have creation : ∀ t, (∃ artifact ∈ made, artifact.kind = .create ∧ artifact.table = t) ↔
      t = "order_table" := by
    intro t
    have member : (∃ artifact ∈ made, artifact.kind = .create ∧ artifact.table = t) ↔
        (ArtifactKind.create, t) ∈ made.map fun artifact => (artifact.kind, artifact.table) := by
      simp
    rw [member, stored, List.mem_singleton, Prod.mk.injEq, eq_self_iff_true, true_and]
  refine ⟨(told "order_table").2 ((creation _).2 rfl), ?_⟩
  rw [← Bool.not_eq_true, told, creation]
  decide

end SchemaPlan
