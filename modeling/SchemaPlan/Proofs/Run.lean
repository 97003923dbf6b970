import SchemaPlan.Archive.Memory
import SchemaPlan.Catalog.Replay
import SchemaPlan.Generator
import SchemaPlan.Proofs.Comparison

/-!
# A run, stage by stage

A run asks its archive for names, computes everything it is going to store,
and only then stores anything. Over an archive whose operations change a
state this is an equation (`Archive.run_generate`): what is computed is
`Archive.requested`, a function of the text, the names, the live schema and
the time, and the state has gone through nothing but the listing when it is
carried out.

What a run reports follows without a word about the archive
(`Archive.of_generated`): the artifacts that it made are the requested ones.
-/

namespace SchemaPlan

namespace Plan

variable {options : DiffOptions} {names : List String} {inspector : Inspector} {table : String}
  {decl : TableDecl} {plan : Plan}

/-! ## Finding the table -/

/-- A table that a stored migration creates is found without a look at the live schema. -/
theorem findsTable_of_created (created : Archive.creates names table = true) :
    findsTable names inspector table = .ok true :=
  if_pos created

/-- Any other table is looked up, and what the inspector says is what is found,
a fault included. -/
theorem findsTable_of_uncreated (uncreated : Archive.creates names table = false) :
    findsTable names inspector table = inspector.isLive table :=
  if_neg (by rw [uncreated]; exact Bool.false_ne_true)

/-- **A table is not found** if no stored migration creates it and it is not live. Where
this cannot be told, nothing is found out. -/
@[simp] theorem findsTable_eq_false_iff : findsTable names inspector table = .ok false ↔
    Archive.creates names table = false ∧ inspector.isLive table = .ok false := by
  cases created : Archive.creates names table with
  | true => simp [findsTable_of_created created]
  | false => simp [findsTable_of_uncreated created]

@[simp] theorem findsTable_online {catalog : Catalog} : findsTable names (.online catalog) table =
    .ok (Archive.creates names table || (catalog.table? table).isSome) := by
  cases created : Archive.creates names table with
  | true => simp [findsTable_of_created created]
  | false => simp [findsTable_of_uncreated created]

@[simp] theorem findsTable_offline :
    findsTable names .offline table = .ok (Archive.creates names table) := by
  cases created : Archive.creates names table with
  | true => simp [findsTable_of_created created]
  | false => simp [findsTable_of_uncreated created]

/-- A plan is the comparison of its declaration with the table that is listed
or live, if this can be told. -/
theorem make_eq_ok_iff : make options names inspector decl = .ok plan ↔
    ∃ tableExists diff, findsTable names inspector decl.name = .ok tableExists ∧
      TableDiff.compare options inspector decl tableExists = .ok diff ∧
      plan = ⟨decl, tableExists, diff⟩ := by
  simp only [make, bind_eq_ok_iff]
  constructor
  · rintro ⟨tableExists, found, diff, compared, made⟩
    cases made
    exact ⟨tableExists, diff, found, compared, rfl⟩
  · rintro ⟨tableExists, diff, found, compared, rfl⟩
    exact ⟨tableExists, found, diff, compared, rfl⟩

end Plan

namespace Archive

variable {σ α β : Type}

/-- The artifacts that a declaration calls for, given the names that an
archive lists. -/
def requested (options : DiffOptions) (listed : Except Fault (List String))
    (inspector : Inspector) (now : Instant) (text : String) : Except Fault (List Artifact) := do
  let decl ← TableDecl.parse text
  let names ← listed
  let plan ← Plan.make options names inspector decl
  plan.artifacts now

theorem requested_eq_ok_iff {options : DiffOptions} {listed : Except Fault (List String)}
    {inspector : Inspector} {now : Instant} {text : String} {artifacts : List Artifact} :
    requested options listed inspector now text = .ok artifacts ↔
      ∃ decl names plan, TableDecl.parse text = .ok decl ∧ listed = .ok names ∧
        Plan.make options names inspector decl = .ok plan ∧ plan.artifacts now = .ok artifacts := by
  simp only [requested, bind_eq_ok_iff]
  constructor
  · rintro ⟨decl, parsed, names, named, plan, made, planned⟩
    exact ⟨decl, names, plan, parsed, named, made, planned⟩
  · rintro ⟨decl, names, plan, parsed, named, made, planned⟩
    exact ⟨decl, parsed, names, named, plan, made, planned⟩

/-! ## What a stage does to the state -/

theorem run_pure (a : α) (s : σ) : (pure a : StateM σ α).run s = (a, s) := rfl

theorem run_bind (x : StateM σ α) (f : α → StateM σ β) (s : σ) :
    (x >>= f).run s = (f (x.run s).1).run (x.run s).2 := rfl

variable {archive : Archive (StateM σ)} {options : RunOptions} {inspector : Inspector}
  {now : Instant} {text : String} {s listed : σ} {fault : Fault}

/-- A text that declares nothing is refused before the archive is asked, so the
archive is not even listed. -/
theorem run_generate_of_parse_error (h : TableDecl.parse text = .error fault) :
    (archive.generate options inspector now text).run s = (.stopped fault, s) := by
  unfold generate plan
  rw [h]
  rfl

/-- Carries out artifacts that were asked for, unless there is a fault instead. -/
def carryOutRequested {m : Type → Type} [Monad m] (archive : Archive m) (trial : Bool) :
    Except Fault (List Artifact) → m RunReport
  | .error fault => pure (.stopped fault)
  | .ok artifacts => archive.carryOut trial artifacts

/-- A run of a declaration lists the names and carries out what is requested,
in the state that the listing leaves. -/
theorem run_generate {decl : TableDecl} (h : TableDecl.parse text = .ok decl)
    {names : Except Fault (List String)} (hn : archive.names.run s = (names, listed)) :
    (archive.generate options inspector now text).run s =
      (archive.carryOutRequested options.trial
        (requested options.diff names inspector now text)).run listed := by
  unfold generate plan requested
  rw [h]
  dsimp only
  rw [run_bind, run_bind, hn]
  cases names with
  | error fault => rfl
  | ok names =>
    show _ = (archive.carryOutRequested options.trial
      ((Plan.make options.diff names inspector decl).bind fun plan => plan.artifacts now)).run listed
    dsimp only
    rw [run_pure]
    cases Plan.make options.diff names inspector decl with
    | error fault => rfl
    | ok plan =>
      show _ = (archive.carryOutRequested options.trial (plan.artifacts now)).run listed
      dsimp only
      cases plan.artifacts now <;> rfl

@[simp] theorem run_carryOut_nil (trial : Bool) :
    (archive.carryOut trial []).run s = (⟨[], .ok .upToDate, []⟩, s) := rfl

/-- A trial run gives its artifacts and stores none, without touching the
archive. -/
theorem run_carryOut_trial {artifacts : List Artifact} (h : artifacts ≠ []) :
    (archive.carryOut true artifacts).run s =
      (⟨artifacts, .ok (.generated (artifacts.map fun artifact => ⟨artifact, none⟩)), []⟩, s) := by
  unfold carryOut
  rw [if_neg (by simpa using h), if_pos rfl]
  rfl

/-- Any other run stores them, and its report is what the storing says. -/
theorem run_carryOut_store {artifacts : List Artifact} (h : artifacts ≠ []) :
    (archive.carryOut false artifacts).run s =
      (⟨artifacts, ((archive.persistAll [] artifacts).run s).1.1.map .generated,
        ((archive.persistAll [] artifacts).run s).1.2⟩,
        ((archive.persistAll [] artifacts).run s).2) := by
  unfold carryOut
  rw [if_neg (by simpa using h), if_neg Bool.false_ne_true]
  rfl

/-- Whether or not they can be stored, a run reports the artifacts that it
made; a report is no proof that they are in the archive. -/
@[simp] theorem artifacts_carryOut (trial : Bool) (artifacts : List Artifact) (s : σ) :
    ((archive.carryOut trial artifacts).run s).1.artifacts = artifacts := by
  by_cases empty : artifacts = []
  · rw [empty]
    rfl
  · cases trial with
    | true => rw [run_carryOut_trial empty]
    | false => rw [run_carryOut_store empty]

theorem run_persistAll_cons {paths : List String} {artifact : Artifact} {rest : List Artifact} :
    (archive.persistAll paths (artifact :: rest)).run s =
      match (archive.persist artifact.name artifact.source).run s with
      | (.error fault, failed) =>
        ((.error fault, ((archive.rollBack paths).run failed).1),
          ((archive.rollBack paths).run failed).2)
      | (.ok path, stored) =>
        ((((archive.persistAll (path :: paths) rest).run stored).1.1.map
            fun later => ⟨artifact, some path⟩ :: later,
          .stored path :: ((archive.persistAll (path :: paths) rest).run stored).1.2),
          ((archive.persistAll (path :: paths) rest).run stored).2) := by
  rw [persistAll, run_bind]
  rcases (archive.persist artifact.name artifact.source).run s with ⟨_ | path, next⟩ <;> rfl

/-! ## What a run reports -/

/-- What was stored are the artifacts that were to be stored, all of them and
in order. -/
theorem artifacts_of_persistAll {paths : List String} {artifacts : List Artifact}
    {stored : List StoredArtifact}
    (h : ((archive.persistAll paths artifacts).run s).1.1 = .ok stored) :
    stored.map (fun entry => entry.artifact) = artifacts := by
  induction artifacts generalizing s paths stored with
  | nil =>
    cases h
    rfl
  | cons artifact rest ih =>
    rw [run_persistAll_cons] at h
    rcases hp : (archive.persist artifact.name artifact.source).run s with ⟨_ | path, next⟩
    · rw [hp] at h
      cases h
    · rw [hp] at h
      dsimp only at h
      rcases hr : ((archive.persistAll (path :: paths) rest).run next).1.1 with _ | later
      · rw [hr] at h
        cases h
      · rw [hr] at h
        cases h
        rw [List.map_cons, ih hr]

theorem artifacts_of_carryOut {trial : Bool} {artifacts : List Artifact}
    {stored : List StoredArtifact}
    (h : ((archive.carryOut trial artifacts).run s).1.result = .ok (.generated stored)) :
    artifacts ≠ [] ∧ stored.map (fun entry => entry.artifact) = artifacts := by
  by_cases empty : artifacts = []
  · subst empty
    cases h
  · refine ⟨empty, ?_⟩
    cases trial with
    | true =>
      rw [run_carryOut_trial empty] at h
      cases h
      rw [List.map_map]
      exact List.map_id artifacts
    | false =>
      rw [run_carryOut_store empty] at h
      dsimp only at h
      rcases hr : ((archive.persistAll [] artifacts).run s).1.1 with _ | later
      · rw [hr] at h
        cases h
      · rw [hr] at h
        cases h
        exact artifacts_of_persistAll hr

/-- **A run that generates artifacts has planned them**: the text declares a
table, the archive lists its names, and the artifacts are those of the plan. -/
theorem of_generated {stored : List StoredArtifact}
    (h : ((archive.generate options inspector now text).run s).1.result =
      .ok (.generated stored)) :
    ∃ decl names made, TableDecl.parse text = .ok decl ∧ (archive.names.run s).1 = .ok names ∧
      Plan.make options.diff names inspector decl = .ok made ∧
      made.artifacts now = .ok (stored.map fun entry => entry.artifact) ∧ stored ≠ [] := by
  rcases hd : TableDecl.parse text with fault | decl
  · rw [run_generate_of_parse_error hd] at h
    cases h
  · rcases hn : archive.names.run s with ⟨names, listed⟩
    rw [run_generate hd hn] at h
    rcases hr : requested options.diff names inspector now text with fault | artifacts
    · rw [hr] at h
      cases h
    · rw [hr] at h
      obtain ⟨nonempty, rfl⟩ := artifacts_of_carryOut h
      obtain ⟨decl', found, made, hd', rfl, hm, ha⟩ := requested_eq_ok_iff.1 hr
      cases hd.symm.trans hd'
      refine ⟨decl, found, made, rfl, rfl, hm, ha, fun none => nonempty ?_⟩
      rw [none]
      rfl

/-- **The artifacts of a run are those of the comparison that it made.** For a
known schema this opens a run once and for all: later modules start from the
comparison. -/
theorem of_generated_online {before : Catalog} {decl : TableDecl} {stored : List StoredArtifact}
    (parsed : TableDecl.parse text = .ok decl)
    (h : ((archive.generate options (.online before) now text).run s).1.result =
      .ok (.generated stored)) :
    stored ≠ [] ∧ ∃ tableExists diff,
      ((before.table? decl.name).isSome = true → tableExists = true) ∧
      TableDiff.compare options.diff (.online before) decl tableExists = .ok diff ∧
      diff.artifacts decl now = .ok (stored.map fun entry => entry.artifact) := by
  obtain ⟨decl', names, plan, parsed', -, made, planned, nonempty⟩ := of_generated h
  cases parsed.symm.trans parsed'
  obtain ⟨tableExists, diff, found, compared, rfl⟩ := Plan.make_eq_ok_iff.1 made
  refine ⟨nonempty, tableExists, diff, fun live => ?_, compared, ?_⟩
  · rw [Plan.findsTable_online, live, Bool.or_true] at found
    exact (Except.ok.inj found).symm
  · unfold Plan.artifacts at planned
    split at planned
    · cases List.map_eq_nil_iff.1 (Except.ok.inj planned).symm
      exact absurd rfl nonempty
    · exact planned

end Archive

/-! ## One run in full -/

/-- A result that passes a check is there. Examples are checked in this form,
since faults are not compared by evaluation. -/
theorem exists_eq_ok_of_any {ε α : Type} {result : Except ε α} {check : α → Bool}
    (h : result.toOption.any check = true) : ∃ a, result = .ok a ∧ check a = true := by
  cases result with
  | error e => cases h
  | ok a => exact ⟨a, rfl, h⟩

theorem eq_ok_of_any_beq {ε α : Type} [DecidableEq α] {result : Except ε α} {a : α}
    (h : result.toOption.any (· == a) = true) : result = .ok a := by
  obtain ⟨found, rfl, same⟩ := exists_eq_ok_of_any h
  rw [eq_of_beq same]

/-- A run that gives artifacts has generated them, because a run that finds
nothing to do gives none. -/
theorem Outcome.exists_generated {result : Except Fault Outcome} {made : List Artifact}
    (h : (result.toOption.map fun outcome => outcome.artifacts.map StoredArtifact.artifact) =
      some made) (nonempty : made ≠ []) :
    ∃ stored, result = .ok (.generated stored) ∧ stored.map StoredArtifact.artifact = made := by
  cases result with
  | error fault => cases h
  | ok outcome =>
    cases outcome with
    | upToDate => exact absurd (Option.some.inj h).symm nonempty
    | generated stored => exact ⟨stored, rfl, Option.some.inj h⟩

namespace LongerNotes

/-- A table of notes that may not be long. -/
def before : Catalog := ⟨[⟨"notes", [⟨"body", "varchar(255)", false, none⟩]⟩]⟩

/-- The table of notes as it is declared. -/
def after : Catalog := ⟨[⟨"notes", [⟨"body", "text", false, none⟩]⟩]⟩

/-- The declaration. -/
def text : String := "notes,body:text"

/-- The beginning of 1970. -/
def start : Instant := ⟨0, 0, by decide, by decide⟩

/-- The artifact that the declaration calls for. -/
def artifact : Artifact where
  kind := .modifyColumns
  table := "notes"
  createdAt := start
  forward := [.changeColumn (.new "body" .text)]
  inverse := [.changeColumn (.new "body" .string)]

theorem exists_decl : ∃ decl, TableDecl.parse text = .ok decl := by
  have read : (TableDecl.parse text).toOption.any (fun _ => true) = true := by decide +kernel
  obtain ⟨decl, parsed, -⟩ := exists_eq_ok_of_any read
  exact ⟨decl, parsed⟩

/-- The run of the declaration over an empty archive stores one artifact. -/
theorem exists_stored : ∃ stored,
    (((Archive.memory 1).generate ⟨false, .standard⟩ (.online before) start text).run
      []).1.result = .ok (.generated stored) ∧
    stored.map StoredArtifact.artifact = [artifact] :=
  Outcome.exists_generated (by decide +kernel) (List.cons_ne_nil _ _)

theorem applied : before.applyArtifacts [artifact] = (after, none) := by decide +kernel

end LongerNotes

end SchemaPlan
