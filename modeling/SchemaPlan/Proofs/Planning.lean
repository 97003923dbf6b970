import SchemaPlan.Proofs.Run

/-!
# A run is decided by its plan

Once its text is read and the names of the archive are listed, a run makes a plan, and
all that it does afterwards hangs on the plan alone (`Archive.run_generate_of_listed`). A
plan that fails, or calls for nothing, ends the run in the state that the listing has
left. And two runs of one text from one state are the same if their plans are, whatever
their options and inspectors (`Archive.run_generate_congr`).
-/

namespace SchemaPlan.Archive

variable {σ : Type} {archive : Archive (StateM σ)} {options : RunOptions} {inspector : Inspector}
  {now : Instant} {text : String} {s : σ} {decl : TableDecl} {names : List String} {plan : Plan}
  {fault : Fault}

/-- A plan is made of what the text declares and the names that are listed, and
nothing else of the archive is looked at. -/
theorem run_plan {options : DiffOptions} (parsed : TableDecl.parse text = .ok decl) :
    (archive.plan options inspector text).run s =
      ((archive.names.run s).1 >>= fun names => Plan.make options names inspector decl,
        (archive.names.run s).2) := by
  unfold plan
  rw [parsed]
  dsimp only
  rw [run_bind]
  cases (archive.names.run s).1 <;> rfl

theorem run_plan_eq_ok_iff {options : DiffOptions} :
    ((archive.plan options inspector text).run s).1 = .ok plan ↔
      ∃ decl names, TableDecl.parse text = .ok decl ∧ (archive.names.run s).1 = .ok names ∧
        Plan.make options names inspector decl = .ok plan := by
  cases parsed : TableDecl.parse text with
  | error fault =>
    unfold Archive.plan
    rw [parsed]
    exact iff_of_false nofun fun ⟨_, _, other, _⟩ => nomatch other
  | ok decl =>
    rw [run_plan parsed, bind_eq_ok_iff]
    constructor
    · exact fun ⟨names, listed, made⟩ => ⟨decl, names, rfl, listed, made⟩
    · rintro ⟨_, names, same, listed, made⟩
      cases same
      exact ⟨names, listed, made⟩

/-- **A run carries out what its plan calls for**, in the state that the listing leaves. -/
theorem run_generate_of_listed (parsed : TableDecl.parse text = .ok decl)
    (listed : (archive.names.run s).1 = .ok names) :
    (archive.generate options inspector now text).run s =
      (archive.carryOutRequested options.trial
        (Plan.make options.diff names inspector decl >>= fun plan => plan.artifacts now)).run
          (archive.names.run s).2 := by
  rcases hn : archive.names.run s with ⟨found, state⟩
  rw [hn] at listed
  cases listed
  rw [run_generate parsed hn, requested, parsed]
  rfl

/-- A run whose archive cannot be listed ends there, with the fault of the
listing and before anything is planned. -/
theorem run_generate_of_unlisted (parsed : TableDecl.parse text = .ok decl)
    (failed : (archive.names.run s).1 = .error fault) :
    (archive.generate options inspector now text).run s =
      (.stopped fault, (archive.names.run s).2) := by
  rcases hn : archive.names.run s with ⟨found, state⟩
  rw [hn] at failed
  cases failed
  rw [run_generate parsed hn, requested, parsed]
  rfl

/-- A run carries out its plan, in the state that the listing leaves. This is
the one statement in which planning and storing meet. -/
theorem run_generate_of_made {trial : Bool} {diff : DiffOptions}
    (parsed : TableDecl.parse text = .ok decl) (listed : (archive.names.run s).1 = .ok names)
    (made : Plan.make diff names inspector decl = .ok plan) :
    (archive.generate ⟨trial, diff⟩ inspector now text).run s =
      (archive.carryOutRequested trial (plan.artifacts now)).run (archive.names.run s).2 := by
  rw [run_generate_of_listed parsed listed, made]
  rfl

/-- A run that cannot be planned ends before anything is stored, so the archive
is as the listing left it. -/
theorem run_generate_of_refused (parsed : TableDecl.parse text = .ok decl)
    (listed : (archive.names.run s).1 = .ok names)
    (refused : Plan.make options.diff names inspector decl = .error fault) :
    (archive.generate options inspector now text).run s =
      (.stopped fault, (archive.names.run s).2) := by
  rw [run_generate_of_listed parsed listed, refused]
  rfl

/-- A run whose plan calls for nothing says so and stores nothing. -/
theorem run_generate_of_upToDate (parsed : TableDecl.parse text = .ok decl)
    (listed : (archive.names.run s).1 = .ok names)
    (made : Plan.make options.diff names inspector decl = .ok plan)
    (upToDate : plan.diff.isUpToDate = true) :
    (archive.generate options inspector now text).run s =
      (⟨[], .ok .upToDate, []⟩, (archive.names.run s).2) := by
  have nothing : plan.artifacts now = .ok [] := if_pos upToDate
  refine (run_generate_of_made parsed listed made).trans ?_
  rw [nothing]
  rfl

/-- **What a run has made, its plan calls for**, whether or not it could be
stored. So whatever holds of all planned artifacts holds of those that any run
reports. -/
theorem exists_plan_of_mem_artifacts {artifact : Artifact} (parsed : TableDecl.parse text = .ok decl)
    (made : artifact ∈ ((archive.generate options inspector now text).run s).1.artifacts) :
    ∃ names plan artifacts, (archive.names.run s).1 = .ok names ∧
      Plan.make options.diff names inspector decl = .ok plan ∧
      plan.artifacts now = .ok artifacts ∧ artifact ∈ artifacts := by
  cases listed : (archive.names.run s).1 with
  | error fault =>
    rw [run_generate_of_unlisted parsed listed] at made
    exact absurd made List.not_mem_nil
  | ok names =>
    rw [run_generate_of_listed parsed listed] at made
    cases requested : Plan.make options.diff names inspector decl >>=
        fun plan => plan.artifacts now with
    | error fault =>
      rw [requested] at made
      exact absurd made List.not_mem_nil
    | ok artifacts =>
      rw [requested] at made
      have mem : artifact ∈ artifacts :=
        (artifacts_carryOut options.trial artifacts _ : _ = artifacts) ▸ made
      obtain ⟨plan, planned, called⟩ := bind_eq_ok_iff.1 requested
      exact ⟨names, plan, artifacts, rfl, planned, called, mem⟩

/-- So does a comparison of the declaration. -/
theorem exists_compare_of_mem_artifacts {artifact : Artifact}
    (parsed : TableDecl.parse text = .ok decl)
    (made : artifact ∈ ((archive.generate options inspector now text).run s).1.artifacts) :
    ∃ tableExists diff artifacts,
      TableDiff.compare options.diff inspector decl tableExists = .ok diff ∧
      diff.artifacts decl now = .ok artifacts ∧ artifact ∈ artifacts := by
  obtain ⟨names, plan, artifacts, -, planned, called, mem⟩ := exists_plan_of_mem_artifacts parsed made
  obtain ⟨tableExists, diff, -, compared, rfl⟩ := Plan.make_eq_ok_iff.1 planned
  refine ⟨tableExists, diff, artifacts, compared, ?_, mem⟩
  unfold Plan.artifacts at called
  split at called
  · cases called
    exact absurd mem List.not_mem_nil
  · exact called

/-- **Runs of one text agree where their plans do.** Two inspectors or two sets
of options are compared by comparing plans, and storing need not be looked at.
-/
theorem run_generate_congr {trial : Bool} {diff diff' : DiffOptions} {inspector' : Inspector}
    (same : ∀ decl names, TableDecl.parse text = .ok decl → (archive.names.run s).1 = .ok names →
      Plan.make diff names inspector decl = Plan.make diff' names inspector' decl) :
    (archive.generate ⟨trial, diff⟩ inspector now text).run s =
      (archive.generate ⟨trial, diff'⟩ inspector' now text).run s := by
  cases parsed : TableDecl.parse text with
  | error fault => rw [run_generate_of_parse_error parsed, run_generate_of_parse_error parsed]
  | ok decl =>
    cases listed : (archive.names.run s).1 with
    | error fault => rw [run_generate_of_unlisted parsed listed, run_generate_of_unlisted parsed listed]
    | ok names =>
      rw [run_generate_of_listed parsed listed, run_generate_of_listed parsed listed,
        same decl names parsed listed]

end SchemaPlan.Archive
