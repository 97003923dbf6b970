import SchemaPlan.Proofs.Run

/-!
# What a run stores

A run that succeeds has stored its sources one after the other, each at a place of
its own, and its report tells these places. What there is to know about the archive
is a relation between the state before and the state after (`Archive.StoresAll`); a
run succeeds exactly if the artifacts that it keeps are so stored
(`Archive.generate_eq_iff`).
-/

namespace SchemaPlan

namespace Archive

variable {σ : Type}

/-- **Artifacts are stored one after the other**, at the given places. The
relation says that all of them were, so a run that fails in between has no
derivation. -/
inductive StoresAll (archive : Archive (StateM σ)) : List Artifact → σ → List String → σ → Prop
  /-- There is nothing to store. -/
  | nil (s : σ) : StoresAll archive [] s [] s
  /-- One artifact is stored before the others. -/
  | cons {artifact : Artifact} {rest : List Artifact} {s next t : σ} {path : String}
    {paths : List String}
    (first : (archive.persist artifact.name artifact.source).run s = (.ok path, next))
    (later : StoresAll archive rest next paths t) :
    StoresAll archive (artifact :: rest) s (path :: paths) t

/-- Artifacts and the places where they are stored, in pairs. The two lists are
as long where this is used. -/
def storedAt (artifacts : List Artifact) (paths : List String) : List StoredArtifact :=
  List.zipWith (fun artifact path => ⟨artifact, some path⟩) artifacts paths

@[simp] theorem storedAt_map (place : Artifact → String) (artifacts : List Artifact) :
    storedAt artifacts (artifacts.map place) =
      artifacts.map fun artifact => ⟨artifact, some (place artifact)⟩ := by
  rw [storedAt, List.zipWith_map_right, List.zipWith_self]

variable {archive : Archive (StateM σ)} {artifacts : List Artifact} {s t : σ}
  {paths : List String}

/-- Storing artifacts succeeds exactly if each can be stored after those before it. -/
theorem persistAll_eq_ok_iff {done : List String} {stored : List StoredArtifact}
    {journal : List JournalEntry} :
    (archive.persistAll done artifacts).run s = ((.ok stored, journal), t) ↔
      ∃ paths, archive.StoresAll artifacts s paths t ∧ stored = storedAt artifacts paths ∧
        journal = paths.map .stored := by
  induction artifacts generalizing s done stored journal with
  | nil =>
    constructor
    · intro h
      cases h
      exact ⟨[], .nil _, rfl, rfl⟩
    · rintro ⟨_, all, rfl, rfl⟩
      cases all
      rfl
  | cons artifact rest ih =>
    rw [run_persistAll_cons]
    constructor
    · intro h
      rcases hp : (archive.persist artifact.name artifact.source).run s with ⟨fault | path, next⟩
      · rw [hp] at h
        cases h
      · rw [hp] at h
        rcases hr : (archive.persistAll (path :: done) rest).run next with
          ⟨⟨fault | later, tail⟩, last⟩
        · dsimp only at h
          rw [hr] at h
          cases h
        · dsimp only at h
          rw [hr] at h
          cases h
          obtain ⟨paths, all, rfl, rfl⟩ := ih.1 hr
          exact ⟨path :: paths, .cons hp all, rfl, rfl⟩
    · rintro ⟨_, all, rfl, rfl⟩
      cases all with
      | cons first later =>
        rw [first]
        dsimp only
        rw [ih.2 ⟨_, later, rfl, rfl⟩]
        rfl

/-- The artifacts of which a run stores the sources: none in a trial, and all
of them otherwise. -/
def kept (trial : Bool) (artifacts : List Artifact) : List Artifact :=
  if trial then [] else artifacts

/-- The report of a run that has stored the sources of its artifacts at the given
places. -/
def succeeded (trial : Bool) (artifacts : List Artifact) (paths : List String) : RunReport :=
  if artifacts.isEmpty then ⟨[], .ok .upToDate, []⟩
  else if trial then
    ⟨artifacts, .ok (.generated (artifacts.map fun artifact => ⟨artifact, none⟩)), []⟩
  else ⟨artifacts, .ok (.generated (storedAt artifacts paths)), paths.map .stored⟩

theorem succeeded_store (nonempty : artifacts ≠ []) (paths : List String) :
    succeeded false artifacts paths =
      ⟨artifacts, .ok (.generated (storedAt artifacts paths)), paths.map .stored⟩ := by
  rw [succeeded, if_neg (by simpa using nonempty), if_neg Bool.false_ne_true]

@[simp] theorem storesAll_nil_iff : archive.StoresAll [] s paths t ↔ paths = [] ∧ t = s := by
  constructor
  · intro h
    cases h
    exact ⟨rfl, rfl⟩
  · rintro ⟨rfl, rfl⟩
    exact .nil t

/-- A run that has something to store succeeds exactly if it can be stored, and
then its report is known from the places. -/
theorem carryOut_store_eq_iff {report : RunReport} (nonempty : artifacts ≠ []) :
    ((archive.carryOut false artifacts).run s = (report, t) ∧
      ∃ outcome, report.result = .ok outcome) ↔
      ∃ paths, archive.StoresAll artifacts s paths t ∧ report =
        ⟨artifacts, .ok (.generated (storedAt artifacts paths)), paths.map .stored⟩ := by
  rw [run_carryOut_store nonempty]
  constructor
  · rintro ⟨ran, outcome, result⟩
    rcases hp : (archive.persistAll [] artifacts).run s with ⟨⟨fault | stored, journal⟩, last⟩
    all_goals
      rw [hp] at ran
      cases ran
    · cases result
    · obtain ⟨paths, all, rfl, rfl⟩ := persistAll_eq_ok_iff.1 hp
      exact ⟨paths, all, rfl⟩
  · rintro ⟨paths, all, rfl⟩
    rw [persistAll_eq_ok_iff.2 ⟨paths, all, rfl, rfl⟩]
    exact ⟨rfl, _, rfl⟩

theorem carryOut_eq_iff {trial : Bool} {report : RunReport} :
    ((archive.carryOut trial artifacts).run s = (report, t) ∧
      ∃ outcome, report.result = .ok outcome) ↔
      ∃ paths, archive.StoresAll (kept trial artifacts) s paths t ∧
        report = succeeded trial artifacts paths := by
  -- what stores nothing says so and leaves the archive as it is
  have unstored {report' : RunReport} {outcome : Outcome} (ok : report'.result = .ok outcome) :
      ((report', s) = (report, t) ∧ ∃ outcome, report.result = .ok outcome) ↔
        ∃ paths, archive.StoresAll [] s paths t ∧ report = report' := by
    simp only [storesAll_nil_iff]
    constructor
    · rintro ⟨ran, -⟩
      cases ran
      exact ⟨[], ⟨rfl, rfl⟩, rfl⟩
    · rintro ⟨_, ⟨rfl, rfl⟩, rfl⟩
      exact ⟨rfl, outcome, ok⟩
  by_cases empty : artifacts = []
  · subst empty
    cases trial <;> exact unstored rfl
  · cases trial with
    | true =>
      have report' (paths : List String) : succeeded true artifacts paths =
          ⟨artifacts, .ok (.generated (artifacts.map fun artifact => ⟨artifact, none⟩)), []⟩ := by
        rw [succeeded, if_neg (by simpa using empty), if_pos rfl]
      simp only [run_carryOut_trial empty, report']
      exact unstored rfl
    | false =>
      simp only [succeeded_store empty]
      exact carryOut_store_eq_iff empty

/-- **A run succeeds exactly if** the names can be listed, the artifacts can be made,
and those that it keeps can be stored. -/
theorem generate_eq_iff {options : RunOptions} {inspector : Inspector} {now : Instant}
    {text : String} {report : RunReport} :
    ((archive.generate options inspector now text).run s = (report, t) ∧
      ∃ outcome, report.result = .ok outcome) ↔
      ∃ names listed artifacts paths, archive.names.run s = (.ok names, listed) ∧
        requested options.diff (.ok names) inspector now text = .ok artifacts ∧
        archive.StoresAll (kept options.trial artifacts) listed paths t ∧
        report = succeeded options.trial artifacts paths := by
  constructor
  · rintro ⟨ran, outcome, result⟩
    cases parsed : TableDecl.parse text with
    | error fault =>
      rw [run_generate_of_parse_error parsed] at ran
      cases ran
      cases result
    | ok decl =>
      rcases hn : archive.names.run s with ⟨names, listed⟩
      rw [run_generate parsed hn] at ran
      cases made : requested options.diff names inspector now text with
      | error fault =>
        rw [made] at ran
        cases ran
        cases result
      | ok artifacts =>
        rw [made] at ran
        obtain ⟨-, names, -, -, rfl, -, -⟩ := requested_eq_ok_iff.1 made
        obtain ⟨paths, all, same⟩ := carryOut_eq_iff.1 ⟨ran, outcome, result⟩
        exact ⟨names, listed, artifacts, paths, rfl, made, all, same⟩
  · rintro ⟨names, listed, artifacts, paths, hn, made, all, same⟩
    obtain ⟨decl, -, -, parsed, -⟩ := requested_eq_ok_iff.1 made
    rw [run_generate parsed hn, made]
    exact carryOut_eq_iff.2 ⟨paths, all, same⟩

/-- A run that succeeds gives the artifacts that it was to make. -/
theorem artifacts_of_succeeded {trial : Bool} {paths : List String} {outcome : Outcome}
    (all : archive.StoresAll (kept trial artifacts) s paths t)
    (h : (succeeded trial artifacts paths).result = .ok outcome) :
    outcome.artifacts.map StoredArtifact.artifact = artifacts := by
  have carried := (carryOut_eq_iff.2 ⟨paths, all, rfl⟩).1
  cases outcome with
  | upToDate =>
    by_cases empty : artifacts = []
    · rw [empty]
      rfl
    · unfold succeeded at h
      rw [if_neg (by simpa using empty)] at h
      split at h <;> cases h
  | generated stored =>
    exact (artifacts_of_carryOut ((congrArg (fun out => out.1.result) carried).trans h)).2

end Archive

end SchemaPlan
