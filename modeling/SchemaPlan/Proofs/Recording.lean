import SchemaPlan.Proofs.ArtifactName
import SchemaPlan.Proofs.Storing

/-!
# The names that an archive is asked for

A run asks its archive to list names, to store sources under names, and to remove
what it has stored. Two archives that answer alike are not told apart by a run
(`Archive.Simulates.generate`), and they need to answer alike only where a run
asks: for names of artifacts, and for places that they have given.

An archive that writes down the names it is asked for answers as the one that it
is made of. So there is a record of these names for every archive, and all names
in it are plain (`Archive.of_recording`).
-/

namespace SchemaPlan

namespace Archive

variable {α σ τ : Type}

/-- Two results are the same, and the states that come with them are related.
The states may be of different types. -/
def Match (related : σ → τ → Prop) (first : α × σ) (second : α × τ) : Prop :=
  first.1 = second.1 ∧ related first.2 second.2

/-- **Two archives answer alike** in related states and leave related states, as
far as sources are stored under the names in question and removed from the places
that were given for them. -/
structure Simulates (first : Archive (StateM σ)) (second : Archive (StateM τ))
    (asked given : String → Prop) (related : σ → τ → Prop) : Prop where
  /-- They list the same names. -/
  names : ∀ {s t}, related s t → Match related (first.names.run s) (second.names.run t)
  /-- They store a source at the same place, or both do not. -/
  persist : ∀ {s t name source}, asked name → related s t →
    Match related ((first.persist name source).run s) ((second.persist name source).run t) ∧
      ∀ path, ((first.persist name source).run s).1 = .ok path → given path
  /-- They remove a source from a place, or both do not. -/
  remove : ∀ {s t path}, given path → related s t →
    Match related ((first.remove path).run s) ((second.remove path).run t)

namespace Simulates

variable {first : Archive (StateM σ)} {second : Archive (StateM τ)} {asked given : String → Prop}
  {related : σ → τ → Prop} {s : σ} {t : τ}

theorem rollBack (h : first.Simulates second asked given related) {paths : List String}
    (places : ∀ path ∈ paths, given path) (alike : related s t) :
    Match related ((first.rollBack paths).run s) ((second.rollBack paths).run t) := by
  induction paths generalizing s t with
  | nil => exact ⟨rfl, alike⟩
  | cons path rest ih =>
    rw [List.forall_mem_cons] at places
    obtain ⟨removed, next⟩ := h.remove places.1 alike
    obtain ⟨later, last⟩ := ih places.2 next
    simp only [Archive.rollBack, run_bind, run_pure]
    refine ⟨?_, last⟩
    dsimp only
    rw [removed, later]

theorem persistAll (h : first.Simulates second asked given related) {paths : List String}
    {artifacts : List Artifact} (names : ∀ artifact ∈ artifacts, asked artifact.name)
    (places : ∀ path ∈ paths, given path) (alike : related s t) :
    Match related ((first.persistAll paths artifacts).run s)
      ((second.persistAll paths artifacts).run t) := by
  induction artifacts generalizing s t paths with
  | nil => exact ⟨rfl, alike⟩
  | cons artifact rest ih =>
    rw [List.forall_mem_cons] at names
    obtain ⟨⟨stored, next⟩, place⟩ := @h.persist s t artifact.name artifact.source names.1 alike
    rw [run_persistAll_cons, run_persistAll_cons]
    rcases hf : (first.persist artifact.name artifact.source).run s with ⟨result, s'⟩
    rcases hs : (second.persist artifact.name artifact.source).run t with ⟨result', t'⟩
    rw [hf, hs] at stored next
    rw [hf] at place
    cases stored
    cases result with
    | error fault =>
      obtain ⟨journal, last⟩ := h.rollBack places next
      refine ⟨?_, last⟩
      dsimp only
      rw [journal]
    | ok path =>
      have places' : ∀ p ∈ path :: paths, given p :=
        List.forall_mem_cons.2 ⟨place path rfl, places⟩
      obtain ⟨later, last⟩ := ih names.2 places' next
      refine ⟨?_, last⟩
      dsimp only at later ⊢
      rw [later]

theorem carryOut (h : first.Simulates second asked given related) (trial : Bool)
    {artifacts : List Artifact} (names : ∀ artifact ∈ artifacts, asked artifact.name)
    (alike : related s t) :
    Match related ((first.carryOut trial artifacts).run s)
      ((second.carryOut trial artifacts).run t) := by
  by_cases empty : artifacts = []
  · subst empty
    exact ⟨rfl, alike⟩
  · cases trial with
    | true =>
      rw [run_carryOut_trial empty, run_carryOut_trial empty]
      exact ⟨rfl, alike⟩
    | false =>
      have unstored : ∀ path ∈ ([] : List String), given path := List.forall_mem_nil _
      obtain ⟨stored, last⟩ := h.persistAll names unstored alike
      rw [run_carryOut_store empty, run_carryOut_store empty, stored]
      exact ⟨rfl, last⟩

/-- **Archives that answer alike are not told apart by a run.** They have to
answer alike only to what the run asks of them, so one may refuse what the
other accepts. -/
theorem generate (h : first.Simulates second asked given related) {options : RunOptions}
    {inspector : Inspector} {now : Instant} {text : String}
    (names : ∀ listed artifacts, requested options.diff listed inspector now text = .ok artifacts →
      ∀ artifact ∈ artifacts, asked artifact.name) (alike : related s t) :
    Match related ((first.generate options inspector now text).run s)
      ((second.generate options inspector now text).run t) := by
  cases parsed : TableDecl.parse text with
  | error fault =>
    rw [run_generate_of_parse_error parsed, run_generate_of_parse_error parsed]
    exact ⟨rfl, alike⟩
  | ok decl =>
    obtain ⟨same, next⟩ := h.names alike
    rcases hf : first.names.run s with ⟨listed, s'⟩
    rcases hs : second.names.run t with ⟨listed', t'⟩
    rw [hf, hs] at same next
    cases same
    rw [run_generate parsed hf, run_generate parsed hs]
    cases made : requested options.diff listed inspector now text with
    | error fault => exact ⟨rfl, next⟩
    | ok artifacts => exact h.carryOut options.trial (names listed artifacts made) next

end Simulates

/-! ## A record of the names -/

/-- The archive that does the same and also writes down, in order, each name under
which it is asked to store a source. -/
def recording (archive : Archive (StateM σ)) : Archive (StateM (σ × List String)) where
  names := fun (s, passed) =>
    let (listed, t) := archive.names.run s
    (listed, (t, passed))
  persist name source := fun (s, passed) =>
    let (result, t) := (archive.persist name source).run s
    (result, (t, passed ++ [name]))
  remove path := fun (s, passed) =>
    let (result, t) := (archive.remove path).run s
    (result, (t, passed))

/-- **A name that a run may pass on**: it is plain, and has the sign of a time at
which the run makes an artifact. -/
def MayPass (now : Instant) (name : String) : Prop :=
  ∃ time n, now.later? n = some time ∧ IsPlainName time.sign name

/-- The names of the artifacts that a run makes are such. -/
theorem mayPass_of_requested {options : DiffOptions} {listed : Except Fault (List String)}
    {inspector : Inspector} {now : Instant} {text : String} {artifacts : List Artifact}
    (h : requested options listed inspector now text = .ok artifacts) :
    ∀ artifact ∈ artifacts, MayPass now artifact.name := by
  obtain ⟨decl, parsed, made⟩ := of_requested h
  have named := TableDecl.isIdentifier_of_parse parsed
  intro artifact ha
  obtain ⟨table, n, dated⟩ := made artifact ha
  rw [← table] at named
  exact ⟨artifact.createdAt, n, dated, Artifact.isPlainName_name named⟩

/-- An archive is simulated by its record, and what holds of the names in question
holds of the names that are written down. -/
theorem simulates_recording (archive : Archive (StateM σ)) (asked : String → Prop) :
    archive.Simulates archive.recording asked (fun _ => True)
      fun s t => t.1 = s ∧ ∀ name ∈ t.2, asked name where
  names := by
    rintro s ⟨_, passed⟩ ⟨rfl, names⟩
    exact ⟨rfl, rfl, names⟩
  persist := by
    rintro s ⟨_, passed⟩ name source ask ⟨rfl, names⟩
    refine ⟨⟨rfl, rfl, fun n hn => ?_⟩, fun _ _ => trivial⟩
    rcases List.mem_append.1 hn with earlier | last
    · exact names n earlier
    · rw [List.mem_singleton.1 last]
      exact ask
  remove := by
    rintro s ⟨_, passed⟩ path - ⟨rfl, names⟩
    exact ⟨rfl, rfl, names⟩

/-- **All names that a run passes to its archive are plain**, whatever the archive
is and whatever it answers. Writing them down does not change the run. -/
theorem of_recording {archive : Archive (StateM σ)} {options : RunOptions} {inspector : Inspector}
    {now : Instant} {text : String} {s t : σ} {report : RunReport} {passed : List String}
    (ran : (archive.recording.generate options inspector now text).run (s, []) =
      (report, (t, passed))) :
    (archive.generate options inspector now text).run s = (report, t) ∧
      ∀ name ∈ passed, MayPass now name := by
  obtain ⟨same, kept, names⟩ := (archive.simulates_recording (MayPass now)).generate
    (fun _ _ made => mayPass_of_requested made)
    (⟨rfl, List.forall_mem_nil _⟩ : (s, ([] : List String)).1 = s ∧ _)
  rw [ran] at same kept names
  exact ⟨Prod.ext same kept.symm, names⟩

/-- Artifacts that are stored over a record are stored without it, and their names are
written down in order. -/
theorem StoresAll.of_recording {archive : Archive (StateM σ)} {artifacts : List Artifact}
    {paths : List String} {first last : σ × List String}
    (all : archive.recording.StoresAll artifacts first paths last) :
    archive.StoresAll artifacts first.1 paths last.1 ∧
      last.2 = first.2 ++ artifacts.map Artifact.name := by
  induction all with
  | nil s => exact ⟨.nil s.1, (List.append_nil _).symm⟩
  | @cons artifact rest first next last path paths stored _ ih =>
    obtain ⟨later, names⟩ := ih
    obtain ⟨s, before⟩ := first
    rcases hp : (archive.persist artifact.name artifact.source).run s with ⟨result, state⟩
    have step : (archive.recording.persist artifact.name artifact.source).run (s, before) =
        (result, (state, before ++ [artifact.name])) :=
      congrArg (fun out : _ × σ => (out.1, (out.2, before ++ [artifact.name]))) hp
    rw [stored] at step
    cases step
    refine ⟨.cons hp later, ?_⟩
    rw [names, List.append_assoc]
    rfl

end Archive

end SchemaPlan
