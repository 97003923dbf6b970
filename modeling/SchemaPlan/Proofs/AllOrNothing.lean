import Mathlib.Logic.Function.Basic
import SchemaPlan.Proofs.Run

/-!
# All artifacts of a run are stored, or none

What an archive holds is a map from names to sources. How it holds it is left
open: `Archive.Keeps` says what its operations do to the map, and no more. A
source may fail to be stored at any time, and must fail to be where its name
is taken, and whoever knows the place of a source can remove it.

A run stores its artifacts one by one, so a failure can come after some of
them. The invariant of the loop is `Archive.Owns`: the places that the run
remembers belong to names that were free, and without them the archive holds
what it held at the start. From there on both ends of the loop are short: a
run that succeeds has added its artifacts, and one that fails removes, last
one first, just what it has added (`Archive.content_rollBack`).
-/

namespace SchemaPlan

namespace Archive

variable {σ : Type}

/-- **An archive keeps a map from names to sources.** This is what a store has
to guarantee for a run to be undone: it never overwrites, a failure leaves no
trace, and a source is removed from the place that was given for it. -/
structure Keeps (archive : Archive (StateM σ)) (content : σ → String → Option String) : Prop where
  /-- Listing the names changes nothing. -/
  names : ∀ s, content (archive.names.run s).2 = content s
  /-- A source that cannot be stored leaves the archive as it is. -/
  failed : ∀ {s t name source fault},
    (archive.persist name source).run s = (.error fault, t) → content t = content s
  /-- A source that is stored goes to a name that is free, and nowhere else. -/
  stored : ∀ {s t name source path},
    (archive.persist name source).run s = (.ok path, t) →
      content s name = none ∧ content t = Function.update (content s) name (some source)
  /-- Removing from the place of a source that is there removes this source and
  nothing else. -/
  removed : ∀ {s t name source path},
    (archive.persist name source).run s = (.ok path, t) →
      ∀ u, content u name = some source →
        content ((archive.remove path).run u).2 = Function.update (content u) name none

/-- **Artifacts have been added to a map**: their names were free and are
different, each name has its source now, and all other names have what they
had. -/
structure Grown (artifacts : List Artifact) (before after : String → Option String) : Prop where
  /-- The names were free. -/
  fresh : ∀ artifact ∈ artifacts, before artifact.name = none
  /-- The names are different. -/
  distinct : (artifacts.map Artifact.name).Nodup
  /-- Each name has its source. -/
  added : ∀ artifact ∈ artifacts, after artifact.name = some artifact.source
  /-- All other names have what they had. -/
  kept : ∀ n, n ∉ artifacts.map Artifact.name → after n = before n

theorem Grown.nil (content : String → Option String) : Grown [] content content :=
  ⟨fun _ ha => absurd ha List.not_mem_nil, List.nodup_nil,
    fun _ ha => absurd ha List.not_mem_nil, fun _ _ => rfl⟩

/-- One artifact is added before the others. -/
theorem Grown.cons {artifact : Artifact} {rest : List Artifact}
    {before after : String → Option String} (free : before artifact.name = none)
    (h : Grown rest (Function.update before artifact.name (some artifact.source)) after) :
    Grown (artifact :: rest) before after := by
  have different : artifact.name ∉ rest.map Artifact.name := by
    intro repeated
    obtain ⟨other, ho, same⟩ := List.mem_map.1 repeated
    have taken := h.fresh other ho
    rw [same, Function.update_self] at taken
    cases taken
  constructor
  case fresh =>
    intro a ha
    rcases List.mem_cons.1 ha with rfl | ha
    · exact free
    · have other : a.name ≠ artifact.name := fun same =>
        different (same ▸ List.mem_map_of_mem ha)
      rw [← h.fresh a ha, Function.update_of_ne other]
  case distinct => exact List.nodup_cons.2 ⟨different, h.distinct⟩
  case added =>
    intro a ha
    rcases List.mem_cons.1 ha with rfl | ha
    · rw [h.kept a.name different, Function.update_self]
    · exact h.added a ha
  case kept =>
    intro n hn
    rw [List.map_cons, List.mem_cons, not_or] at hn
    rw [h.kept n hn.2, Function.update_of_ne hn.1]

/-- Adding artifacts overwrites nothing. -/
theorem Grown.preserves {artifacts : List Artifact} {before after : String → Option String}
    (h : Grown artifacts before after) {n source : String} (hn : before n = some source) :
    after n = some source := by
  rw [h.kept n, hn]
  intro named
  obtain ⟨artifact, ha, rfl⟩ := List.mem_map.1 named
  rw [h.fresh artifact ha] at hn
  cases hn

/-! ## What a run has stored so far -/

variable {archive : Archive (StateM σ)} {content : σ → String → Option String}

/-- **The places belong to names that were free**: without what is stored
there, the archive holds the given map. -/
def Owns (archive : Archive (StateM σ)) (content : σ → String → Option String)
    (before : String → Option String) : List String → (String → Option String) → Prop
  | [], now => now = before
  | path :: rest, now => ∃ name source earlier,
      Owns archive content before rest earlier ∧ earlier name = none ∧
      now = Function.update earlier name (some source) ∧
      ∀ u, content u name = some source →
        content ((archive.remove path).run u).2 = Function.update (content u) name none

/-- **Rolling back leaves what there was before.** -/
theorem content_rollBack {before : String → Option String} {paths : List String} {s : σ}
    (h : Owns archive content before paths (content s)) :
    content ((archive.rollBack paths).run s).2 = before := by
  induction paths generalizing s with
  | nil => exact h
  | cons path rest ih =>
    obtain ⟨name, source, earlier, owned, free, now, removes⟩ := h
    have there : content s name = some source := by
      rw [now, Function.update_self]
    -- the name was free, so removing its source undoes the update
    have gone : content ((archive.remove path).run s).2 = earlier := by
      rw [removes s there, now, Function.update_idem, ← free, Function.update_eq_self]
    rw [← gone] at owned
    exact ih owned

/-- **Storing artifacts adds all of them or leaves what there was before.** -/
theorem content_persistAll (keeps : archive.Keeps content) {before : String → Option String}
    {paths : List String} {artifacts : List Artifact} {s t : σ}
    {result : Except Fault (List StoredArtifact)} {journal : List JournalEntry}
    (owned : Owns archive content before paths (content s))
    (h : (archive.persistAll paths artifacts).run s = ((result, journal), t)) :
    (∀ stored, result = .ok stored → Grown artifacts (content s) (content t)) ∧
      ∀ fault, result = .error fault → content t = before := by
  induction artifacts generalizing s t paths result journal with
  | nil =>
    cases h
    exact ⟨fun _ _ => .nil (content s), nofun⟩
  | cons artifact rest ih =>
    rw [run_persistAll_cons] at h
    rcases hp : (archive.persist artifact.name artifact.source).run s with ⟨fault | path, next⟩
    · rw [hp] at h
      cases h
      rw [← keeps.failed hp] at owned
      exact ⟨nofun, fun _ _ => content_rollBack owned⟩
    · rw [hp] at h
      obtain ⟨free, now⟩ := keeps.stored hp
      -- the place that was given joins those that a later failure rolls back
      have owned' : Owns archive content before (path :: paths) (content next) :=
        ⟨artifact.name, artifact.source, content s, owned, free, now, keeps.removed hp⟩
      rcases hr : (archive.persistAll (path :: paths) rest).run next with ⟨⟨later, tail⟩, last⟩
      dsimp only at h
      rw [hr] at h
      obtain ⟨grown, lost⟩ := ih owned' hr
      cases later with
      | error fault =>
        cases h
        exact ⟨nofun, fun _ _ => lost fault rfl⟩
      | ok stored =>
        cases h
        have grown := grown stored rfl
        rw [now] at grown
        exact ⟨fun _ _ => grown.cons free, nofun⟩

/-! ## A whole run -/

variable {options : RunOptions} {inspector : Inspector} {now : Instant} {text : String} {s : σ}

/-- Carrying out adds the artifacts or changes nothing. -/
theorem content_carryOut (keeps : archive.Keeps content) {artifacts : List Artifact} :
    (options.trial = false → ∀ stored,
      ((archive.carryOut options.trial artifacts).run s).1.result = .ok (.generated stored) →
        Grown (stored.map StoredArtifact.artifact) (content s)
          (content ((archive.carryOut options.trial artifacts).run s).2)) ∧
      ((options.trial = true ∨ ∀ stored,
        ((archive.carryOut options.trial artifacts).run s).1.result ≠ .ok (.generated stored)) →
          content ((archive.carryOut options.trial artifacts).run s).2 = content s) := by
  by_cases empty : artifacts = []
  · subst empty
    rw [run_carryOut_nil]
    exact ⟨nofun, fun _ => rfl⟩
  · cases options.trial with
    | true =>
      rw [run_carryOut_trial empty]
      exact ⟨nofun, fun _ => rfl⟩
    | false =>
      rw [run_carryOut_store empty]
      rcases hp : (archive.persistAll [] artifacts).run s with ⟨⟨result, journal⟩, t⟩
      have owned : Owns archive content (content s) [] (content s) := rfl
      obtain ⟨grown, lost⟩ := content_persistAll keeps owned hp
      cases result with
      | error fault => exact ⟨nofun, fun _ => lost fault rfl⟩
      | ok entries =>
        have same := @artifacts_of_persistAll σ archive s [] artifacts entries (by rw [hp])
        refine ⟨fun _ stored made => ?_, fun h => ?_⟩
        · cases made
          rw [same]
          exact grown _ rfl
        · exact absurd rfl ((h.resolve_left Bool.false_ne_true) entries)

/-- A trial of what could be stored gives the same artifacts. -/
theorem result_carryOut_trial {artifacts : List Artifact} {stored : List StoredArtifact}
    (h : ((archive.carryOut false artifacts).run s).1.result = .ok (.generated stored)) :
    ((archive.carryOut true artifacts).run s).1.result =
      .ok (.generated (stored.map fun entry => ⟨entry.artifact, none⟩)) := by
  obtain ⟨nonempty, rfl⟩ := artifacts_of_carryOut h
  rw [run_carryOut_trial nonempty, List.map_map]
  rfl

end Archive

/-- **A run stores all of its artifacts or none.** Over an archive that keeps a
map from names to sources, a run that generates artifacts, and is no trial,
has added just these: under names that were free and are different, and it
has left all other names alone. Every other run, one that is stopped at any
stage, one that finds nothing to do, and a trial, leaves the map as it is. So
nothing that was stored before is ever overwritten or removed. And what a run
stores, a trial gives from the same state without a place. -/
theorem generate_all_or_nothing {σ : Type} {archive : Archive (StateM σ)}
    {content : σ → String → Option String} (keeps : archive.Keeps content) {options : RunOptions}
    {inspector : Inspector} {now : Instant} {text : String} {s t : σ} {report : RunReport}
    (ran : (archive.generate options inspector now text).run s = (report, t)) :
    (options.trial = false → ∀ stored, report.result = .ok (.generated stored) →
      Archive.Grown (stored.map StoredArtifact.artifact) (content s) (content t)) ∧
    ((options.trial = true ∨ ∀ stored, report.result ≠ .ok (.generated stored)) →
      content t = content s) ∧
    (∀ n source, content s n = some source → content t n = some source) ∧
    (options.trial = false → ∀ stored, report.result = .ok (.generated stored) →
      ((archive.generate ⟨true, options.diff⟩ inspector now text).run s).1.result =
        .ok (.generated (stored.map fun entry => ⟨entry.artifact, none⟩))) := by
  suffices outcome : (options.trial = false → ∀ stored, report.result = .ok (.generated stored) →
        Archive.Grown (stored.map StoredArtifact.artifact) (content s) (content t) ∧
        ((archive.generate ⟨true, options.diff⟩ inspector now text).run s).1.result =
          .ok (.generated (stored.map fun entry => ⟨entry.artifact, none⟩))) ∧
      ((options.trial = true ∨ ∀ stored, report.result ≠ .ok (.generated stored)) →
        content t = content s) by
    refine ⟨fun real stored made => (outcome.1 real stored made).1, outcome.2, fun n source hn => ?_,
      fun real stored made => (outcome.1 real stored made).2⟩
    by_cases writes : options.trial = false ∧ ∃ stored, report.result = .ok (.generated stored)
    · obtain ⟨real, stored, made⟩ := writes
      exact (outcome.1 real stored made).1.preserves hn
    · rw [outcome.2, hn]
      rw [not_and_or, Bool.not_eq_false, not_exists] at writes
      exact writes
  rcases parsed : TableDecl.parse text with fault | decl
  · rw [Archive.run_generate_of_parse_error parsed] at ran
    cases ran
    exact ⟨nofun, fun _ => rfl⟩
  rcases hn : archive.names.run s with ⟨names, listed⟩
  have same : content listed = content s := by
    rw [← keeps.names s, hn]
  have trial := @Archive.run_generate σ archive ⟨true, options.diff⟩ inspector now text s listed decl
    parsed names hn
  rw [Archive.run_generate parsed hn] at ran
  rcases hr : Archive.requested options.diff names inspector now text with fault | artifacts
  · rw [hr] at ran
    cases ran
    exact ⟨nofun, fun _ => same⟩
  · rw [hr] at ran trial
    have carried : (archive.carryOut options.trial artifacts).run listed = (report, t) := ran
    have outcome := @Archive.content_carryOut σ archive content options listed keeps artifacts
    rw [carried, same] at outcome
    refine ⟨fun real stored made => ⟨outcome.1 real stored made, ?_⟩, outcome.2⟩
    rw [trial]
    refine Archive.result_carryOut_trial ?_
    rw [← real, carried]
    exact made

/-! ## The archive in memory -/

/-- The source under a name in a list. -/
def Archive.memoryContent (entries : List (String × String)) (name : String) : Option String :=
  (entries.find? fun entry => entry.1 == name).map Prod.snd

theorem Archive.memoryPersist_eq_ok {capacity : Nat} {name source path : String}
    {entries after : List (String × String)}
    (h : memoryPersist capacity name source entries = (.ok path, after)) :
    name ∉ entries.map Prod.fst ∧ path = name ∧ after = entries ++ [(name, source)] := by
  unfold memoryPersist at h
  split at h
  · cases h
  · rename_i free
    split at h
    · cases h
      exact ⟨free, rfl, rfl⟩
    · cases h

theorem Archive.memoryPersist_eq_error {capacity : Nat} {name source : String} {fault : Fault}
    {entries after : List (String × String)}
    (h : memoryPersist capacity name source entries = (.error fault, after)) :
    after = entries := by
  unfold memoryPersist at h
  split at h
  · cases h
    rfl
  · split at h
    · cases h
    · cases h
      rfl

/-- A list of names and sources keeps a map, however many entries it may
have. -/
theorem Archive.keeps_memory (capacity : Nat) :
    (Archive.memory capacity).Keeps Archive.memoryContent := by
  constructor
  case names => exact fun s => rfl
  case failed =>
    intro s t name source fault h
    rw [memoryPersist_eq_error h]
  case stored =>
    intro s t name source path h
    obtain ⟨free, -, rfl⟩ := memoryPersist_eq_ok h
    have absent : s.find? (fun entry => entry.1 == name) = none := by
      rw [List.find?_eq_none]
      intro entry he same
      exact free (List.mem_map.2 ⟨entry, he, by simpa using same⟩)
    refine ⟨by rw [memoryContent, absent]; rfl, ?_⟩
    funext n
    by_cases same : n = name
    · subst same
      rw [Function.update_self, memoryContent, List.find?_append, absent]
      simp
    · have different : ¬ name = n := fun h => same h.symm
      rw [Function.update_of_ne same, memoryContent, List.find?_append]
      simp [memoryContent, different]
  case removed =>
    intro s t name source path h u _
    obtain ⟨-, rfl, -⟩ := memoryPersist_eq_ok h
    show memoryContent (u.filter fun entry => entry.1 != path) = _
    funext n
    by_cases same : n = path
    · subst same
      rw [Function.update_self, memoryContent, List.find?_filter]
      simp
    · rw [Function.update_of_ne same, memoryContent, List.find?_filter, memoryContent]
      congr 2
      funext entry
      by_cases named : entry.1 = n
      · simp [named, same]
      · simp [named]

/-! ## Runs that do not get to their end -/

namespace TaggedNotes

/-- The notes may be long and get a tag, which takes two artifacts. -/
def text : String := "notes,body:text,tag:string"

/-- Something else is stored under the name of the second artifact. -/
def taken : List (String × String) :=
  [("1970_01_01_000001_modify_columns_in_notes_table", "mine")]

/-- An inspector that knows the notes but cannot look at their tags. -/
def halting : Inspector where
  isLive := (Inspector.online LongerNotes.before).isLive
  lookup table column :=
    if column = "tag" then .error .database
    else (Inspector.online LongerNotes.before).lookup table column

/-- The place that was emptied again, if an entry is about that. -/
def removed? : JournalEntry → Option String
  | .removed path => some path
  | _ => none

/-- A run over an archive with room for both artifacts. -/
def run (inspector : Inspector) : RunReport × List (String × String) :=
  ((Archive.memory 3).generate ⟨false, .standard⟩ inspector LongerNotes.start text).run taken

end TaggedNotes

/-- The notes that become longer are stored under their name. When they get a
tag as well, the artifact that adds it is stored first; the other one finds
its name taken, and the first is removed again. With an inspector that cannot
look at the tag nothing is ever stored. -/
theorem generate_all_or_nothing_notes :
    Archive.memoryContent
        (((Archive.memory 1).generate ⟨false, .standard⟩ (.online LongerNotes.before)
          LongerNotes.start LongerNotes.text).run []).2 LongerNotes.artifact.name =
      some LongerNotes.artifact.source ∧
    ((TaggedNotes.run (.online LongerNotes.before)).1.journal.filterMap TaggedNotes.removed? =
        ["1970_01_01_000000_add_columns_to_notes_table"] ∧
      Archive.memoryContent (TaggedNotes.run (.online LongerNotes.before)).2 =
        Archive.memoryContent TaggedNotes.taken) ∧
    (TaggedNotes.run TaggedNotes.halting).1.journal = [] ∧
      Archive.memoryContent (TaggedNotes.run TaggedNotes.halting).2 =
        Archive.memoryContent TaggedNotes.taken := by
  have kept : ∀ inspector, (TaggedNotes.run inspector).1.result.toOption.isNone = true →
      Archive.memoryContent (TaggedNotes.run inspector).2 =
        Archive.memoryContent TaggedNotes.taken := by
    intro inspector stopped
    rcases ran : TaggedNotes.run inspector with ⟨report, t⟩
    rw [ran] at stopped
    unfold TaggedNotes.run at ran
    refine (generate_all_or_nothing (Archive.keeps_memory 3) ran).2.1 (.inr fun stored made => ?_)
    rw [made] at stopped
    cases stopped
  refine ⟨?_, ⟨by decide +kernel, kept _ (by decide +kernel)⟩, by decide +kernel,
    kept _ (by decide +kernel)⟩
  obtain ⟨stored, generated, single⟩ := LongerNotes.exists_stored
  rcases ran : ((Archive.memory 1).generate ⟨false, .standard⟩ (.online LongerNotes.before)
    LongerNotes.start LongerNotes.text).run [] with ⟨report, t⟩
  rw [ran] at generated
  have grown := (generate_all_or_nothing (Archive.keeps_memory 1) ran).1 rfl stored generated
  rw [single] at grown
  exact grown.added LongerNotes.artifact List.mem_cons_self

end SchemaPlan
