import SchemaPlan.Proofs.AllOrNothing
import SchemaPlan.Proofs.Recording

/-!
# Sources in another order

Whether artifacts can be stored in another order is a matter of the archive.
`Archive.KeepsApart` asks for it of two sources of different names only, and only
where both could be stored in the one order. The result of the other order need not
be the same state, as entries may come in another order too; it has to be one that
cannot be told from it by what is stored later. From two sources it carries over to
two lists that have no name in common (`Archive.StoresAll.exchange`).
-/

namespace SchemaPlan

namespace Archive

variable {σ ε : Type}

/-- **An archive keeps its sources apart.** Its states may be `alike` without being
the same; a state is sound if it is alike to itself. Only names that a run may pass
on count. -/
structure KeepsApart (archive : Archive (StateM σ)) (alike : σ → σ → Prop)
    (content : σ → String → Option ε) (entry : String → ε) : Prop where
  /-- States are alike if one between them is alike to both. -/
  trans : ∀ {s t u}, alike s t → alike t u → alike s u
  /-- States that are alike have the same under every name. -/
  agree : ∀ {s t}, alike s t → content s = content t
  /-- The names that have something are listed, which changes nothing. -/
  names : ∀ {s}, alike s s → ∃ names, archive.names.run s = (.ok names, s) ∧
    ∀ n, n ∈ names ↔ (content s n).isSome
  /-- What can be stored in a state goes to the same place in one that is alike. -/
  persist : ∀ {now name source path s t next}, MayPass now name → alike s t →
    (archive.persist name source).run s = (.ok path, next) →
      ∃ other, (archive.persist name source).run t = (.ok path, other) ∧ alike next other
  /-- A source that is stored is there under its name, and all else is as it was. -/
  stored : ∀ {now name source path s t}, MayPass now name → alike s s →
    (archive.persist name source).run s = (.ok path, t) →
      content t = Function.update (content s) name (some (entry source))
  /-- Sources of different names can be stored in the other order. -/
  exchange : ∀ {now later a b x y p q s middle t}, MayPass now a → MayPass later b → a ≠ b →
    alike s s → (archive.persist a x).run s = (.ok p, middle) →
    (archive.persist b y).run middle = (.ok q, t) →
      ∃ between other, (archive.persist b y).run s = (.ok q, between) ∧
        (archive.persist a x).run between = (.ok p, other) ∧ alike t other

/-- The state that is left is sound. -/
theorem KeepsApart.sound {archive : Archive (StateM σ)} {alike : σ → σ → Prop}
    {content : σ → String → Option ε} {entry : String → ε}
    (apart : archive.KeepsApart alike content entry) {now : Instant} {name source path : String}
    {s t : σ} (passes : MayPass now name) (sound : alike s s)
    (ran : (archive.persist name source).run s = (.ok path, t)) : alike t t := by
  obtain ⟨other, again, same⟩ := apart.persist passes sound ran
  rw [ran] at again
  cases again
  exact same

/-! ## The other order -/

namespace StoresAll

variable {alike : σ → σ → Prop} {content : σ → String → Option ε} {entry : String → ε}
  {archive : Archive (StateM σ)} {artifacts : List Artifact} {s t middle : σ}
  {paths : List String} {now later : Instant}

/-- In states that are alike the same artifacts are stored at the same places.
What the states do not have in common, such as the order of the entries, is
never asked for. -/
theorem of_alike (h : archive.StoresAll artifacts s paths t)
    (apart : archive.KeepsApart alike content entry)
    (names : ∀ artifact ∈ artifacts, MayPass now artifact.name) {u : σ} (same : alike s u) :
    ∃ v, archive.StoresAll artifacts u paths v ∧ alike t v := by
  induction h generalizing u with
  | nil s => exact ⟨u, .nil u, same⟩
  | cons first _ ih =>
    rw [List.forall_mem_cons] at names
    obtain ⟨next, stored, same⟩ := apart.persist names.1 same first
    obtain ⟨v, all, same⟩ := ih names.2 same
    exact ⟨v, .cons stored all, same⟩

/-- After artifacts are stored, their names are listed and no others are new. A
later run that looks for a creation sees theirs. -/
theorem names (h : archive.StoresAll artifacts s paths t)
    (apart : archive.KeepsApart alike content entry)
    (passes : ∀ artifact ∈ artifacts, MayPass now artifact.name) (sound : alike s s) :
    alike t t ∧ ∀ n, (content t n).isSome ↔
      n ∈ artifacts.map Artifact.name ∨ (content s n).isSome := by
  induction h with
  | nil s => exact ⟨sound, fun n => by simp⟩
  | @cons artifact rest s next t path paths first _ ih =>
    rw [List.forall_mem_cons] at passes
    obtain ⟨last, listed⟩ := ih passes.2 (apart.sound passes.1 sound first)
    refine ⟨last, fun n => ?_⟩
    rw [listed, apart.stored passes.1 sound first, List.map_cons, List.mem_cons]
    by_cases here : n = artifact.name
    · subst here
      simp
    · rw [Function.update_of_ne here]
      simp [here]

/-- One artifact is stored after others instead of before them. Runs change
places by moving their artifacts one at a time. -/
theorem exchange_one (apart : archive.KeepsApart alike content entry) {artifact : Artifact}
    (passes : MayPass now artifact.name)
    (names : ∀ other ∈ artifacts, MayPass later other.name)
    (different : ∀ other ∈ artifacts, artifact.name ≠ other.name) {path : String}
    (sound : alike s s)
    (first : (archive.persist artifact.name artifact.source).run s = (.ok path, middle))
    (all : archive.StoresAll artifacts middle paths t) :
    ∃ between last, archive.StoresAll artifacts s paths between ∧
      (archive.persist artifact.name artifact.source).run between = (.ok path, last) ∧
      alike t last := by
  induction artifacts generalizing s t middle paths with
  | nil =>
    cases all
    exact ⟨s, t, .nil s, first, apart.sound passes sound first⟩
  | cons second rest ih =>
    rw [List.forall_mem_cons] at names different
    cases all with
    | cons stored all =>
      obtain ⟨between, other, second', first', same⟩ :=
        apart.exchange passes names.1 different.1 sound first stored
      obtain ⟨v, all', same'⟩ := all.of_alike apart names.2 same
      obtain ⟨w, last, all'', first'', same''⟩ :=
        ih names.2 different.2 (apart.sound names.1 sound second') first' all'
      exact ⟨w, last, .cons second' all'', first'', apart.trans same' same''⟩

/-- **Two lists of artifacts can be stored in the other order**, if they have no name
in common: each artifact goes to the place to which it went, and the states that are
left are alike. -/
theorem exchange (apart : archive.KeepsApart alike content entry)
    {first second : List Artifact} {places others : List String}
    (passes : ∀ artifact ∈ first, MayPass now artifact.name)
    (names : ∀ artifact ∈ second, MayPass later artifact.name)
    (different : ∀ artifact ∈ first, ∀ other ∈ second, artifact.name ≠ other.name)
    (sound : alike s s) (one : archive.StoresAll first s places middle)
    (two : archive.StoresAll second middle others t) :
    ∃ between last, archive.StoresAll second s others between ∧
      archive.StoresAll first between places last ∧ alike t last := by
  induction one generalizing t with
  | nil s => exact ⟨t, t, two, .nil t, (two.names apart names sound).1⟩
  | @cons artifact rest s next middle path places stored _ ih =>
    rw [List.forall_mem_cons] at passes different
    -- the others go past the rest of the list, and then past its first artifact
    obtain ⟨u, v, second', rest', same⟩ :=
      ih passes.2 different.2 (apart.sound passes.1 sound stored) two
    obtain ⟨w, last, second'', first', same'⟩ :=
      exchange_one apart passes.1 names different.1 sound stored second'
    obtain ⟨v', rest'', same''⟩ := rest'.of_alike apart passes.2 same'
    exact ⟨w, v', second'', .cons first' rest'', apart.trans same same''⟩

end StoresAll

/-! ## The archive in memory -/

/-- Two lists of names and sources have the same entries, and no name twice.
The order in which they were added is what may differ. -/
def SameEntries (s t : List (String × String)) : Prop :=
  s.Perm t ∧ (s.map Prod.fst).Nodup

theorem memoryContent_eq_some_iff {s : List (String × String)} (distinct : (s.map Prod.fst).Nodup)
    {name source : String} : memoryContent s name = some source ↔ (name, source) ∈ s := by
  rw [memoryContent, Option.map_eq_some_iff]
  constructor
  · rintro ⟨entry, found, rfl⟩
    have same : entry.1 = name := by simpa using List.find?_some found
    exact same ▸ List.mem_of_find?_eq_some found
  · intro there
    cases found : s.find? fun entry => entry.1 == name with
    | none => exact absurd (List.find?_eq_none.1 found _ there) (by simp)
    | some entry =>
      have same : entry.1 = name := by simpa using List.find?_some found
      refine ⟨entry, rfl, ?_⟩
      rw [List.inj_on_of_nodup_map distinct (List.mem_of_find?_eq_some found) there same]

theorem memoryPersist_eq_ok_iff {capacity : Nat} {name source path : String}
    {s t : List (String × String)} :
    memoryPersist capacity name source s = (.ok path, t) ↔
      (name ∉ s.map Prod.fst ∧ s.length < capacity) ∧ path = name ∧ t = s ++ [(name, source)] := by
  constructor
  · intro stored
    obtain ⟨free, rfl, rfl⟩ := memoryPersist_eq_ok stored
    refine ⟨⟨free, ?_⟩, rfl, rfl⟩
    rw [memoryPersist, if_neg free] at stored
    by_contra full
    rw [if_neg full] at stored
    cases stored
  · rintro ⟨⟨free, room⟩, rfl, rfl⟩
    rw [memoryPersist, if_neg free, if_pos room]

theorem nodup_names_concat {s : List (String × String)} (distinct : (s.map Prod.fst).Nodup)
    {name : String} (free : name ∉ s.map Prod.fst) (source : String) :
    ((s ++ [(name, source)]).map Prod.fst).Nodup := by
  rw [List.map_append, List.nodup_append_comm]
  exact List.nodup_cons.2 ⟨free, distinct⟩

/-- **A list of names and sources keeps them apart**, however many it may have. -/
theorem keepsApart_memory (capacity : Nat) :
    (memory capacity).KeepsApart SameEntries memoryContent id where
  trans := fun ⟨first, distinct⟩ ⟨second, _⟩ => ⟨first.trans second, distinct⟩
  agree := by
    rintro s t ⟨same, distinct⟩
    have distinct' := (same.map Prod.fst).nodup_iff.1 distinct
    refine funext fun n => Option.ext fun source => ?_
    rw [memoryContent_eq_some_iff distinct, memoryContent_eq_some_iff distinct', same.mem_iff]
  names := fun {s} _ => ⟨s.map Prod.fst, rfl, lists_memory capacity s _ rfl⟩
  persist := by
    rintro now name source path s t next - ⟨same, distinct⟩ ran
    obtain ⟨⟨free, room⟩, rfl, rfl⟩ := memoryPersist_eq_ok_iff.1 ran
    refine ⟨t ++ [(path, source)], memoryPersist_eq_ok_iff.2 ⟨⟨?_, ?_⟩, rfl, rfl⟩,
      same.append_right _, nodup_names_concat distinct free source⟩
    · exact (same.map Prod.fst).mem_iff.not.1 free
    · exact same.length_eq ▸ room
  stored := fun _ _ ran => ((keeps_memory _).stored ran).2
  exchange := by
    rintro now later a b x y p q s middle t - - different ⟨-, distinct⟩ first second
    obtain ⟨⟨free, -⟩, rfl, rfl⟩ := memoryPersist_eq_ok_iff.1 first
    obtain ⟨⟨free', room⟩, rfl, rfl⟩ := memoryPersist_eq_ok_iff.1 second
    have unique := nodup_names_concat (nodup_names_concat distinct free x) free' y
    rw [List.length_append, List.length_singleton] at room
    rw [List.map_append, List.mem_append, not_or] at free'
    refine ⟨s ++ [(q, y)], s ++ [(q, y)] ++ [(p, x)],
      memoryPersist_eq_ok_iff.2 ⟨⟨free'.1, by omega⟩, rfl, rfl⟩,
      memoryPersist_eq_ok_iff.2 ⟨⟨?_, ?_⟩, rfl, rfl⟩, ?_, unique⟩
    · rw [List.map_append, List.mem_append, not_or]
      exact ⟨free, by simpa using different⟩
    · rw [List.length_append, List.length_singleton]
      exact room
    · rw [List.append_assoc, List.append_assoc]
      exact (List.Perm.swap _ _ _).append_left s

end Archive

end SchemaPlan
