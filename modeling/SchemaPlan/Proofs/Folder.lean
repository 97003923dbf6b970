import SchemaPlan.Archive.Folder
import SchemaPlan.Proofs.FileTree
import SchemaPlan.Proofs.Recording

/-!
# A folder is written to and nothing else

An archive in a directory makes a file of each name that it is asked to store a
source under. A name with a separator in it would be a path to somewhere else; the
names that a run passes on have none, so every file that a run makes stands in the
directory itself, has the name that was passed on, and is listed under it. This is
so for every text and every state of the file tree, whether the run succeeds, fails
halfway or is stopped at once (`generate_stays_in_directory`).

A run also removes files, when it takes back what it has stored. It removes only
what was not there before, which is why the invariant of a run speaks of the tree
before it, and a place counts as the run's own only if it was free there.
-/

namespace SchemaPlan

open FileTree

namespace FileTree

variable {tree after : FileTree} {location other : List String} {node : FileNode}
  {directory name text path : String}

/-! ## Removing an entry -/

/-- Removing takes away nothing but what stands at the place of the path. -/
@[simp] theorem at?_remove_of_ne (h : location ≠ place path) (tree : FileTree) :
    (tree.remove path).1.at? location = tree.at? location := by
  unfold remove
  split
  · rename_i spot _ located
    rw [eq_place_of_locate? located]
    unfold at?
    split
    · rfl
    · rw [find?_erased tree.entries h]
  · rfl

/-- Removing adds nothing: what is there afterwards was there before. -/
theorem at?_of_remove (found : (tree.remove path).1.at? location = some node) :
    tree.at? location = some node := by
  by_cases here : location = place path
  · subst here
    unfold remove at found
    split at found
    · rename_i spot _ located
      rw [eq_place_of_locate? located] at found
      by_cases fixed : IsFixed (place path)
      · rw [at?_of_isFixed fixed] at found ⊢
        exact found
      · rw [at?_eq_find? fixed] at found
        obtain ⟨e, he, -⟩ := Option.map_eq_some_iff.1 found
        have kept := (List.mem_filter.1 (List.mem_of_find?_eq_some he)).2
        have same := List.find?_some he
        rw [bne_iff_ne] at kept
        exact absurd (eq_of_beq same) kept
    · exact found
  · rw [at?_remove_of_ne here] at found
    exact found

end FileTree

namespace Archive

variable {tree before after : FileTree} {directory name source path : String} {now : Instant}

/-! ## Storing in a folder -/

theorem isEntryName_of_mayPass (h : MayPass now name) : IsEntryName (name ++ fileEnding) := by
  obtain ⟨time, n, -, plain⟩ := h
  have chars := plain.consists time.sign_mem
  have long : 3 ≤ (name ++ fileEnding).toList.length := by
    rw [String.toList_append, List.length_append]
    exact Nat.le_add_left 3 _
  constructor
  case whole =>
    rw [String.toList_append, List.mem_append]
    rintro (inside | ending)
    · exact (chars '/' inside).1 rfl
    · exact absurd ending (by decide)
  case moves =>
    refine ⟨?_, ?_, ?_⟩
    all_goals
      intro short
      rw [short] at long
      exact absurd long (by decide)

/-- The location of the file of a name. -/
def fileAt (directory name : String) : List String :=
  place directory ++ [name ++ fileEnding]

/-- The path of the file of a name. -/
def filePath (directory name : String) : String :=
  join directory (name ++ fileEnding)

/-- Whether a name and its path are ones that a file system takes. -/
def fits (directory name : String) : Bool :=
  isLegal (filePath directory name) && FileTree.isName (name ++ fileEnding)

@[simp] theorem run_persist_folder (directory name source : String) (tree : FileTree) :
    ((folder directory).persist name source).run tree = folderPersist directory name source tree :=
  rfl

theorem place_filePath (h : IsEntryName (name ++ fileEnding)) (directory : String) :
    place (filePath directory name) = fileAt directory name :=
  place_join h directory

@[simp] theorem fileAt_inj {a b : String} : fileAt directory a = fileAt directory b ↔ a = b := by
  rw [fileAt, fileAt, List.append_cancel_left_eq, List.singleton_inj, String.append_left_inj]

theorem not_isFixed_fileAt (directory name : String) : ¬ IsFixed (fileAt directory name) := by
  intro fixed
  have last := List.all_eq_true.1 fixed _ (List.mem_append_right _ (List.mem_singleton.2 rfl))
  rw [Bool.or_eq_true, beq_iff_eq, beq_iff_eq] at last
  have ends : 's' ∈ (name ++ fileEnding).toList := by
    rw [String.toList_append]
    exact List.mem_append_right _ (by decide)
  rcases last with back | root
  · rw [back] at ends
    exact absurd ends (by decide)
  · rw [root] at ends
    exact absurd ends (by decide)

/-- What becomes of a source when the directory is there. -/
theorem folderPersist_of_makeDirectory {made : FileTree} (h : IsEntryName (name ++ fileEnding))
    (ready : tree.makeDirectory directory = (made, .ok ())) (source : String) :
    folderPersist directory name source tree =
      if fits directory name then
        if made.at? (fileAt directory name) = none then
          (.ok (filePath directory name), made.put (fileAt directory name) (.file source))
        else (.error (.migrationExists (filePath directory name)), made)
      else (.error .io, made) := by
  have there := find?_of_makeDirectory ready
  have found : made.find? (join directory (name ++ fileEnding)) =
      if fits directory name then made.at? (fileAt directory name) else none := find?_join h there
  have written : made.write (join directory (name ++ fileEnding)) source =
      if fits directory name then
        if made.at? (fileAt directory name) = some .directory then (made, .error .io)
        else (made.put (fileAt directory name) (.file source), .ok ())
      else (made, .error .io) := write_join_of_find? h there source
  unfold folderPersist
  rw [ready]
  dsimp only
  rw [found, written]
  by_cases fitting : fits directory name = true
  · rw [if_pos fitting, if_pos fitting, if_pos fitting]
    cases made.at? (fileAt directory name) <;> rfl
  · rw [if_neg fitting, if_neg fitting, if_neg fitting]
    rfl

/-- **A source is stored in a folder exactly if** the directory can be made, the name
is one that a file can have, and there is nothing at its place. -/
theorem folderPersist_eq_ok_iff (h : IsEntryName (name ++ fileEnding)) :
    folderPersist directory name source tree = (.ok path, after) ↔
      ∃ made, tree.makeDirectory directory = (made, .ok ()) ∧ fits directory name = true ∧
        made.at? (fileAt directory name) = none ∧ path = filePath directory name ∧
        after = made.put (fileAt directory name) (.file source) := by
  rcases hm : tree.makeDirectory directory with ⟨made, fault | ⟨⟨⟩⟩⟩
  · unfold folderPersist
    rw [hm]
    constructor
    · intro stored
      cases stored
    · rintro ⟨_, ⟨⟩, -⟩
  · rw [folderPersist_of_makeDirectory h hm]
    constructor
    · intro stored
      split at stored
      · rename_i fitting
        split at stored
        · rename_i free
          cases stored
          exact ⟨made, rfl, fitting, free, rfl, rfl⟩
        · cases stored
      · cases stored
    · rintro ⟨_, ⟨⟩, fitting, free, rfl, rfl⟩
      rw [if_pos fitting, if_pos free]

/-- A source that is not stored leaves the directory behind, as far as it could be
made. -/
theorem folderPersist_of_error (h : IsEntryName (name ++ fileEnding)) {fault : Fault}
    (failed : folderPersist directory name source tree = (.error fault, after)) :
    after = (tree.makeDirectory directory).1 := by
  rcases hm : tree.makeDirectory directory with ⟨made, fault | ⟨⟨⟩⟩⟩
  · unfold folderPersist at failed
    rw [hm] at failed
    cases failed
    rfl
  · rw [folderPersist_of_makeDirectory h hm] at failed
    split at failed
    · split at failed
      · cases failed
      · cases failed
        rfl
    · cases failed
      rfl

/-- **What a folder may come to have**: directories on the way to it, and in it the
files of certain names. -/
inductive IsFolderEntry (directory : String) (passed : List String) :
    List String → FileNode → Prop
  /-- A directory on the way. -/
  | way {location : List String} {node : FileNode}
      (along : IsDirectoryAlong [] (FileTree.names directory) location node) :
      IsFolderEntry directory passed location node
  /-- A file in the folder. -/
  | file {name : String} (passes : name ∈ passed) (source : String) :
      IsFolderEntry directory passed (fileAt directory name) (.file source)

theorem IsFolderEntry.mono {passed more : List String} (h : ∀ name ∈ passed, name ∈ more)
    {location : List String} {node : FileNode} (entry : IsFolderEntry directory passed location node) :
    IsFolderEntry directory more location node := by
  cases entry with
  | way along => exact .way along
  | file passes source => exact .file (h _ passes) source

theorem extends_folderPersist (h : IsEntryName (name ++ fileEnding)) (directory source : String)
    (tree : FileTree) :
    Extends (IsFolderEntry directory [name]) tree (folderPersist directory name source tree).2 := by
  have added : Extends (IsFolderEntry directory [name]) tree (tree.makeDirectory directory).1 :=
    (extends_makeDirectory tree directory).imp fun _ _ => .way
  rcases hp : folderPersist directory name source tree with ⟨fault | path, after⟩
  · rw [folderPersist_of_error h hp]
    exact added
  · obtain ⟨made, making, -, free, -, rfl⟩ := (folderPersist_eq_ok_iff h).1 hp
    rw [making] at added
    refine added.trans ((extends_put free (.file source)).imp ?_)
    rintro _ _ ⟨rfl, rfl⟩
    exact .file (List.mem_singleton.2 rfl) source

/-- **A source that is stored in a folder** stands in a file of its name, where there
was nothing. -/
theorem of_folderPersist (h : IsEntryName (name ++ fileEnding))
    (stored : folderPersist directory name source tree = (.ok path, after)) :
    path = filePath directory name ∧ tree.at? (fileAt directory name) = none ∧
      after.find? directory = some .directory ∧
      after.at? (fileAt directory name) = some (.file source) := by
  obtain ⟨made, making, -, free, rfl, rfl⟩ := (folderPersist_eq_ok_iff h).1 stored
  have added := extends_makeDirectory tree directory
  rw [making] at added
  refine ⟨rfl, ?_, (extends_put free _).find? (find?_of_makeDirectory making),
    at?_put_self (not_isFixed_fileAt directory name) _ _⟩
  cases before : tree.at? (fileAt directory name) with
  | none => rfl
  | some node =>
    rw [added.kept before] at free
    cases free

/-- **A folder lists the files that it has**, each by its name without the
ending. Which files these are is said by locations, so the order of the entries
does not matter. -/
theorem exists_folderNames (there : tree.find? directory = some .directory) :
    ∃ names, folderNames directory tree = .ok names ∧
      ∀ n, n ∈ names ↔ n ≠ "" ∧ (tree.at? (fileAt directory n)).isSome := by
  obtain ⟨location, located, -, -⟩ := find?_eq_some_iff.1 there
  have here := eq_place_of_locate? located
  refine ⟨((tree.children (place directory)).filterMap storedName?).mergeSort fun a b => a ≤ b,
    ?_, fun n => ?_⟩
  · rw [folderNames, there, located, here]
  · rw [fileAt, ← mem_children_iff_at? (not_isFixed_fileAt directory n), List.mem_mergeSort,
      List.mem_filterMap]
    constructor
    · rintro ⟨file, child, stored⟩
      unfold storedName? at stored
      split at stored
      · cases stored
      · rename_i stem ending
        split at stored
        · cases stored
        · rename_i nonempty
          cases stored
          rw [Text.withoutEnding?_eq_some_iff.1 ending] at child
          exact ⟨fun empty => nonempty (String.isEmpty_iff.2 empty), child⟩
    · rintro ⟨nonempty, child⟩
      refine ⟨_, child, ?_⟩
      rw [storedName?, Text.withoutEnding?_append]
      exact if_neg (by rw [String.isEmpty_eq_false_iff.2 nonempty]; exact Bool.false_ne_true)

/-! ## A run on a folder -/

/-- A place that a run has given: that of a file which was not there before. -/
def IsNewPlace (directory : String) (before : FileTree) (path : String) : Prop :=
  ∃ name, IsEntryName (name ++ fileEnding) ∧ path = filePath directory name ∧
    before.at? (fileAt directory name) = none

/-- A recorded folder has the file tree, and in it no more than the recorded names have
been added. -/
def IsRecorded (directory : String) (before tree : FileTree) (t : FileTree × List String) : Prop :=
  t.1 = tree ∧ Extends (IsFolderEntry directory t.2) before tree

/-- **As long as names are passed on that a file can have, only such files are added
to what was there before**, also when files are removed again. -/
theorem simulates_folder (directory : String) (before : FileTree) :
    (folder directory).Simulates (folder directory).recording
      (fun name => IsEntryName (name ++ fileEnding)) (IsNewPlace directory before)
      (IsRecorded directory before) where
  names := by
    rintro _ ⟨tree, passed⟩ ⟨rfl, inside⟩
    exact ⟨rfl, rfl, inside⟩
  persist := by
    rintro _ ⟨tree, passed⟩ name source entry ⟨rfl, inside⟩
    have further := extends_folderPersist entry directory source tree
    refine ⟨⟨rfl, rfl, ?_⟩, fun path stored => ?_⟩
    · refine (inside.imp fun _ _ => IsFolderEntry.mono fun n hn => ?_).trans
        (further.imp fun _ _ => IsFolderEntry.mono fun n hn => ?_)
      · exact List.mem_append_left _ hn
      · exact List.mem_append_right _ hn
    · rcases hp : folderPersist directory name source tree with ⟨result, after⟩
      have same : (folderPersist directory name source tree).1 = .ok path := stored
      rw [hp] at same
      cases same
      obtain ⟨rfl, free, -⟩ := of_folderPersist entry hp
      refine ⟨name, entry, rfl, ?_⟩
      cases there : before.at? (fileAt directory name) with
      | none => rfl
      | some node =>
        rw [inside.kept there] at free
        cases free
  remove := by
    rintro _ ⟨tree, passed⟩ path ⟨name, entry, rfl, new⟩ ⟨rfl, inside⟩
    refine ⟨rfl, rfl, ?_⟩
    constructor
    case kept =>
      intro location node there
      have other : location ≠ place (filePath directory name) := by
        rintro rfl
        rw [place_filePath entry, new] at there
        cases there
      exact (at?_remove_of_ne other tree).trans (inside.kept there)
    case added => exact fun found => inside.added (at?_of_remove found)

/-- The files of artifacts that are stored. -/
theorem StoresAll.of_folder {artifacts : List Artifact} {paths : List String}
    (all : (folder directory).StoresAll artifacts tree paths after)
    (entries : ∀ artifact ∈ artifacts, IsEntryName (artifact.name ++ fileEnding)) :
    (∃ new, Extends new tree after) ∧
      paths = artifacts.map (fun artifact => filePath directory artifact.name) ∧
      ∀ artifact ∈ artifacts, after.find? directory = some .directory ∧
        after.at? (fileAt directory artifact.name) = some (.file artifact.source) := by
  induction all with
  | nil tree => exact ⟨⟨_, .refl (fun _ _ => False) tree⟩, rfl, List.forall_mem_nil _⟩
  | @cons artifact rest tree next last path paths first _ ih =>
    rw [List.forall_mem_cons] at entries
    obtain ⟨⟨new, further⟩, rfl, files⟩ := ih entries.2
    rw [run_persist_folder] at first
    have made := extends_folderPersist entries.1 directory artifact.source tree
    rw [first] at made
    obtain ⟨here, -, there, file⟩ := of_folderPersist entries.1 first
    refine ⟨⟨fun l n => IsFolderEntry directory [artifact.name] l n ∨ new l n, ?_⟩, ?_, ?_⟩
    · exact (made.imp fun _ _ => .inl).trans (further.imp fun _ _ => .inr)
    · rw [here]
      rfl
    · exact List.forall_mem_cons.2 ⟨⟨further.find? there, further.kept file⟩, files⟩

variable {options : RunOptions} {inspector : Inspector} {text : String} {report : RunReport}
  {passed : List String}

/-- **A run adds directories on the way to a folder and files of the names that it
passes on**, and nothing else. -/
theorem extends_generate
    (ran : ((folder directory).recording.generate options inspector now text).run (before, []) =
      (report, (after, passed))) : Extends (IsFolderEntry directory passed) before after := by
  have entries : ∀ listed artifacts, requested options.diff listed inspector now text =
      .ok artifacts → ∀ artifact ∈ artifacts, IsEntryName (artifact.name ++ fileEnding) :=
    fun _ _ made artifact ha => isEntryName_of_mayPass (mayPass_of_requested made artifact ha)
  have start : IsRecorded directory before before (before, []) := ⟨rfl, .refl _ before⟩
  have alike := @Simulates.generate _ _ _ _ _ _ _ _ _ (simulates_folder directory before) options
    inspector now text entries start
  rw [ran, (of_recording ran).1] at alike
  exact alike.2.2

/-- **What a run has stored is in the folder and is listed**, each artifact in
the file that the run reports. -/
theorem exists_folderNames_of_generated {stored : List StoredArtifact}
    (ran : ((folder directory).recording.generate options inspector now text).run (before, []) =
      (report, (after, passed)))
    (real : options.trial = false) (generated : report.result = .ok (.generated stored)) :
    ∃ names, folderNames directory after = .ok names ∧ ∀ entry ∈ stored,
      entry.artifact.name ∈ passed ∧ entry.artifact.name ∈ names ∧
      entry.path = some (filePath directory entry.artifact.name) ∧
      after.at? (fileAt directory entry.artifact.name) = some (.file entry.artifact.source) := by
  obtain ⟨_, listed, artifacts, paths, hn, made, all, rfl⟩ := generate_eq_iff.1 ⟨ran, _, generated⟩
  -- the listing is not in the record
  obtain ⟨-, rfl⟩ := Prod.mk.inj hn
  rw [real] at all generated
  have all : (folder directory).recording.StoresAll artifacts _ _ _ := all
  obtain ⟨stored', names'⟩ := all.of_recording
  dsimp only at stored' names'
  have may := mayPass_of_requested made
  obtain ⟨-, rfl, files⟩ := stored'.of_folder fun artifact ha => isEntryName_of_mayPass (may artifact ha)
  have nonempty : artifacts ≠ [] := by
    rintro rfl
    cases generated
  obtain ⟨first, present⟩ := List.exists_mem_of_ne_nil artifacts nonempty
  obtain ⟨names, listing, lists⟩ := exists_folderNames (files first present).1
  rw [succeeded_store nonempty, storedAt_map] at generated
  cases generated
  refine ⟨names, listing, List.forall_mem_map.2 fun artifact ha => ?_⟩
  obtain ⟨_, _, -, plain⟩ := may artifact ha
  have file := (files artifact ha).2
  refine ⟨?_, (lists _).2 ⟨plain.ne_empty, ?_⟩, rfl, file⟩
  · rw [names']
    exact List.mem_map_of_mem ha
  · rw [file]
    rfl

end Archive

end SchemaPlan
