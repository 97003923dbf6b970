import Mathlib.Data.List.Induction
import SchemaPlan.Proofs.Exchange
import SchemaPlan.Proofs.Folder

/-!
# Files in another order

Files of different names can be written to a folder in either order
(`Archive.keepsApart_folder`). What is left differs in the order in which a file tree
has its entries and in nothing that can be seen, so states count as alike if the same
stands at every location.

The directory of the folder is made by whichever file comes first. On the way to it
nothing must be made that would be taken for a file of the folder, and this is what
the path of the directory can spoil: one that goes through `a.rs` and back makes an
entry of that name beside the files (`Archive.IsDirect`). A path that does not go back
once it has gone on cannot do so.
-/

namespace SchemaPlan

namespace FileTree

variable {tree s t made : FileTree} {location other : List String} {node : FileNode}
  {path directory name text : String}

/-! ## What is seen of a file tree -/

theorem follow?_congr (h : s.at? = t.at?) (location ns : List String) :
    s.follow? location ns = t.follow? location ns := by
  induction ns generalizing location with
  | nil => rfl
  | cons name rest ih => rw [follow?, follow?, h, ih]

theorem find?_congr (h : s.at? = t.at?) (path : String) : s.find? path = t.find? path := by
  have located : s.locate? path = t.locate? path := by
    rw [locate?, locate?, follow?_congr h]
  rw [find?, find?, located, h]

theorem put_congr (h : s.at? = t.at?) (location : List String) (node : FileNode) :
    (s.put location node).at? = (t.put location node).at? := by
  funext other
  by_cases fixed : IsFixed other
  · simp [at?_of_isFixed fixed]
  · by_cases same : other = location
    · subst same
      simp [fixed]
    · simp [same, h]

/-- What is put at one location and what is put at another can be put in either
order. -/
theorem put_put_of_ne (tree : FileTree) (h : location ≠ other) (a b : FileNode) :
    ((tree.put location a).put other b).at? = ((tree.put other b).put location a).at? := by
  funext l
  by_cases fixed : IsFixed l
  · simp [at?_of_isFixed fixed]
  · by_cases first : l = location
    · subst first
      simp [fixed, h]
    · by_cases second : l = other
      · subst second
        simp [fixed, first]
      · simp [first, second]

theorem makeWay_congr (h : s.at? = t.at?) (location ns : List String) :
    (s.makeWay location ns).1.at? = (t.makeWay location ns).1.at? ∧
      (s.makeWay location ns).2 = (t.makeWay location ns).2 := by
  induction ns generalizing s t location with
  | nil => exact ⟨h, rfl⟩
  | cons name rest ih =>
    rw [makeWay, makeWay, h]
    cases t.at? (step location name) with
    | some node =>
      cases node with
      | directory => exact ih h _
      | file text => exact ⟨h, rfl⟩
    | none =>
      dsimp only
      split
      · exact ih (put_congr h _ _) _
      · exact ⟨h, rfl⟩

/-- The same directories are made where the same is seen, and with the same
outcome; the order of the entries in the two trees does not matter. -/
theorem makeDirectory_congr (h : s.at? = t.at?) (path : String) :
    (s.makeDirectory path).1.at? = (t.makeDirectory path).1.at? ∧
      (s.makeDirectory path).2 = (t.makeDirectory path).2 := by
  unfold makeDirectory
  dsimp only
  split
  · obtain ⟨seen, reached⟩ := makeWay_congr h []
      (if endsInStay path then (names path).dropLast else names path)
    rcases hs : s.makeWay [] (if endsInStay path then (names path).dropLast else names path) with
      ⟨one, way⟩
    rcases ht : t.makeWay [] (if endsInStay path then (names path).dropLast else names path) with
      ⟨two, way'⟩
    rw [hs, ht] at seen reached
    cases reached
    cases way
    · exact ⟨seen, rfl⟩
    · dsimp only at seen ⊢
      rw [find?_congr seen]
      exact ⟨seen, rfl⟩
  · exact ⟨h, rfl⟩

/-! ## A directory that is there -/

theorem at?_of_follow? {ns : List String} (h : tree.follow? location ns = some other)
    (there : tree.at? other = some .directory) : tree.at? location = some .directory := by
  cases ns with
  | nil =>
    cases h
    exact there
  | cons name rest =>
    rw [follow?] at h
    split at h
    · rename_i passable
      rw [Bool.and_eq_true, decide_eq_true_iff] at passable
      exact passable.2
    · cases h

/-- A way along directories need not be made. Only the first run in a folder
finds anything to make. -/
theorem makeWay_of_follow? {ns : List String} (h : tree.follow? location ns = some other)
    (there : tree.at? other = some .directory) : tree.makeWay location ns = (tree, true) := by
  induction ns generalizing location with
  | nil => rfl
  | cons name rest ih =>
    rw [follow?] at h
    split at h
    · rw [makeWay, at?_of_follow? h there]
      exact ih h
    · cases h

/-- A directory that is there need not be made, and asking for it again leaves
the tree as it is. -/
theorem makeDirectory_of_find? (h : tree.find? path = some .directory) :
    tree.makeDirectory path = (tree, .ok ()) := by
  obtain ⟨location, located, there, -⟩ := find?_eq_some_iff.1 h
  unfold locate? at located
  split at located
  · rename_i legal
    have shorter : (if endsInStay path then (names path).dropLast else names path) <+:
        names path := by
      split
      · exact List.dropLast_prefix _
      · exact List.prefix_refl _
    obtain ⟨rest, whole⟩ := shorter
    rw [← whole, follow?_append, Option.bind_eq_some_iff] at located
    obtain ⟨next, first, later⟩ := located
    unfold makeDirectory
    dsimp only
    rw [if_pos legal, makeWay_of_follow? first (at?_of_follow? later there)]
    dsimp only
    rw [if_pos h]
  · cases located

/-! ## A path that goes back only at its beginning -/

/-- A path goes on: it goes back before it has gone anywhere else, or not at all. -/
def GoesOn (path : String) : Prop :=
  ∀ ahead, ahead ++ [".."] <+: names path → ∀ name ∈ ahead, name = ".."

theorem goesOn_of_notMem (h : ".." ∉ names path) : GoesOn path := fun _ begins =>
  absurd (begins.subset (List.mem_append_right _ (List.mem_singleton.2 rfl))) h

/-- The root is only at the beginning of a path, so a way that goes on never
leads back to it. -/
theorem eq_nil_of_root {ahead : List String} (h : ahead ++ [root] <+: names path) : ahead = [] := by
  have inside : root ∉ (Text.pieces '/' path).filter isFollowed := fun among =>
    Text.notMem_of_mem_pieces (List.mem_filter.1 among).1 (List.mem_singleton.2 rfl)
  rw [names_eq] at h
  split at h
  · cases ahead with
    | nil => rfl
    | cons first rest =>
      obtain ⟨-, later⟩ := List.cons_prefix_cons.1 h
      exact absurd (later.subset (List.mem_append_right _ (List.mem_singleton.2 rfl))) inside
  · exact absurd (h.subset (List.mem_append_right _ (List.mem_singleton.2 rfl))) inside

/-- Each name of such a path leads one step further. -/
theorem foldl_step_of_goesOn (h : GoesOn path) {ahead : List String} (begins : ahead <+: names path) :
    ahead.foldl step [] = ahead := by
  induction ahead using List.reverseRecOn with
  | nil => rfl
  | append_singleton ahead name ih =>
    rw [List.foldl_append, ih ((List.prefix_append _ _).trans begins), List.foldl_cons,
      List.foldl_nil, step]
    split
    · rename_i isRoot
      rw [beq_iff_eq] at isRoot
      subst isRoot
      rw [eq_nil_of_root begins]
      rfl
    · split
      · rename_i back
        rw [beq_iff_eq] at back
        subst back
        rw [parent]
        split
        · rename_i empty
          rw [List.getLast?_eq_none_iff.1 empty]
          rfl
        · rename_i last found
          rw [if_pos (beq_iff_eq.2 (h ahead begins last (List.mem_of_getLast? found)))]
      · rfl

end FileTree

namespace Archive

open FileTree

/-- **No directory on the way to a folder is in the place of a file of it.** -/
def IsDirect (directory : String) : Prop :=
  ∀ name node, ¬ IsDirectoryAlong [] (FileTree.names directory) (fileAt directory name) node

/-- A path that goes on leads to its folder directly: making the folder touches
its ancestors and the folder, and nothing beside them. -/
theorem isDirect_of_goesOn {directory : String} (h : GoesOn directory) : IsDirect directory := by
  rintro name node ⟨-, ahead, begins, reached⟩
  rw [foldl_step_of_goesOn h begins, fileAt, place,
    foldl_step_of_goesOn h (List.prefix_refl _)] at reached
  have longer := congrArg List.length reached
  rw [List.length_append, List.length_singleton] at longer
  have shorter := begins.length_le
  omega

variable {tree after : FileTree} {directory name source path : String}

/-! ## The folder -/

/-- A folder can be listed: its directory is there, or it is not and no file of it
is. -/
def IsReady (directory : String) (tree : FileTree) : Prop :=
  tree.find? directory = some .directory ∨
    tree.find? directory = none ∧ ∀ name, tree.at? (fileAt directory name) = none

/-- The same stands at every location of two file trees, and the folder can be
listed. -/
def SameFiles (directory : String) (s t : FileTree) : Prop :=
  s.at? = t.at? ∧ IsReady directory s

/-- What a folder has under a name. The empty name is none. -/
def folderContent (directory : String) (tree : FileTree) (name : String) : Option FileNode :=
  if name = "" then none else tree.at? (fileAt directory name)

/-- A folder lists the names under which it has something, in whatever order
its entries were made. -/
theorem exists_folderNames_of_isReady (ready : IsReady directory tree) :
    ∃ names, folderNames directory tree = .ok names ∧
      ∀ n, n ∈ names ↔ (folderContent directory tree n).isSome := by
  rcases ready with there | ⟨missing, nothing⟩
  · obtain ⟨names, listing, lists⟩ := exists_folderNames there
    refine ⟨names, listing, fun n => ?_⟩
    rw [lists, folderContent]
    by_cases empty : n = ""
    · rw [if_pos empty]
      exact iff_of_false (fun h => h.1 empty) Bool.false_ne_true
    · rw [if_neg empty]
      exact and_iff_right empty
  · refine ⟨[], by rw [folderNames, missing], fun n => ?_⟩
    rw [folderContent, nothing, ite_self]
    exact iff_of_false List.not_mem_nil Bool.false_ne_true

/-- A folder can be listed when something has been put in it, which is what
keeps it ready for the next run. -/
theorem isReady_put {made : FileTree} (there : made.find? directory = some .directory)
    {location : List String} (free : made.at? location = none) (node : FileNode) :
    IsReady directory (made.put location node) :=
  .inl ((extends_put free node).find? there)

/-- **A folder keeps its files apart**, unless a directory on the way to it is in the
place of one. -/
theorem keepsApart_folder (direct : IsDirect directory) :
    (folder directory).KeepsApart (SameFiles directory) (folderContent directory) .file where
  trans := fun ⟨first, ready⟩ ⟨second, _⟩ => ⟨first.trans second, ready⟩
  agree := fun ⟨same, _⟩ => funext fun n => by rw [folderContent, folderContent, same]
  names := by
    rintro s ⟨-, ready⟩
    obtain ⟨names, listing, lists⟩ := exists_folderNames_of_isReady ready
    exact ⟨names, congrArg (fun result => (result, s)) listing, lists⟩
  persist := by
    rintro now name source path s t next passes ⟨same, -⟩ ran
    have entry := isEntryName_of_mayPass passes
    obtain ⟨made, making, fitting, free, rfl, rfl⟩ := (folderPersist_eq_ok_iff entry).1 ran
    obtain ⟨seen, reached⟩ := makeDirectory_congr same directory
    rw [making] at seen reached
    rcases hm : t.makeDirectory directory with ⟨made', result⟩
    rw [hm] at seen reached
    cases reached
    refine ⟨_, (folderPersist_eq_ok_iff entry).2 ⟨made', hm, fitting, ?_, rfl, rfl⟩,
      put_congr seen _ _, isReady_put (find?_of_makeDirectory making) free _⟩
    rw [← free]
    exact (congrFun seen _).symm
  stored := by
    rintro now name source path s t passes - ran
    have entry := isEntryName_of_mayPass passes
    obtain ⟨made, making, -, -, rfl, rfl⟩ := (folderPersist_eq_ok_iff entry).1 ran
    have added := extends_makeDirectory s directory
    rw [making] at added
    obtain ⟨_, _, -, plain⟩ := passes
    have untouched (n : String) : made.at? (fileAt directory n) = s.at? (fileAt directory n) :=
      added.at?_eq (direct n)
    funext n
    by_cases here : n = name
    · rw [here, Function.update_self, folderContent, if_neg plain.ne_empty,
        at?_put_self (not_isFixed_fileAt directory name)]
    · rw [Function.update_of_ne here, folderContent, folderContent,
        at?_put_of_ne (fileAt_inj.not.2 here), untouched]
  exchange := by
    rintro now later a b x y p q s middle t passes passes' different - first second
    have entry := isEntryName_of_mayPass passes
    have entry' := isEntryName_of_mayPass passes'
    obtain ⟨made, making, fitting, free, rfl, rfl⟩ := (folderPersist_eq_ok_iff entry).1 first
    have there := find?_of_makeDirectory making
    -- the directory is there when the second file is written, and so it is for the first
    have unmade {location node} (gone : made.at? location = none) :
        (made.put location node).makeDirectory directory = (made.put location node, .ok ()) :=
      makeDirectory_of_find? ((extends_put gone node).find? there)
    obtain ⟨_, again, fitting', taken, rfl, rfl⟩ := (folderPersist_eq_ok_iff entry').1 second
    rw [unmade free] at again
    cases again
    have apart : fileAt directory b ≠ fileAt directory a := fileAt_inj.not.2 different.symm
    have free' : made.at? (fileAt directory b) = none := (at?_put_of_ne apart made _).symm.trans taken
    exact ⟨_, _, (folderPersist_eq_ok_iff entry').2 ⟨made, making, fitting', free', rfl, rfl⟩,
      (folderPersist_eq_ok_iff entry).2 ⟨_, unmade free', fitting,
        (at?_put_of_ne apart.symm made _).trans free, rfl, rfl⟩,
      put_put_of_ne made apart.symm _ _, isReady_put ((extends_put free _).find? there) taken _⟩

end Archive

end SchemaPlan
