import SchemaPlan.Archive.FileTree
import SchemaPlan.Proofs.Parts
import SchemaPlan.Proofs.Words

/-!
# What changes in a file tree

Where a path leads to is a matter of the path alone: if it can be followed to its
end at all, it ends at its `FileTree.place`. So what an operation of a file tree
can change is known from the path that it is given.

Operations that only make things are described by what they add
(`FileTree.Extends`): all that was there is there as before, and all that is new
is of the kind in question. Making a directory adds directories on the way to it
and nothing else, writing a file in a free place adds this file.
-/

namespace SchemaPlan

namespace Text

/-- No piece has the separator in it. -/
theorem notMem_of_mem_pieces {separator : Char} {s piece : String} (h : piece ∈ pieces separator s) :
    separator ∉ piece.toList := fun inside => (of_mem_pieces h inside).2 rfl

end Text

namespace FileTree

variable {tree after : FileTree} {location other : List String} {node : FileNode} {path : String}

/-! ## What stands at a location -/

/-- A location is one that is always there. -/
def IsFixed (location : List String) : Prop :=
  (location.all fun name => name == ".." || name == root) = true

/-- The root and what lies above it are directories whatever has happened, so
they are not among the entries of a tree. -/
theorem at?_of_isFixed (h : IsFixed location) (tree : FileTree) :
    tree.at? location = some .directory :=
  if_pos h

theorem at?_eq_find? (h : ¬ IsFixed location) (tree : FileTree) :
    tree.at? location = (tree.entries.find? fun e => e.1 == location).map fun e => e.2 :=
  if_neg h

theorem not_isFixed_of_free (h : tree.at? location = none) : ¬ IsFixed location := by
  intro fixed
  rw [at?_of_isFixed fixed] at h
  cases h

theorem find?_erased (entries : List (List String × FileNode)) (h : other ≠ location) :
    (entries.filter fun e => e.1 != location).find? (fun e => e.1 == other) =
      entries.find? fun e => e.1 == other := by
  rw [List.find?_filter]
  congr 1
  funext e
  by_cases same : e.1 = other
  · simp [same, h]
  · simp [same]

/-- Putting something at a location is not seen anywhere else. With the next
statement this is all that is known of `FileTree.put` from here on. -/
@[simp] theorem at?_put_of_ne (h : other ≠ location) (tree : FileTree) (node : FileNode) :
    (tree.put location node).at? other = tree.at? other := by
  have different : (location == other) = false := beq_eq_false_iff_ne.2 (Ne.symm h)
  unfold at? put
  split
  · rfl
  · rw [List.find?_append, find?_erased tree.entries h, List.find?_cons, different,
      List.find?_nil, Option.or_none]

/-- What was put at a location stands there, unless the location is fixed. At a
fixed location there is a directory, whatever was put. -/
@[simp] theorem at?_put_self (h : ¬ IsFixed location) (tree : FileTree) (node : FileNode) :
    (tree.put location node).at? location = some node := by
  have gone : (tree.entries.filter fun e => e.1 != location).find? (fun e => e.1 == location) =
      none := by
    rw [List.find?_eq_none]
    intro e he
    simpa using (List.mem_filter.1 he).2
  rw [at?_eq_find? h, put, List.find?_append, gone, Option.none_or, List.find?_cons,
    beq_self_eq_true]
  rfl

/-! ## Extensions -/

/-- **Only things of one kind have been added to a file tree**, and all that was
there is there. -/
structure Extends (new : List String → FileNode → Prop) (before after : FileTree) : Prop where
  /-- What was there is there. -/
  kept : ∀ {location node}, before.at? location = some node → after.at? location = some node
  /-- What is new is of that kind. -/
  added : ∀ {location node}, after.at? location = some node →
    before.at? location = some node ∨ new location node

namespace Extends

variable {new more : List String → FileNode → Prop} {before middle : FileTree}

theorem refl (new : List String → FileNode → Prop) (tree : FileTree) : Extends new tree tree :=
  ⟨id, .inl⟩

/-- Extensions by things of one kind, one after the other, are an extension by
things of this kind. So a run of operations is described by what each of them
adds. -/
theorem trans (first : Extends new before middle) (second : Extends new middle after) :
    Extends new before after where
  kept h := second.kept (first.kept h)
  added h := (second.added h).elim first.added .inr

theorem imp (h : Extends new before after)
    (weaker : ∀ location node, new location node → more location node) :
    Extends more before after where
  kept := h.kept
  added found := (h.added found).imp_right (weaker _ _)

/-- Where nothing of that kind can be, all is as it was. -/
theorem at?_eq (h : Extends new before after) {location : List String}
    (other : ∀ node, ¬ new location node) : after.at? location = before.at? location := by
  cases there : after.at? location with
  | none =>
    cases gone : before.at? location with
    | none => rfl
    | some node =>
      rw [h.kept gone] at there
      cases there
  | some node => exact ((h.added there).resolve_right (other node)).symm

end Extends

/-- What is put in a free place is all that is added. Were the place not free,
what stood there would be gone. -/
theorem extends_put (free : tree.at? location = none) (node : FileNode) :
    Extends (fun l n => l = location ∧ n = node) tree (tree.put location node) := by
  have unfixed := not_isFixed_of_free free
  constructor
  case kept =>
    intro l n found
    have other : l ≠ location := by
      rintro rfl
      rw [free] at found
      cases found
    rw [at?_put_of_ne other]
    exact found
  case added =>
    intro l n found
    by_cases same : l = location
    · subst same
      rw [at?_put_self unfixed] at found
      exact .inr ⟨rfl, (Option.some.inj found).symm⟩
    · rw [at?_put_of_ne same] at found
      exact .inl found

/-! ## Where a path leads to -/

/-- The location to which a path leads, if it can be followed. -/
def place (path : String) : List String :=
  (names path).foldl step []

/-- A way along names ends where the names lead, if it can be followed; whether
it can depends on the tree, and where it ends does not. -/
theorem eq_foldl_of_follow? {ns : List String} (h : tree.follow? location ns = some other) :
    other = ns.foldl step location := by
  induction ns generalizing location with
  | nil => exact (Option.some.inj h).symm
  | cons name rest ih =>
    rw [follow?] at h
    split at h
    · exact ih h
    · cases h

/-- **A path leads to its place or nowhere.** Two trees can differ in whether a
path can be followed and not in where it leads. -/
theorem eq_place_of_locate? (h : tree.locate? path = some location) : location = place path := by
  unfold locate? at h
  split at h
  · exact eq_foldl_of_follow? h
  · cases h

/-- A way along two lists of names is a way along the first and, from where it
ends, along the second. -/
@[simp] theorem follow?_append (location : List String) (first later : List String) :
    tree.follow? location (first ++ later) =
      (tree.follow? location first).bind fun next => tree.follow? next later := by
  induction first generalizing location with
  | nil => rfl
  | cons name rest ih =>
    rw [List.cons_append, follow?, follow?]
    split
    · exact ih _
    · rfl

/-- A way that can be followed is still open when things have been added,
because nothing that was there has gone. -/
theorem Extends.follow? {new : List String → FileNode → Prop} (h : Extends new tree after)
    {ns : List String} (found : tree.follow? location ns = some other) :
    after.follow? location ns = some other := by
  induction ns generalizing location with
  | nil => exact found
  | cons name rest ih =>
    rw [FileTree.follow?] at found ⊢
    split at found
    · rename_i passable
      rw [Bool.and_eq_true, decide_eq_true_iff] at passable
      rw [passable.1, h.kept passable.2]
      exact ih found
    · cases found

/-- A path that could be followed can still be followed when things have been
added. -/
theorem Extends.locate? {new : List String → FileNode → Prop} (h : Extends new tree after)
    (found : tree.locate? path = some location) : after.locate? path = some location := by
  unfold FileTree.locate? at found ⊢
  split at found
  · rename_i legal
    rw [if_pos legal]
    exact h.follow? found
  · cases found

/-- **What a path finds**: it can be followed to a location, something stands
there, and it is a directory if the path says so by its end. -/
theorem find?_eq_some_iff :
    tree.find? path = some node ↔ ∃ location, tree.locate? path = some location ∧
      tree.at? location = some node ∧ (meansDirectory path = true → node = .directory) := by
  unfold find?
  constructor
  · intro h
    obtain ⟨location, located, h⟩ := Option.bind_eq_some_iff.1 h
    obtain ⟨found, there, h⟩ := Option.bind_eq_some_iff.1 h
    split at h
    · cases h
    · rename_i fits
      cases h
      rw [Bool.and_eq_true, bne_iff_ne] at fits
      exact ⟨location, located, there, fun means =>
        Decidable.byContradiction fun other => fits ⟨means, other⟩⟩
  · rintro ⟨location, located, there, fits⟩
    refine Option.bind_eq_some_iff.2 ⟨location, located, Option.bind_eq_some_iff.2 ⟨node, there, ?_⟩⟩
    refine if_neg fun unfit => ?_
    rw [Bool.and_eq_true, bne_iff_ne] at unfit
    exact unfit.2 (fits unfit.1)

/-- **What was found is still found when things have been added.** This is how
what one run has stored is seen by the next. -/
theorem Extends.find? {new : List String → FileNode → Prop} (h : Extends new tree after)
    (found : tree.find? path = some node) : after.find? path = some node := by
  obtain ⟨location, located, there, fits⟩ := find?_eq_some_iff.1 found
  exact find?_eq_some_iff.2 ⟨location, h.locate? located, h.kept there, fits⟩

/-! ## Making a directory -/

/-- A directory at a location that is passed along names. -/
def IsDirectoryAlong (start ns location : List String) (node : FileNode) : Prop :=
  node = .directory ∧ ∃ ahead, ahead <+: ns ∧ location = ahead.foldl step start

/-- On the way along names only directories are made, and only where there was
nothing. -/
theorem extends_makeWay (tree : FileTree) (start ns : List String) :
    Extends (IsDirectoryAlong start ns) tree (tree.makeWay start ns).1 := by
  induction ns generalizing tree start with
  | nil => exact .refl _ tree
  | cons name rest ih =>
    have further (middle : FileTree) : Extends (IsDirectoryAlong start (name :: rest)) middle
        (middle.makeWay (step start name) rest).1 :=
      (ih middle (step start name)).imp fun l n ⟨directory, ahead, begins, reached⟩ =>
        ⟨directory, name :: ahead, List.cons_prefix_cons.2 ⟨rfl, begins⟩, reached⟩
    rw [makeWay]
    split
    · exact further tree
    · exact .refl _ tree
    · rename_i free
      split
      · refine Extends.trans ((extends_put free .directory).imp ?_) (further _)
        rintro l n ⟨rfl, rfl⟩
        exact ⟨rfl, [name], List.cons_prefix_cons.2 ⟨rfl, List.nil_prefix⟩, rfl⟩
      · exact .refl _ tree

/-- **Making a directory adds directories on the way to it and nothing else**,
also when it fails half way. -/
theorem extends_makeDirectory (tree : FileTree) (path : String) :
    Extends (IsDirectoryAlong [] (names path)) tree (tree.makeDirectory path).1 := by
  have shorter : (if endsInStay path then (names path).dropLast else names path) <+: names path := by
    split
    · exact List.dropLast_prefix _
    · exact List.prefix_refl _
  unfold makeDirectory
  dsimp only
  split
  · have made : Extends (IsDirectoryAlong [] (names path)) tree (tree.makeWay []
        (if endsInStay path then (names path).dropLast else names path)).1 :=
      (extends_makeWay tree [] _).imp fun l n ⟨directory, ahead, begins, reached⟩ =>
        ⟨directory, ahead, begins.trans shorter, reached⟩
    split
    all_goals rename_i way
    all_goals rw [way] at made
    all_goals exact made
  · exact .refl _ tree

/-- A directory that was made is there. That it was made is reported only after
a look, so nothing else need be known of the way. -/
theorem find?_of_makeDirectory {made : FileTree} (h : tree.makeDirectory path = (made, .ok ())) :
    made.find? path = some .directory := by
  unfold makeDirectory at h
  dsimp only at h
  split at h
  · split at h
    · rw [Prod.mk.injEq] at h
      obtain ⟨rfl, there⟩ := h
      split at there
      · assumption
      · cases there
    · cases h
  · cases h

/-! ## Entries of a directory -/

/-- **A name that an entry of a directory can have**: it is one name and not a way
to another place. -/
structure IsEntryName (name : String) : Prop where
  /-- It is not cut at a slash. -/
  whole : '/' ∉ name.toList
  /-- It does not stand for staying or for going back. -/
  moves : name ≠ "" ∧ name ≠ "." ∧ name ≠ ".."

/-- Whether a name of a path has to be followed. -/
def isFollowed (name : String) : Bool :=
  !name.isEmpty && name != "."

theorem isFollowed_of_isEntryName {name : String} (h : IsEntryName name) :
    isFollowed name = true := by
  rw [isFollowed, String.isEmpty_eq_false_iff.2 h.moves.1, Bool.not_false, Bool.true_and,
    bne_iff_ne]
  exact h.moves.2.1

/-- Whether a path begins at the root. -/
def isRooted (path : String) : Bool :=
  "/".toList.isPrefixOf path.toList

/-- The names on a path are its pieces between slashes without those that stand
for staying, and the root in front if the path begins there. -/
theorem names_eq (path : String) :
    names path = (if isRooted path then [root] else []) ++
      (Text.pieces '/' path).filter isFollowed := rfl

theorem isRooted_append {s : String} (h : s ≠ "") (t : String) : isRooted (s ++ t) = isRooted s := by
  unfold isRooted
  rw [String.toList_append]
  cases chars : s.toList with
  | nil => exact absurd (String.toList_injective chars) h
  | cons c rest => rfl

theorem isRooted_of_isEntryName {name : String} (h : IsEntryName name) : isRooted name = false := by
  refine Bool.eq_false_iff.2 fun rooted => h.whole ?_
  obtain ⟨rest, chars⟩ := List.isPrefixOf_iff_prefix.1 rooted
  rw [← chars]
  exact List.mem_append_left _ (List.mem_singleton.2 rfl)

variable {directory name : String}

/-- The path of an entry is that of the directory and one piece more, whether
or not the directory is written with a slash at its end. -/
theorem exists_pieces_join (h : IsEntryName name) (directory : String) :
    ∃ before, Text.pieces '/' (join directory name) = before ++ [name] ∧
      before.filter isFollowed = (Text.pieces '/' directory).filter isFollowed ∧
      isRooted (join directory name) = isRooted directory := by
  have single := Text.pieces_eq_singleton h.whole
  have unrooted : ("/".toList.isPrefixOf name.toList) = false := isRooted_of_isEntryName h
  unfold join
  rw [unrooted, if_neg Bool.false_ne_true]
  by_cases empty : directory = ""
  · subst empty
    refine ⟨[], single, by decide +kernel, ?_⟩
    exact unrooted
  · rw [String.isEmpty_eq_false_iff.2 empty, Bool.false_or]
    by_cases ends : Text.hasEnding "/" directory = true
    · obtain ⟨stem, rfl⟩ := Text.exists_of_hasEnding ends
      have cut : Text.pieces '/' (stem ++ "/") = Text.pieces '/' stem ++ [""] := by
        have parts := Text.pieces_append '/' stem ""
        rwa [String.append_empty] at parts
      rw [if_pos ends, isRooted_append empty]
      refine ⟨Text.pieces '/' stem, ?_, ?_, rfl⟩
      · rw [← single]
        exact Text.pieces_append '/' stem name
      · rw [cut, List.filter_append]
        exact (List.append_nil _).symm
    · rw [if_neg ends, String.append_assoc, isRooted_append empty]
      refine ⟨Text.pieces '/' directory, ?_, rfl, rfl⟩
      rw [← String.append_assoc, ← single]
      exact Text.pieces_append '/' directory name

/-- **An entry of a directory is reached by the names of the directory and its
own.** -/
theorem names_join (h : IsEntryName name) (directory : String) :
    names (join directory name) = names directory ++ [name] := by
  obtain ⟨before, cut, same, rooted⟩ := exists_pieces_join h directory
  rw [names_eq, names_eq, cut, rooted, List.filter_append, same, List.append_assoc,
    List.filter_cons_of_pos (isFollowed_of_isEntryName h)]
  rfl

theorem meansDirectory_join (h : IsEntryName name) (directory : String) :
    meansDirectory (join directory name) = false := by
  obtain ⟨before, cut, -⟩ := exists_pieces_join h directory
  unfold meansDirectory
  rw [cut, List.getLast?_concat]
  dsimp only
  rw [String.isEmpty_eq_false_iff.2 h.moves.1, beq_eq_false_iff_ne.2 h.moves.2.1,
    beq_eq_false_iff_ne.2 h.moves.2.2]
  rfl

theorem ne_root_of_isEntryName (h : IsEntryName name) : name ≠ root :=
  fun same => h.whole (same ▸ List.mem_singleton.2 rfl)

/-- **An entry stands directly in its directory**, however the path of the
directory is written, with or without a slash at its end. -/
theorem place_join (h : IsEntryName name) (directory : String) :
    place (join directory name) = place directory ++ [name] := by
  rw [place, names_join h, List.foldl_append, List.foldl_cons, List.foldl_nil, step,
    if_neg (by simpa using ne_root_of_isEntryName h), if_neg (by simpa using h.moves.2.2)]
  rfl

/-- What a path into a directory leads to. -/
theorem locate?_join (h : IsEntryName name) (there : tree.find? directory = some .directory) :
    tree.locate? (join directory name) =
      if isLegal (join directory name) && isName name then some (place directory ++ [name])
      else none := by
  obtain ⟨location, located, found, -⟩ := find?_eq_some_iff.1 there
  have here := eq_place_of_locate? located
  subst here
  unfold locate? at located ⊢
  split at located
  · rw [names_join h, follow?_append, located, Option.bind_some, follow?, found]
    have last : step (place directory) name = place directory ++ [name] := by
      rw [step, if_neg (by simpa using ne_root_of_isEntryName h), if_neg (by simpa using h.moves.2.2)]
    rw [last]
    cases isLegal (join directory name) <;> cases isName name <;> rfl
  · cases located

/-- **What is found under the name of an entry is what stands directly in the
directory.** A path that is too long, or a name that is, finds nothing. -/
theorem find?_join (h : IsEntryName name) (there : tree.find? directory = some .directory) :
    tree.find? (join directory name) =
      if isLegal (join directory name) && isName name then tree.at? (place directory ++ [name])
      else none := by
  rw [find?, locate?_join h there, meansDirectory_join h]
  by_cases fits : (isLegal (join directory name) && isName name) = true
  · rw [if_pos fits, if_pos fits]
    exact Option.bind_fun_some _
  · rw [if_neg fits, if_neg fits]
    rfl

/-- **Writing an entry of a directory puts a file directly in it**, in place of
another file but not of a directory; where the path or the name is too long,
nothing is written. -/
theorem write_join_of_find? (h : IsEntryName name)
    (there : tree.find? directory = some .directory) (text : String) :
    tree.write (join directory name) text =
      if isLegal (join directory name) && isName name then
        if tree.at? (place directory ++ [name]) = some .directory then (tree, .error .io)
        else (tree.put (place directory ++ [name]) (.file text), .ok ())
      else (tree, .error .io) := by
  rw [write, locate?_join h there, meansDirectory_join h]
  by_cases fits : (isLegal (join directory name) && isName name) = true
  · rw [if_pos fits, if_pos fits]
    simp only [Bool.false_or, decide_eq_true_iff]
  · rw [if_neg fits, if_neg fits]

theorem mem_children_iff {location : List String} :
    name ∈ tree.children location ↔ ∃ e ∈ tree.entries, e.1 = location ++ [name] := by
  unfold children
  rw [List.mem_filterMap]
  refine exists_congr fun e => and_congr_right fun _ => ?_
  constructor
  · intro h
    split at h
    · rename_i inside
      have nonempty : e.1 ≠ [] := by
        intro none
        rw [none] at h
        cases h
      rw [List.getLast?_eq_some_getLast nonempty] at h
      rw [← inside.2, ← Option.some.inj h, List.dropLast_concat_getLast]
    · cases h
  · intro h
    rw [h, if_pos ⟨by simp, List.dropLast_concat⟩, List.getLast?_concat]

/-- The names in a directory are those of its entries. -/
theorem mem_children_iff_at? {location : List String} (h : ¬ IsFixed (location ++ [name])) :
    name ∈ tree.children location ↔ (tree.at? (location ++ [name])).isSome := by
  rw [mem_children_iff, at?_eq_find? h, Option.isSome_map, List.find?_isSome]
  simp only [beq_iff_eq]

end FileTree

end SchemaPlan
