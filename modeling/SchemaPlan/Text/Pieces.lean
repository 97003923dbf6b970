/-!
# Cutting a text at its separators

`pieces` cuts at every occurrence of a separator character, `cutAt?` at
the first one, and `afterLast?` keeps what follows the last occurrence of a
separator that may be longer than one character. The empty text has one
piece, the empty one, and neighbouring separators have an empty piece
between them.
-/

namespace SchemaPlan.Text

/-- The pieces of a text between the occurrences of a separator. There is one
more than there are separators, and any of them may be empty. -/
def pieces (separator : Char) (s : String) : List String :=
  (s.toList.splitOn separator).map String.ofList

/-- The characters before and after the first occurrence of a separator. -/
def cutChars? (separator : Char) (cs : List Char) : Option (List Char × List Char) :=
  match cs.dropWhile (fun c => c != separator) with
  | [] => none
  | _ :: rest => some (cs.takeWhile (fun c => c != separator), rest)

/-- The text before and the text after the first occurrence of a
separator, if there is one. -/
def cutAt? (separator : Char) (s : String) : Option (String × String) :=
  (cutChars? separator s.toList).map fun (before, after) =>
    (String.ofList before, String.ofList after)

theorem cutChars?_append {separator : Char} {before : List Char} (h : separator ∉ before)
    (after : List Char) :
    cutChars? separator (before ++ separator :: after) = some (before, after) := by
  have inside : ∀ c ∈ before, (c != separator) = true :=
    fun c member => bne_iff_ne.2 fun same => h (same ▸ member)
  unfold cutChars?
  rw [List.dropWhile_append_of_pos inside, List.takeWhile_append_of_pos inside]
  simp

theorem cutChars?_eq_none {separator : Char} {cs : List Char} (h : separator ∉ cs) :
    cutChars? separator cs = none := by
  have inside : ∀ c ∈ cs, (c != separator) = true :=
    fun c member => bne_iff_ne.2 fun same => h (same ▸ member)
  have rest := @List.dropWhile_append_of_pos _ _ cs [] inside
  rw [List.append_nil, List.dropWhile_nil] at rest
  unfold cutChars?
  rw [rest]

/-- A text is cut at its first separator. -/
theorem cutAt?_append {separator : Char} {before : String} (h : separator ∉ before.toList)
    (after : String) :
    cutAt? separator (before ++ String.singleton separator ++ after) = some (before, after) := by
  have chars : (before ++ String.singleton separator ++ after).toList =
      before.toList ++ separator :: after.toList := by
    rw [String.toList_append, String.toList_append, String.toList_singleton, List.append_assoc]
    rfl
  unfold cutAt?
  rw [chars, cutChars?_append h, Option.map_some]
  dsimp only
  rw [String.ofList_toList, String.ofList_toList]

theorem cutAt?_eq_none {separator : Char} {s : String} (h : separator ∉ s.toList) :
    cutAt? separator s = none := by
  unfold cutAt?
  rw [cutChars?_eq_none h, Option.map_none]

/-- A text has no separator, or is a text without one before the first. -/
theorem not_mem_or_exists_cut (separator : Char) (s : String) :
    separator ∉ s.toList ∨
      ∃ before after, s = before ++ String.singleton separator ++ after ∧
        separator ∉ before.toList := by
  by_cases found : separator ∈ s.toList
  · obtain ⟨before, after, chars, first⟩ := List.eq_append_cons_of_mem found
    refine .inr ⟨String.ofList before, String.ofList after, String.toList_injective ?_, ?_⟩
    · rw [String.toList_append, String.toList_append, String.toList_singleton,
        String.toList_ofList, String.toList_ofList, List.append_assoc, chars]
      rfl
    · rw [String.toList_ofList]
      exact first
  · exact .inl found

/-- The characters after the last place where the separator occurs. Of
overlapping occurrences the one that starts last counts. -/
def afterLastChars? (separator : List Char) : List Char → Option (List Char)
  | [] => none
  | c :: cs =>
    match afterLastChars? separator cs with
    | some rest => some rest
    | none =>
      if separator.isPrefixOf (c :: cs) then some ((c :: cs).drop separator.length) else none

/-- The text after the last occurrence of a separator, if there is one. -/
def afterLast? (separator s : String) : Option String :=
  (afterLastChars? separator.toList s.toList).map String.ofList

/-- The text without a given ending, if it has that ending. The ending is taken
away once. -/
def withoutEnding? (ending s : String) : Option String :=
  if ending.toList.isSuffixOf s.toList then
    some (String.ofList (s.toList.take (s.toList.length - ending.toList.length)))
  else
    none

/-- Whether the text has the given ending. -/
def hasEnding (ending s : String) : Bool :=
  ending.toList.isSuffixOf s.toList

end SchemaPlan.Text
