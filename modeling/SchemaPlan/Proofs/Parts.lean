import SchemaPlan.Text.Pieces

/-!
# Texts made of parts

Sources are texts joined from parts: lists with a separator between their
items, and lines with a break after each. Here stands what the parts say about
the whole: how many there can be, which characters the whole has
(`Text.Consists`), and that a text of lines is cut into these lines again.
-/

namespace SchemaPlan.Text

variable {α : Type} {p q : Char → Prop} {s t : String}

/-! ## Parts between separators -/

/-- Joining parts, from the front: the first part and the separator come first
if there are more parts. -/
theorem toList_intercalate_cons {separator first : String} {rest : List String} (h : rest ≠ []) :
    (separator.intercalate (first :: rest)).toList =
      first.toList ++ separator.toList ++ (separator.intercalate rest).toList := by
  rw [String.intercalate_cons_of_ne_nil h, String.toList_append, String.toList_append]

theorem toList_concat (parts : List String) :
    ("".intercalate parts).toList = parts.flatMap String.toList := by
  induction parts with
  | nil => rfl
  | cons part later ih =>
    by_cases last : later = []
    · rw [last, String.intercalate_singleton, List.flatMap_singleton]
    · rw [toList_intercalate_cons last, ih, List.flatMap_cons, String.toList_empty, List.append_nil]

/-- Parts that are not empty are no more than the characters of the whole. -/
theorem length_le_of_intercalate (separator : String) (write : α → String) {items : List α}
    (h : ∀ item ∈ items, (write item).toList ≠ []) :
    items.length ≤ (separator.intercalate (items.map write)).toList.length := by
  induction items with
  | nil => exact Nat.zero_le _
  | cons item rest ih =>
    have first : 0 < (write item).toList.length :=
      List.length_pos_iff.2 (h item List.mem_cons_self)
    have later := ih fun other member => h other (List.mem_cons_of_mem item member)
    rw [List.map_cons]
    by_cases last : rest = []
    · rw [last, List.map_nil, String.intercalate_singleton]
      exact first
    · rw [toList_intercalate_cons (by simpa using last), List.length_append, List.length_append,
        List.length_cons]
      omega

/-! ## Texts of one sort -/

/-- Every character of a text is of one sort. -/
def Consists (p : Char → Prop) (s : String) : Prop :=
  ∀ c ∈ s.toList, p c

instance (p : Char → Prop) [DecidablePred p] (s : String) : Decidable (Consists p s) :=
  List.decidableBAll p s.toList

/-- **What holds of all characters of the parts holds of the whole.** Names,
lines and digits are all described in this way, and the next two statements
complete the rules by which they are put together. -/
theorem Consists.append (first : Consists p s) (second : Consists p t) : Consists p (s ++ t) := by
  intro c h
  rw [String.toList_append, List.mem_append] at h
  exact h.elim (first c) (second c)

theorem Consists.imp (h : Consists p s) (weaker : ∀ c, p c → q c) : Consists q s :=
  fun c member => weaker c (h c member)

theorem Consists.intercalate {separator : String} (between : Consists p separator)
    {write : α → String} {items : List α} (h : ∀ item ∈ items, Consists p (write item)) :
    Consists p (separator.intercalate (items.map write)) := by
  induction items with
  | nil => nofun
  | cons item rest ih =>
    have first := h item List.mem_cons_self
    rw [List.map_cons]
    by_cases last : rest = []
    · rw [last, List.map_nil, String.intercalate_singleton]
      exact first
    · rw [String.intercalate_cons_of_ne_nil (by simpa using last)]
      exact (first.append between).append
        (ih fun other member => h other (List.mem_cons_of_mem item member))

/-! ## Endings -/

/-- A text with an ending is some text with the ending behind it. With
`withoutEnding?_append` the text in front is found again. -/
theorem exists_of_hasEnding {ending s : String} (h : hasEnding ending s = true) :
    ∃ t, s = t ++ ending := by
  obtain ⟨chars, whole⟩ := List.isSuffixOf_iff_suffix.1 h
  refine ⟨String.ofList chars, String.toList_injective ?_⟩
  rw [String.toList_append, String.toList_ofList, whole]

@[simp] theorem withoutEnding?_append (s ending : String) :
    withoutEnding? ending (s ++ ending) = some s := by
  have ends : ending.toList.isSuffixOf (s.toList ++ ending.toList) = true :=
    List.isSuffixOf_iff_suffix.2 (List.suffix_append _ _)
  rw [withoutEnding?, String.toList_append, if_pos ends, List.length_append, Nat.add_sub_cancel,
    List.take_left, String.ofList_toList]

/-- **An ending can be taken off exactly where it is**, and then what was in
front is left. -/
theorem withoutEnding?_eq_some_iff {ending : String} :
    withoutEnding? ending s = some t ↔ s = t ++ ending := by
  constructor
  · intro h
    by_cases ends : hasEnding ending s = true
    · obtain ⟨stem, rfl⟩ := exists_of_hasEnding ends
      rw [withoutEnding?_append] at h
      rw [Option.some.inj h]
    · cases (if_neg ends).symm.trans h
  · rintro rfl
    exact withoutEnding?_append t ending

/-! ## Lines -/

/-- A text on one line. -/
abbrev IsLine (s : String) : Prop :=
  Consists (fun c => c ≠ '\n') s

/-- The lines as one text, each with a line break at its end. -/
def unlines (lines : List String) : String :=
  "".intercalate (lines.map fun line => line ++ "\n")

@[simp] theorem unlines_nil : unlines [] = "" := rfl

@[simp] theorem unlines_cons (line : String) (lines : List String) :
    unlines (line :: lines) = line ++ "\n" ++ unlines lines := by
  unfold unlines
  apply String.toList_injective
  rw [toList_concat, String.toList_append, toList_concat, List.map_cons, List.flatMap_cons]

/-- Lines of two lists are the text of the first and then that of the second,
as each line carries its own break. -/
@[simp] theorem unlines_append (first second : List String) :
    unlines (first ++ second) = unlines first ++ unlines second := by
  unfold unlines
  apply String.toList_injective
  rw [String.toList_append, toList_concat, toList_concat, toList_concat, List.map_append,
    List.flatMap_append]

/-- **The lines of a text are those it was made of**, and an empty one after the
last line break. -/
theorem pieces_unlines {lines : List String} (h : ∀ line ∈ lines, IsLine line) :
    pieces '\n' (unlines lines) = lines ++ [""] := by
  unfold pieces
  induction lines with
  | nil => rfl
  | cons line later ih =>
    have chars : (unlines (line :: later)).toList =
        line.toList ++ '\n' :: (unlines later).toList := by
      simp
    have inside : '\n' ∉ line.toList := fun found => h line List.mem_cons_self '\n' found rfl
    rw [chars, List.splitOn_append_cons_self_of_not_mem inside, List.map_cons,
      ih fun other member => h other (List.mem_cons_of_mem line member), String.ofList_toList]
    rfl

end SchemaPlan.Text
