import Mathlib.Data.List.Infix
import Mathlib.Data.List.TakeWhile
import SchemaPlan.Text.Ascii
import SchemaPlan.Text.Blank
import SchemaPlan.Text.Pieces

/-!
# Words and cuts

A text that somebody else has written is read by cutting away what is in front of a
separator and by taking the words of what is left. Here stands what these readings do to
a text that is put together from parts.

Words do not see the blanks at the two ends of a text (`Text.wordChars_blank_append`,
`Text.wordChars_append_blank`), and words that are joined by blanks are read again
(`Text.wordChars_intercalate`). The last occurrence of a separator is in the later part of a
text if that part has one at all, and in the earlier part otherwise; a separator of more
than one character could also lie across the border, which is why the parts are taken with
a foreign character between them (`Text.pastLast_append_cons`). And to lower the capitals of
ASCII changes neither which characters are blank nor which of them belong to a separator.
-/

namespace SchemaPlan.Text

variable {c : Char} {cs xs ys separator w : List Char} {ws : List (List Char)}

/-! ## Case -/

/-- A character is its own small letter, or a capital that becomes one. Only
capitals of ASCII are lowered. -/
theorem toLower_eq_or (c : Char) :
    c.toLower = c ∨ c.isUpper = true ∧ c.toLower.isLower = true := by
  unfold Char.toLower
  split
  case isFalse => exact .inl rfl
  case isTrue upper =>
    have low : 65 ≤ c.val.toNat := upper.1
    have high : c.val.toNat ≤ 90 := upper.2
    have code : (c.val + ('a'.val - 'A'.val)).toNat = c.val.toNat + 32 := by
      rw [UInt32.toNat_add]
      exact Nat.mod_eq_of_lt (by show c.val.toNat + 32 < 2 ^ 32; omega)
    have small : 97 ≤ (c.val + ('a'.val - 'A'.val)).toNat ∧
        (c.val + ('a'.val - 'A'.val)).toNat ≤ 122 := by omega
    exact .inr ⟨decide_eq_true upper,
      Bool.and_eq_true_iff.2 ⟨decide_eq_true small.1, decide_eq_true small.2⟩⟩

theorem toLower_of_isLower (h : c.isLower = true) : c.toLower = c := by
  unfold Char.toLower
  refine dif_neg fun upper => ?_
  have low : 97 ≤ c.val.toNat := (of_decide_eq_true (Bool.and_eq_true_iff.1 h).1 : _)
  have high : c.val.toNat ≤ 90 := upper.2
  omega

@[simp] theorem toLower_toLower (c : Char) : c.toLower.toLower = c.toLower := by
  rcases toLower_eq_or c with same | ⟨-, small⟩
  · rw [same, same]
  · exact toLower_of_isLower small

theorem isAlpha_of_isUpper (h : c.isUpper = true) : c.isAlpha = true :=
  Bool.or_eq_true_iff.2 (.inl h)

theorem isAlpha_of_isLower (h : c.isLower = true) : c.isAlpha = true :=
  Bool.or_eq_true_iff.2 (.inr h)

/-- No other character is lowered to one that is not a letter. So signs such as
dots and brackets are found at the same places before and after. -/
theorem toLower_eq_iff {sign : Char} (h : sign.isAlpha = false) : c.toLower = sign ↔ c = sign := by
  rcases toLower_eq_or c with same | ⟨capital, small⟩
  · rw [same]
  · constructor
    · rintro rfl
      rw [isAlpha_of_isLower small] at h
      cases h
    · rintro rfl
      rw [isAlpha_of_isUpper capital] at h
      cases h

/-- No letter and no digit of ASCII is blank. -/
theorem isBlank_of_isAlphanum (h : c.isAlphanum = true) : isBlank c = false := by
  have range : 0x20 < c.toNat ∧ c.toNat < 0x85 := by
    rcases toNat_of_isAlphanum h with ⟨low, high⟩ | ⟨low, high⟩ | ⟨low, high⟩ <;> omega
  show blankRanges.containsCode c.toNat = false
  rw [blankRanges, CodeRanges.containsCode_cons_of_lt _ (by omega) (by omega),
    CodeRanges.containsCode_cons_of_lt _ (by omega) range.1, CodeRanges.containsCode,
    if_pos range.2]

/-- No letter is a blank, so what is made of letters is one word. -/
theorem isBlank_of_isAlpha (h : c.isAlpha = true) : isBlank c = false :=
  isBlank_of_isAlphanum (Bool.or_eq_true_iff.2 (.inl h))

/-- Taking a character to lower case makes no blank and removes none. This is
why the words of a text can be taken before or after. -/
@[simp] theorem isBlank_toLower (c : Char) : isBlank c.toLower = isBlank c := by
  rcases toLower_eq_or c with same | ⟨capital, small⟩
  · rw [same]
  · rw [isBlank_of_isAlpha (isAlpha_of_isLower small),
      isBlank_of_isAlpha (isAlpha_of_isUpper capital)]

/-! ## Words -/

/-- Every character is blank. -/
def Blank (cs : List Char) : Prop :=
  ∀ c ∈ cs, isBlank c = true

instance (cs : List Char) : Decidable (Blank cs) :=
  List.decidableBAll _ cs

/-- No character is blank. -/
def Solid (cs : List Char) : Prop :=
  ∀ c ∈ cs, isBlank c = false

instance (cs : List Char) : Decidable (Solid cs) :=
  List.decidableBAll _ cs

theorem Blank.notMem (blank : Blank cs) (solid : isBlank c = false) : c ∉ cs := by
  intro mem
  rw [blank c mem] at solid
  cases solid

/-- Of blanks nothing is left without the blanks. -/
theorem Blank.filter_eq_nil (blank : Blank cs) : (cs.filter fun c => !isBlank c) = [] :=
  List.filter_eq_nil_iff.2 fun c hc => by rw [blank c hc]; decide

theorem Solid.filter_eq_self (solid : Solid cs) : (cs.filter fun c => !isBlank c) = cs :=
  List.filter_eq_self.2 fun c hc => by rw [solid c hc]; rfl

theorem Blank.lowered (blank : Blank cs) : Blank (cs.map Char.toLower) := by
  intro c hc
  obtain ⟨d, hd, rfl⟩ := List.mem_map.1 hc
  simpa using blank d hd

/-- **A text is cut into words at any of its blanks**: the words before it and
the words after it are all the words. The other statements on words follow from
this one. -/
theorem wordChars_append_cons (xs ys : List Char) (h : isBlank c = true) :
    wordChars (xs ++ c :: ys) = wordChars xs ++ wordChars ys := by
  unfold wordChars
  rw [List.splitOnP_append_cons xs ys h, List.filter_append]

/-- Blanks in front make no words, and by the next statement nor do blanks at
the end. -/
theorem wordChars_blank_append (h : Blank xs) : wordChars (xs ++ ys) = wordChars ys := by
  induction xs with
  | nil => rfl
  | cons c rest ih =>
    have first := wordChars_append_cons [] (rest ++ ys) (h c List.mem_cons_self)
    rw [List.cons_append]
    exact first.trans (ih fun d hd => h d (List.mem_cons_of_mem c hd))

theorem wordChars_append_blank (h : Blank ys) : wordChars (xs ++ ys) = wordChars xs := by
  cases ys with
  | nil => rw [List.append_nil]
  | cons c rest =>
    have none := @wordChars_blank_append rest [] fun d hd => h d (List.mem_cons_of_mem c hd)
    rw [List.append_nil] at none
    rw [wordChars_append_cons xs rest (h c List.mem_cons_self), none]
    exact List.append_nil _

/-- Between the breaks of a list is all that is no break. -/
theorem flatten_splitOnP (isBreak : Char → Bool) (cs : List Char) :
    (cs.splitOnP isBreak).flatten = cs.filter fun c => !isBreak c := by
  induction cs with
  | nil => rfl
  | cons c rest ih =>
    obtain ⟨first, later, split⟩ := List.exists_cons_of_ne_nil (List.splitOnP_ne_nil isBreak rest)
    rw [split, List.flatten_cons] at ih
    rw [List.splitOnP_cons_eq_if_modifyHead, split]
    cases breaks : isBreak c
    · rw [List.filter_cons_of_pos (by simp [breaks]), ← ih]
      rfl
    · rw [List.filter_cons_of_neg (by simp [breaks]), ← ih]
      rfl

/-- **The words of a text are all that is not blank.** What is known of every
character of a text is known of every character of its words. -/
theorem flatten_wordChars (cs : List Char) :
    (wordChars cs).flatten = cs.filter fun c => !isBlank c := by
  rw [← flatten_splitOnP]
  exact List.flatten_filter_not_isEmpty

/-- What is between two breaks is a part of the whole. -/
theorem infix_of_mem_splitOnP {isBreak : Char → Bool} {cs : List Char}
    (h : w ∈ cs.splitOnP isBreak) : w <:+: cs := by
  by_cases breaks : ∃ c ∈ cs, isBreak c = true
  · obtain ⟨c, hc, here⟩ := breaks
    obtain ⟨before, after, rfl⟩ := List.append_of_mem hc
    rw [List.splitOnP_append_cons before after here, List.mem_append] at h
    rcases h with h | h
    · exact (infix_of_mem_splitOnP h).trans (List.prefix_append _ _).isInfix
    · exact (infix_of_mem_splitOnP h).trans
        ((List.suffix_cons c after).trans (List.suffix_append _ _)).isInfix
  · have none : ∀ c ∈ cs, isBreak c = false := fun c hc =>
      Bool.eq_false_iff.2 fun here => breaks ⟨c, hc, here⟩
    rw [List.splitOnP_eq_singleton none, List.mem_singleton] at h
    rw [h]
termination_by cs.length

/-- A word stands in the text as it is, without anything left out. So a
separator within a word is one within the text. -/
theorem infix_of_mem_wordChars (h : w ∈ wordChars cs) : w <:+: cs :=
  infix_of_mem_splitOnP (List.mem_of_mem_filter h)

theorem ne_nil_of_mem_wordChars (h : w ∈ wordChars cs) : w ≠ [] := by
  have kept := (List.mem_filter.1 h).2
  rintro rfl
  cases kept

theorem solid_of_mem_wordChars (h : w ∈ wordChars cs) : Solid w := by
  intro c hc
  have inside := List.mem_flatten_of_mem h hc
  rw [flatten_wordChars, List.mem_filter, Bool.not_eq_true'] at inside
  exact inside.2

/-- Characters without a blank among them are one word, if there are any. -/
theorem wordChars_of_solid (solid : Solid cs) (nonempty : cs ≠ []) : wordChars cs = [cs] := by
  rw [wordChars, List.splitOnP_eq_singleton solid, List.filter_cons_of_pos (by simpa using nonempty),
    List.filter_nil]

/-- **Words that are joined by blanks are read again**, in the same order. They
must not be empty, for nothing is read between two blanks. -/
theorem wordChars_intercalate (blank : isBlank c = true) (h : ∀ w ∈ ws, w ≠ [] ∧ Solid w) :
    wordChars ([c].intercalate ws) = ws := by
  induction ws with
  | nil => rfl
  | cons w rest ih =>
    rw [List.forall_mem_cons] at h
    have first := wordChars_of_solid h.1.2 h.1.1
    by_cases last : rest = []
    · rw [last, List.intercalate_singleton, first]
    · rw [List.intercalate_cons_of_ne_nil last, List.append_assoc, List.singleton_append,
        wordChars_append_cons _ _ blank, first, ih h.2]
      rfl

/-- What occurs in a text that was joined is the separator or occurs in one of
the parts. -/
theorem of_mem_intercalate {d : Char} (h : d ∈ [c].intercalate ws) : d = c ∨ ∃ w ∈ ws, d ∈ w := by
  induction ws with
  | nil => cases h
  | cons w rest ih =>
    by_cases last : rest = []
    · rw [last, List.intercalate_singleton] at h
      exact .inr ⟨w, List.mem_cons_self, h⟩
    · rw [List.intercalate_cons_of_ne_nil last, List.mem_append, List.mem_append,
        List.mem_singleton] at h
      rcases h with (h | h) | h
      · exact .inr ⟨w, List.mem_cons_self, h⟩
      · exact .inl h
      · exact (ih h).imp_right fun ⟨v, hv, hd⟩ => ⟨v, List.mem_cons_of_mem w hv, hd⟩

/-- The characters of the pieces are those of the text, without the separators. -/
theorem flatten_pieces (separator : Char) (s : String) :
    (pieces separator s).flatMap String.toList = s.toList.filter fun c => c != separator := by
  rw [pieces, List.flatMap_map]
  simp only [String.toList_ofList]
  exact List.flatMap_id'.trans (flatten_splitOnP _ s.toList)

/-- What occurs in a piece occurs in the text and is not the separator at which
it was cut. -/
theorem of_mem_pieces {separator : Char} {s piece : String} (h : piece ∈ pieces separator s)
    (hc : c ∈ piece.toList) : c ∈ s.toList ∧ c ≠ separator := by
  have inside := List.mem_flatMap_of_mem h hc
  rw [flatten_pieces, List.mem_filter, bne_iff_ne] at inside
  exact inside

/-- **A text is cut at any of its separators**, the pieces before it and the
pieces after it are all the pieces. -/
theorem pieces_append (separator : Char) (s t : String) :
    pieces separator (s ++ String.singleton separator ++ t) =
      pieces separator s ++ pieces separator t := by
  have chars : (s ++ String.singleton separator ++ t).toList =
      s.toList ++ separator :: t.toList := by
    rw [String.toList_append, String.toList_append, String.toList_singleton, List.append_assoc]
    rfl
  rw [pieces, chars, List.splitOn_append_cons_self, List.map_append]
  rfl

theorem pieces_eq_singleton {separator : Char} {s : String} (h : separator ∉ s.toList) :
    pieces separator s = [s] := by
  rw [pieces, List.splitOn_eq_singleton h, List.map_singleton, String.ofList_toList]

/-- A text is what is left of it when it is trimmed, between blanks. Proofs
about trimming work with this form and not with how the blanks are dropped. -/
theorem exists_trimChars (cs : List Char) :
    ∃ before after, cs = before ++ trimChars cs ++ after ∧ Blank before ∧ Blank after := by
  have split : ∀ ds : List Char, ds = ds.takeWhile isBlank ++ ds.dropWhile isBlank ∧
      Blank (ds.takeWhile isBlank) := fun ds =>
    ⟨List.takeWhile_append_dropWhile.symm, fun c hc => List.all_eq_true.1 List.all_takeWhile c hc⟩
  obtain ⟨front, blankFront⟩ := split cs
  obtain ⟨back, blankBack⟩ := split (cs.dropWhile isBlank).reverse
  refine ⟨_, ((cs.dropWhile isBlank).reverse.takeWhile isBlank).reverse, ?_, blankFront, ?_⟩
  · rw [trimChars, List.append_assoc, ← List.reverse_append, ← back, List.reverse_reverse]
    exact front
  · exact fun c hc => blankBack c (List.mem_reverse.1 hc)

/-- Blanks in front are trimmed off, and by the next statement so are blanks at
the end. -/
theorem trimChars_blank_append (h : Blank xs) : trimChars (xs ++ ys) = trimChars ys := by
  unfold trimChars
  rw [List.dropWhile_append_of_pos h]

theorem trimChars_append_blank (h : Blank ys) : trimChars (xs ++ ys) = trimChars xs := by
  have gone : ys.reverse.dropWhile isBlank = [] :=
    List.dropWhile_eq_nil_iff.2 fun c hc => h c (List.mem_reverse.1 hc)
  unfold trimChars
  rw [List.dropWhile_append]
  split
  · rename_i empty
    rw [List.isEmpty_iff.1 empty, List.dropWhile_eq_nil_iff.2 h]
  · rw [List.reverse_append, List.dropWhile_append_of_pos fun c hc => h c (List.mem_reverse.1 hc)]

/-- A trimmed list has nothing left to trim. -/
@[simp] theorem trimChars_trimChars (cs : List Char) : trimChars (trimChars cs) = trimChars cs := by
  obtain ⟨before, after, whole, front, back⟩ := exists_trimChars cs
  have trimmed := congrArg trimChars whole
  rw [trimChars_append_blank back, trimChars_blank_append front] at trimmed
  exact trimmed.symm

theorem trimChars_of_solid (h : Solid cs) : trimChars cs = cs := by
  obtain ⟨before, after, whole, front, back⟩ := exists_trimChars cs
  have none {part : List Char} (blank : Blank part) (inside : part ⊆ cs) : part = [] := by
    refine List.eq_nil_iff_forall_not_mem.2 fun c hc => ?_
    exact blank.notMem (h c (inside hc)) hc
  have first : before = [] := none front (by rw [whole]; simp)
  have last : after = [] := none back (by rw [whole]; simp)
  rw [first, last, List.nil_append, List.append_nil] at whole
  exact whole.symm

theorem trim_trim (s : String) : trim (trim s) = trim s := by
  simp [trim]

/-! ## What is past the last separator -/

/-- What is past the last occurrence of a separator; everything, if it does not occur. -/
def pastLast (separator cs : List Char) : List Char :=
  (afterLastChars? separator cs).getD cs

/-- The search for the last separator, from the front: what a later place gives
comes first, and this place counts only if there is none. -/
theorem afterLastChars?_cons (separator : List Char) (c : Char) (cs : List Char) :
    afterLastChars? separator (c :: cs) = (afterLastChars? separator cs).or
      (if separator.isPrefixOf (c :: cs) then some ((c :: cs).drop separator.length) else none) := by
  rw [afterLastChars?]
  cases afterLastChars? separator cs <;> rfl

/-- Nothing comes after the last separator exactly if there is no separator.
The empty separator is excluded, which would be found everywhere but in the
empty text. -/
theorem afterLastChars?_eq_none_iff (h : separator ≠ []) :
    afterLastChars? separator cs = none ↔ ¬ separator <:+: cs := by
  induction cs with
  | nil => simpa [afterLastChars?] using h
  | cons c rest ih =>
    rw [afterLastChars?_cons, Option.or_eq_none_iff, ih, List.infix_cons_iff, not_or, and_comm]
    simp

/-- A character that does not belong to a separator is not covered by one. -/
theorem isPrefixOf_append_cons (hc : c ∉ separator) (xs ys : List Char) :
    separator.isPrefixOf (xs ++ c :: ys) = separator.isPrefixOf xs := by
  induction separator generalizing xs with
  | nil => simp
  | cons s rest ih =>
    rw [List.mem_cons, not_or] at hc
    cases xs with
    | nil => simp [List.isPrefixOf, Ne.symm hc.1]
    | cons x xs => rw [List.cons_append, List.isPrefixOf, List.isPrefixOf, ih hc.2]

/-- **The last separator is behind a foreign character**, if there is one behind it at all. -/
theorem afterLastChars?_append_cons (h : separator ≠ []) (hc : c ∉ separator) (xs ys : List Char) :
    afterLastChars? separator (xs ++ c :: ys) = (afterLastChars? separator ys).or
      ((afterLastChars? separator xs).map fun rest => rest ++ c :: ys) := by
  induction xs with
  | nil =>
    have apart : separator.isPrefixOf (c :: ys) = false := by
      have empty := isPrefixOf_append_cons hc [] ys
      rw [List.nil_append] at empty
      rw [empty]
      cases separator with
      | nil => exact absurd rfl h
      | cons s rest => rfl
    rw [List.nil_append, afterLastChars?_cons, apart]
    rfl
  | cons x rest ih =>
    rw [List.cons_append, afterLastChars?_cons, ih, afterLastChars?_cons, ← List.cons_append,
      isPrefixOf_append_cons hc]
    cases afterLastChars? separator ys with
    | some _ => rfl
    | none =>
      cases afterLastChars? separator rest with
      | some _ => rfl
      | none =>
        cases fits : separator.isPrefixOf (x :: rest) with
        | false => rfl
        | true =>
          have begins := List.isPrefixOf_iff_prefix.1 fits
          exact congrArg some (List.drop_append_of_le_length begins.length_le)

/-- A separator is not made by joining with a foreign character: an occurrence
would have to lie across a joint, and the character there belongs to no
separator. -/
theorem absent_intercalate (h : separator ≠ []) (hc : c ∉ separator)
    (absent : ∀ w ∈ ws, ¬ separator <:+: w) : ¬ separator <:+: [c].intercalate ws := by
  induction ws with
  | nil => simpa using h
  | cons w rest ih =>
    rw [List.forall_mem_cons] at absent
    by_cases last : rest = []
    · rw [last, List.intercalate_singleton]
      exact absent.1
    · rw [List.intercalate_cons_of_ne_nil last, List.append_assoc, List.singleton_append,
        ← afterLastChars?_eq_none_iff h, afterLastChars?_append_cons h hc,
        (afterLastChars?_eq_none_iff h).2 (ih absent.2), (afterLastChars?_eq_none_iff h).2 absent.1]
      rfl

theorem pastLast_of_absent (h : separator ≠ []) (absent : ¬ separator <:+: cs) :
    pastLast separator cs = cs := by
  rw [pastLast, (afterLastChars?_eq_none_iff h).2 absent]
  rfl

/-- The search finds the text past the last separator, if there is one;
`pastLast` gives the whole text where it finds nothing. -/
theorem afterLastChars?_eq (h : separator ≠ []) (cs : List Char) :
    afterLastChars? separator cs = if separator <:+: cs then some (pastLast separator cs) else none := by
  rw [pastLast]
  cases after : afterLastChars? separator cs with
  | none => rw [if_neg ((afterLastChars?_eq_none_iff h).1 after)]
  | some rest =>
    have found : separator <:+: cs := Decidable.not_not.1 fun absent => by
      rw [(afterLastChars?_eq_none_iff h).2 absent] at after
      cases after
    rw [if_pos found]
    rfl

/-- **A character that the separator does not have divides the search**: if
there is a separator behind it, only what is behind counts, and if not, the
search goes on in front of it and all that is behind is kept. -/
theorem pastLast_append_cons (h : separator ≠ []) (hc : c ∉ separator) (xs ys : List Char) :
    pastLast separator (xs ++ c :: ys) =
      if separator <:+: ys then pastLast separator ys else pastLast separator xs ++ c :: ys := by
  rw [pastLast, afterLastChars?_append_cons h hc, afterLastChars?_eq h ys]
  split
  case isTrue => rfl
  case isFalse =>
    rw [pastLast]
    cases afterLastChars? separator xs <;> rfl

/-- No character of a list belongs to the separator. -/
def Foreign (separator cs : List Char) : Prop :=
  ∀ c ∈ cs, c ∉ separator

instance (separator cs : List Char) : Decidable (Foreign separator cs) :=
  List.decidableBAll _ cs

theorem Foreign.absent (h : separator ≠ []) (foreign : Foreign separator cs) :
    ¬ separator <:+: cs := by
  intro found
  obtain ⟨s, rest, rfl⟩ := List.exists_cons_of_ne_nil h
  exact foreign s (found.subset List.mem_cons_self) List.mem_cons_self

theorem pastLast_suffix (separator cs : List Char) : pastLast separator cs <:+ cs := by
  have later : ∀ {rest}, afterLastChars? separator cs = some rest → rest <:+ cs := by
    induction cs with
    | nil => nofun
    | cons c cs ih =>
      intro rest h
      rw [afterLastChars?_cons, Option.or_eq_some_iff] at h
      rcases h with h | ⟨-, h⟩
      · exact (ih h).trans (List.suffix_cons c cs)
      · split at h
        · cases h
          exact List.drop_suffix _ _
        · cases h
  rw [pastLast]
  cases after : afterLastChars? separator cs with
  | none => exact List.suffix_refl cs
  | some rest => exact later after

/-- What is past the last separator has none, so that cutting a second time
does nothing. -/
theorem absent_pastLast (h : separator ≠ []) (cs : List Char) :
    ¬ separator <:+: pastLast separator cs := by
  have later : ∀ {rest}, afterLastChars? separator cs = some rest → ¬ separator <:+: rest := by
    induction cs with
    | nil => nofun
    | cons c cs ih =>
      intro rest found
      rw [afterLastChars?_cons, Option.or_eq_some_iff] at found
      rcases found with found | ⟨absent, found⟩
      · exact ih found
      · split at found
        · cases found
          obtain ⟨s, tail, rfl⟩ := List.exists_cons_of_ne_nil h
          rw [afterLastChars?_eq_none_iff h] at absent
          exact fun inside => absent (inside.trans (List.drop_suffix tail.length cs).isInfix)
        · cases found
  rw [pastLast]
  cases after : afterLastChars? separator cs with
  | none => exact (afterLastChars?_eq_none_iff h).1 after
  | some rest => exact later after

/-- What has nothing of the separator stays behind it. It is not enough that
the separator does not occur in it, for an occurrence may begin before. -/
theorem pastLast_append (h : separator ≠ []) (foreign : Foreign separator ys) (xs : List Char) :
    pastLast separator (xs ++ ys) = pastLast separator xs ++ ys := by
  cases ys with
  | nil => rw [List.append_nil, List.append_nil]
  | cons c rest =>
    have later : Foreign separator rest := fun d hd => foreign d (List.mem_cons_of_mem c hd)
    rw [pastLast_append_cons h (foreign c List.mem_cons_self), if_neg (later.absent h)]

/-- What has nothing of the separator and is in front is cut away with it, if there is a
cut at all. -/
theorem pastLast_foreign_append (h : separator ≠ []) (foreign : Foreign separator xs)
    (ys : List Char) :
    pastLast separator (xs ++ ys) =
      if separator <:+: ys then pastLast separator ys else xs ++ ys := by
  have after : afterLastChars? separator (xs ++ ys) = afterLastChars? separator ys := by
    induction xs with
    | nil => rfl
    | cons c rest ih =>
      rw [List.cons_append, ← List.nil_append (c :: _),
        afterLastChars?_append_cons h (foreign c List.mem_cons_self),
        ih fun d hd => foreign d (List.mem_cons_of_mem c hd)]
      exact Option.or_none
  rw [pastLast, after, afterLastChars?_eq h]
  split <;> rfl

/-- Blanks in front of a text stay there or are cut away. -/
theorem exists_pastLast_of_blank (h : separator ≠ []) (solid : Solid separator)
    (blank : Blank xs) (ys : List Char) :
    ∃ rest, Blank rest ∧ pastLast separator (xs ++ ys) = rest ++ pastLast separator ys := by
  have foreign : Foreign separator xs := fun c hc mem => blank.notMem (solid c mem) hc
  rw [pastLast_foreign_append h foreign]
  split
  case isTrue => exact ⟨[], nofun, rfl⟩
  case isFalse absent => exact ⟨xs, blank, by rw [pastLast_of_absent h absent]⟩

/-- Nothing is past a separator at the end. -/
theorem pastLast_self (h : separator ≠ []) (xs : List Char) :
    pastLast separator (xs ++ separator) = [] := by
  obtain ⟨s, rest, rfl⟩ := List.exists_cons_of_ne_nil h
  have ended : afterLastChars? (s :: rest) (xs ++ s :: rest) = some [] := by
    induction xs with
    | nil =>
      have shorter : ¬ s :: rest <:+: rest := fun found =>
        absurd found.length_le (Nat.not_succ_le_self rest.length)
      have begins : (s :: rest).isPrefixOf (s :: rest) = true :=
        List.isPrefixOf_iff_prefix.2 (List.prefix_refl _)
      rw [List.nil_append, afterLastChars?_cons, (afterLastChars?_eq_none_iff h).2 shorter,
        if_pos begins, List.drop_length]
      rfl
    | cons x earlier ih =>
      rw [List.cons_append, afterLastChars?_cons, ih]
      rfl
  rw [pastLast, ended]
  rfl

/-- No character is a letter. -/
def Letterless (cs : List Char) : Prop :=
  ∀ c ∈ cs, c.isAlpha = false

instance (cs : List Char) : Decidable (Letterless cs) :=
  List.decidableBAll _ cs

/-- **To lower the capitals does not move a cut**, because no sign of a
separator is a letter. So a type name may be lowered before or after it is cut.
-/
theorem pastLast_map_toLower (signs : Letterless separator) (cs : List Char) :
    pastLast separator (cs.map Char.toLower) = (pastLast separator cs).map Char.toLower := by
  have fits : ∀ ds : List Char,
      separator.isPrefixOf (ds.map Char.toLower) = separator.isPrefixOf ds := by
    induction separator with
    | nil => exact fun ds => by simp
    | cons s rest ih =>
      intro ds
      cases ds with
      | nil => rfl
      | cons d ds =>
        have same : (s == d.toLower) = (s == d) := by
          rw [Bool.eq_iff_iff, beq_iff_eq, beq_iff_eq, eq_comm,
            toLower_eq_iff (signs s List.mem_cons_self), eq_comm]
        rw [List.map_cons, List.isPrefixOf, List.isPrefixOf, same,
          ih fun t ht => signs t (List.mem_cons_of_mem s ht)]
  have after : afterLastChars? separator (cs.map Char.toLower) =
      (afterLastChars? separator cs).map fun rest => rest.map Char.toLower := by
    induction cs with
    | nil => rfl
    | cons c rest ih =>
      rw [List.map_cons, afterLastChars?_cons, afterLastChars?_cons, ih, ← List.map_cons, fits,
        ← List.map_drop]
      cases afterLastChars? separator rest with
      | some _ => rfl
      | none => cases separator.isPrefixOf (c :: rest) <;> rfl
  rw [pastLast, pastLast, after]
  cases afterLastChars? separator cs <;> rfl

end SchemaPlan.Text
