import Mathlib.Data.List.TakeWhile
import SchemaPlan.Proofs.Parts
import SchemaPlan.Proofs.Words
import SchemaPlan.TypeName

/-!
# How a type is spelt

A database names a type with more than its name: with a namespace in front of it, with
parameters in brackets behind it, and with words behind the brackets. Before a name is
looked up, everything up to the last separator of namespaces is cut away, for the three
separators in turn, and then everything from the first bracket on. What counts of the rest
is its words in lower case, `TypeName.spelling`, and nothing else: that the text is trimmed
first makes no difference (`TypeName.words_base`), and neither does its case
(`TypeName.canonical_lower`).

The cuts are made in this order, and the first one does not know of brackets. A separator
among the parameters, as the point in `enum('v1.0')`, is the last one of the whole text, so
the name is cut away as a part of the namespace, and what is left begins in the middle of
the parameters (`TypeName.unqualified_of_parameters`). It ends in the closing bracket, which no
name has that comes from a text without brackets (`TypeName.canonical_closed_ne`), and so the
type is not recognised. The second cut takes the words behind the parameters with it: they are
heeded only where there are no parameters, and `timestamp(6) with time zone` is read as
`timestamp`.
-/

namespace SchemaPlan.TypeName

open Text

variable {cs xs ys before after : List Char} {raw raw' : String}

/-! ## Names without namespaces -/

/-- The characters of a name without namespaces. -/
def unqualified (cs : List Char) : List Char :=
  pastLast ['.'] (pastLast [':', ':'] (pastLast ['\\'] cs))

/-- None of the characters belongs to a separator of namespaces. -/
def Simple (cs : List Char) : Prop :=
  ∀ c ∈ cs, c ∉ ['\\', ':', '.']

instance (cs : List Char) : Decidable (Simple cs) :=
  List.decidableBAll _ cs

/-- Characters of a simple text are foreign to all three separators, so no
separator is made or broken where such a text is put next to another. -/
theorem Simple.foreign (simple : Simple cs) :
    Foreign ['\\'] cs ∧ Foreign [':', ':'] cs ∧ Foreign ['.'] cs := by
  refine ⟨fun c hc mem => ?_, fun c hc mem => ?_, fun c hc mem => ?_⟩ <;>
    exact simple c hc (by simp_all)

theorem Simple.append (first : Simple xs) (second : Simple ys) : Simple (xs ++ ys) :=
  fun c hc => (List.mem_append.1 hc).elim (first c) (second c)

theorem simple_of_blank (blank : Blank cs) : Simple cs := by
  have solid : Solid ['\\', ':', '.'] := by decide
  exact fun c hc sign => blank.notMem (solid c sign) hc

/-- What has no separator stays behind them. -/
theorem unqualified_append (simple : Simple ys) (xs : List Char) :
    unqualified (xs ++ ys) = unqualified xs ++ ys := by
  obtain ⟨back, colons, point⟩ := simple.foreign
  unfold unqualified
  rw [pastLast_append (List.cons_ne_nil _ _) back, pastLast_append (List.cons_ne_nil _ _) colons,
    pastLast_append (List.cons_ne_nil _ _) point]

theorem unqualified_of_simple (simple : Simple cs) : unqualified cs = cs :=
  unqualified_append simple []

/-- Some separator of namespaces occurs. -/
def HasSeparator (cs : List Char) : Prop :=
  ['\\'] <:+: cs ∨ [':', ':'] <:+: cs ∨ ['.'] <:+: cs

instance (cs : List Char) : Decidable (HasSeparator cs) :=
  inferInstanceAs (Decidable (_ ∨ _ ∨ _))

/-- **A bracket does not keep a separator from being one.** Namespaces are cut
before parameters are, so a dot within the parameters cuts the name away. -/
theorem unqualified_append_bracket (xs ys : List Char) :
    unqualified (xs ++ '(' :: ys) =
      if HasSeparator ys then unqualified ys else unqualified xs ++ '(' :: ys := by
  unfold unqualified
  rw [pastLast_append_cons (List.cons_ne_nil _ _) (by decide)]
  by_cases back : ['\\'] <:+: ys
  · have separated : HasSeparator ys := .inl back
    rw [if_pos back, if_pos separated]
  rw [if_neg back, pastLast_append_cons (List.cons_ne_nil _ _) (by decide),
    pastLast_of_absent (List.cons_ne_nil _ _) back]
  by_cases colons : [':', ':'] <:+: ys
  · have separated : HasSeparator ys := .inr (.inl colons)
    rw [if_pos colons, if_pos separated]
  rw [if_neg colons, pastLast_append_cons (List.cons_ne_nil _ _) (by decide),
    pastLast_of_absent (List.cons_ne_nil _ _) colons]
  by_cases point : ['.'] <:+: ys
  · have separated : HasSeparator ys := .inr (.inr point)
    rw [if_pos point, if_pos separated]
  · have unseparated : ¬ HasSeparator ys := not_or.2 ⟨back, not_or.2 ⟨colons, point⟩⟩
    rw [if_neg point, if_neg unseparated]

/-- A namespace ends in one of the separators. -/
def IsNamespace (cs : List Char) : Prop :=
  ['\\'] <:+ cs ∨ [':', ':'] <:+ cs ∨ ['.'] <:+ cs

instance (cs : List Char) : Decidable (IsNamespace cs) :=
  inferInstanceAs (Decidable (_ ∨ _ ∨ _))

/-- A namespace is nothing but qualification, so nothing of it is left. -/
theorem IsNamespace.unqualified_eq_nil (h : IsNamespace cs) : unqualified cs = [] := by
  unfold unqualified
  rcases h with ⟨front, rfl⟩ | ⟨front, rfl⟩ | ⟨front, rfl⟩
  · rw [pastLast_self (List.cons_ne_nil _ _)]
    rfl
  · rw [pastLast_append (List.cons_ne_nil _ _) (by decide), pastLast_self (List.cons_ne_nil _ _)]
    rfl
  · rw [pastLast_append (List.cons_ne_nil _ _) (by decide),
      pastLast_append (List.cons_ne_nil _ _) (by decide), pastLast_self (List.cons_ne_nil _ _)]

theorem unqualified_suffix (cs : List Char) : unqualified cs <:+ cs :=
  (pastLast_suffix _ _).trans ((pastLast_suffix _ _).trans (pastLast_suffix _ _))

/-- Blanks in front of a type are dropped with its namespace or stay in front
of its name, where trimming removes them. -/
theorem exists_unqualified_of_blank (blank : Blank before) (cs : List Char) :
    ∃ rest, Blank rest ∧ unqualified (before ++ cs) = rest ++ unqualified cs := by
  obtain ⟨first, blankFirst, back⟩ :=
    exists_pastLast_of_blank (List.cons_ne_nil '\\' []) (by decide) blank cs
  obtain ⟨second, blankSecond, colons⟩ :=
    exists_pastLast_of_blank (List.cons_ne_nil ':' [':']) (by decide) blankFirst
      (pastLast ['\\'] cs)
  obtain ⟨third, blankThird, point⟩ :=
    exists_pastLast_of_blank (List.cons_ne_nil '.' []) (by decide) blankSecond
      (pastLast [':', ':'] (pastLast ['\\'] cs))
  refine ⟨third, blankThird, ?_⟩
  unfold unqualified
  rw [back, colons, point]

/-! ## The words of a name -/

/-- The characters up to the first bracket. -/
def bracketless (cs : List Char) : List Char :=
  cs.takeWhile fun c => c != '('

/-- The parameters of a type begin at the first bracket, and nothing behind it
is kept. -/
theorem bracketless_append_bracket (h : '(' ∉ xs) (ys : List Char) :
    bracketless (xs ++ '(' :: ys) = xs := by
  have inside : ∀ c ∈ xs, (c != '(') = true := fun c hc => bne_iff_ne.2 fun same => h (same ▸ hc)
  rw [bracketless, List.takeWhile_append_of_pos inside, List.takeWhile_cons_of_neg (by simp),
    List.append_nil]

theorem bracketless_eq_self (h : '(' ∉ cs) : bracketless cs = cs :=
  List.takeWhile_eq_self_iff.2 fun _ hc => bne_iff_ne.2 fun same => h (same ▸ hc)

/-- The words of a name in lower case, without namespaces and without everything from the
first bracket on. -/
def spelling (cs : List Char) : List (List Char) :=
  wordChars ((bracketless (unqualified cs)).map Char.toLower)

/-- Blanks around a name do not change its words. -/
theorem spelling_of_blank (blank : Blank before) (blank' : Blank after) (cs : List Char) :
    spelling (before ++ cs ++ after) = spelling cs := by
  have solid : isBlank '(' = false := by decide
  obtain ⟨rest, blankRest, cut⟩ := exists_unqualified_of_blank blank cs
  rw [spelling, unqualified_append (simple_of_blank blank'), cut]
  by_cases bracketed : '(' ∈ unqualified cs
  · obtain ⟨first, later, split, unbracketed⟩ := List.eq_append_cons_of_mem bracketed
    have absent : '(' ∉ rest ++ first := by
      rw [List.mem_append, not_or]
      exact ⟨blankRest.notMem solid, unbracketed⟩
    have whole : rest ++ (first ++ '(' :: later) ++ after =
        (rest ++ first) ++ '(' :: (later ++ after) := by simp only [List.append_assoc, List.cons_append]
    rw [spelling, split, whole, bracketless_append_bracket absent,
      bracketless_append_bracket unbracketed, List.map_append,
      wordChars_blank_append blankRest.lowered]
  · have absent : '(' ∉ rest ++ unqualified cs ++ after := by
      rw [List.mem_append, List.mem_append, not_or, not_or]
      exact ⟨⟨blankRest.notMem solid, bracketed⟩, blank'.notMem solid⟩
    rw [spelling, bracketless_eq_self absent, bracketless_eq_self bracketed, List.map_append,
      List.map_append, wordChars_append_blank blank'.lowered,
      wordChars_blank_append blankRest.lowered]

theorem toList_withoutNamespace (separator name : String) :
    (withoutNamespace separator name).toList = pastLast separator.toList name.toList := by
  rw [withoutNamespace, afterLast?, pastLast]
  cases afterLastChars? separator.toList name.toList with
  | none => rfl
  | some rest => exact String.toList_ofList

/-- **The base of a type, as one computation on its characters**: trimmed, then
without its namespace, then without its parameters. The namespace is cut at the
last separator of the whole text, before the parameters are looked for. -/
theorem toList_base (raw : String) :
    (base raw).toList = bracketless (unqualified (trimChars raw.toList)) := by
  have bare : (withoutNamespace "." (withoutNamespace "::" (withoutNamespace "\\"
      (trim raw)))).toList = unqualified (trimChars raw.toList) := by
    have back : "\\".toList = ['\\'] := rfl
    have colons : "::".toList = [':', ':'] := rfl
    have point : ".".toList = ['.'] := rfl
    rw [toList_withoutNamespace, toList_withoutNamespace, toList_withoutNamespace, back, colons,
      point, trim, String.toList_ofList, unqualified]
  rw [← bare]
  unfold base
  dsimp only
  generalize withoutNamespace "." (withoutNamespace "::" (withoutNamespace "\\" (trim raw))) = name
  rcases not_mem_or_exists_cut '(' name with absent | ⟨first, later, rfl, absent⟩
  · rw [cutAt?_eq_none absent, bracketless_eq_self absent]
  · have chars : (first ++ String.singleton '(' ++ later).toList =
        first.toList ++ '(' :: later.toList := by
      rw [String.toList_append, String.toList_append, String.toList_singleton, List.append_assoc]
      rfl
    rw [cutAt?_append absent, chars, bracketless_append_bracket absent]

/-- **It does not matter that a name is trimmed first**: blanks at its ends are
lost again when its words are read. -/
theorem words_base (raw : String) :
    words (lower (base raw)) = (spelling raw.toList).map String.ofList := by
  obtain ⟨before, after, whole, blank, blank'⟩ := exists_trimChars raw.toList
  have trimmed : spelling raw.toList = spelling (trimChars raw.toList) :=
    (congrArg spelling whole).trans (spelling_of_blank blank blank' _)
  rw [trimmed, words, lower, String.toList_ofList, toList_base]
  rfl

/-- **The canonical name is decided by the words**, so spellings are compared
word by word and blanks drop out. -/
theorem canonical_congr (h : spelling raw.toList = spelling raw'.toList) :
    canonical raw = canonical raw' := by
  have same : plain raw = plain raw' := by
    rw [plain, plain, words_base, words_base, h]
  unfold canonical
  rw [same]

/-- Neither separators nor brackets are letters, so cutting a type and taking
it to lower case can be done in either order. -/
theorem spelling_map_toLower (cs : List Char) : spelling (cs.map Char.toLower) = spelling cs := by
  have cut : unqualified (cs.map Char.toLower) = (unqualified cs).map Char.toLower := by
    unfold unqualified
    rw [pastLast_map_toLower (by decide), pastLast_map_toLower (by decide),
      pastLast_map_toLower (by decide)]
  have kept : ((fun c => c != '(') ∘ Char.toLower) = fun c => c != '(' :=
    funext fun c => by
      rw [Function.comp_apply, Bool.eq_iff_iff, bne_iff_ne, bne_iff_ne, ne_eq, ne_eq,
        toLower_eq_iff (by decide)]
  have twice : Char.toLower ∘ Char.toLower = Char.toLower := funext toLower_toLower
  rw [spelling, cut, bracketless, List.takeWhile_map, kept, List.map_map, twice]
  rfl

/-- **A type in any case has one canonical name**, and that name is found from
the type in lower case too. -/
@[simp] theorem canonical_lower (raw : String) : canonical (lower raw) = canonical raw := by
  refine canonical_congr ?_
  rw [lower, String.toList_ofList, spelling_map_toLower]

/-! ## Parameters -/

section Parameters

variable {p b r : List Char}

/-- **A separator among the parameters makes all that is in front of it a namespace**, and
without one the base is left, with the parameters. -/
theorem unqualified_of_parameters (namespaced : IsNamespace p) (hb : Simple b) (hr : Simple r)
    (q : List Char) :
    unqualified (p ++ b ++ '(' :: (q ++ ')' :: r)) =
      if HasSeparator q then unqualified (q ++ ')' :: r) else b ++ '(' :: (q ++ ')' :: r) := by
  have bracket : Simple [')'] := by decide
  have closing : Simple (')' :: r) := bracket.append hr
  rw [← List.cons_append, ← List.append_assoc, unqualified_append closing,
    unqualified_append_bracket, unqualified_append closing, unqualified_append hb,
    namespaced.unqualified_eq_nil]
  split
  case isTrue => rfl
  case isFalse => rw [List.nil_append, List.append_assoc]

/-- **What parameters do to the name of a type.** A separator in the parameters
is taken for that of a namespace, and then what is left of them, with the
bracket that closes them, is the name. -/
theorem spelling_of_parameters (namespaced : IsNamespace p) (hb : Simple b) (hr : Simple r)
    (unbracketed : '(' ∉ b) (q : List Char) :
    spelling (p ++ b ++ '(' :: (q ++ ')' :: r)) =
      if HasSeparator q then spelling (q ++ ')' :: r) else spelling b := by
  rw [spelling, unqualified_of_parameters namespaced hb hr]
  split
  case isTrue => rfl
  case isFalse =>
    rw [spelling, bracketless_append_bracket unbracketed, unqualified_of_simple hb,
      bracketless_eq_self unbracketed]

end Parameters

/-! ## The closing bracket -/

/-- A character that is no blank stands in a joined text just where it stands
in one of the words. It is used for the bracket, which tells a name that was
spoiled from every other. -/
theorem mem_intercalate_iff {c : Char} (h : c ≠ ' ') (ws : List String) :
    c ∈ (" ".intercalate ws).toList ↔ ∃ w ∈ ws, c ∈ w.toList := by
  induction ws with
  | nil => simp
  | cons w rest ih =>
    simp only [List.mem_cons, exists_eq_or_imp]
    by_cases last : rest = []
    · rw [last, String.intercalate_singleton]
      simp
    · have between : " ".toList = [' '] := rfl
      rw [toList_intercalate_cons last, List.mem_append, List.mem_append, ih, between,
        List.mem_singleton, or_iff_left h]

theorem mem_withoutUnsigned_iff {c : Char} (h : c ∉ "unsigned".toList) (ws : List String) :
    (∃ w ∈ withoutUnsigned ws, c ∈ w.toList) ↔ ∃ w ∈ ws, c ∈ w.toList := by
  unfold withoutUnsigned
  split
  case isFalse => rfl
  case isTrue ends =>
    obtain ⟨front, rfl⟩ := List.getLast?_eq_some_iff.1 ends.2
    rw [List.dropLast_concat]
    constructor
    · rintro ⟨w, hw, hc⟩
      exact ⟨w, List.mem_append_left _ hw, hc⟩
    · rintro ⟨w, hw, hc⟩
      rw [List.mem_append, List.mem_singleton] at hw
      rcases hw with hw | rfl
      · exact ⟨w, hw, hc⟩
      · exact absurd hc h

/-- A closing bracket that is not cut away gets into the name. -/
theorem bracket_mem_plain_iff :
    ')' ∈ (plain raw).toList ↔ ')' ∈ bracketless (unqualified raw.toList) := by
  have spelt : (∃ w ∈ (spelling raw.toList).map String.ofList, ')' ∈ w.toList) ↔
      ')' ∈ (spelling raw.toList).flatten := by
    simp only [List.mem_map, List.mem_flatten, exists_exists_and_eq_and, String.toList_ofList]
  have lowered : ∀ c : Char, c.toLower = ')' ↔ c = ')' := fun c => toLower_eq_iff (by decide)
  have solid : isBlank ')' = false := by decide
  rw [plain, mem_intercalate_iff (by decide), mem_withoutUnsigned_iff (by decide), words_base,
    spelt, spelling, flatten_wordChars, List.mem_filter, List.mem_map]
  simp only [lowered, exists_eq_right, solid, Bool.not_false, and_true]

/-- No known spelling and no canonical name has brackets. -/
theorem bracket_notMem_of_lookup? {key known : String} (h : lookup? key = some known) :
    ')' ∉ key.toList ∧ ')' ∉ known.toList := by
  have rows : ∀ row ∈ synonyms, ')' ∉ row.1.toList ∧ ')' ∉ row.2.toList := by decide +kernel
  obtain ⟨row, found, rfl⟩ := Option.map_eq_some_iff.1 h
  have same : row.1 = key := by simpa using List.find?_some found
  exact same ▸ rows row (List.mem_of_find?_eq_some found)

/-- **A name with a closing bracket is not known**, and so it stays as it is.
That is what becomes of parameters with a separator in them. -/
theorem bracket_mem_canonical_iff : ')' ∈ (canonical raw).toList ↔ ')' ∈ (plain raw).toList := by
  unfold canonical
  dsimp only
  cases whole : lookup? (plain raw) with
  | some known =>
    have absent := bracket_notMem_of_lookup? whole
    exact iff_of_false absent.2 absent.1
  | none =>
    cases ended : (withoutEnding? "type" (plain raw)).bind lookup? with
    | none =>
      dsimp only
      rw [Option.getD_none]
    | some known =>
      obtain ⟨stem, named, found⟩ := Option.bind_eq_some_iff.1 ended
      have absent := bracket_notMem_of_lookup? found
      refine iff_of_false absent.2 ?_
      rw [withoutEnding?_eq_some_iff.1 named, String.toList_append, List.mem_append, not_or]
      exact ⟨absent.1, by decide⟩

/-! ## Spellings of one type -/

/-- The text has none of the signs that a type is cut at. -/
abbrev IsBare (s : String) : Prop :=
  Consists (fun c => c ∉ ['\\', ':', '.', '(', ')']) s

theorem IsBare.simple {s : String} (bare : IsBare s) : Simple s.toList := by
  have among : ['\\', ':', '.'] ⊆ ['\\', ':', '.', '(', ')'] :=
    List.subset_append_left _ ['(', ')']
  exact fun c hc sign => bare c hc (among sign)

theorem IsBare.unbracketed {s : String} (bare : IsBare s) : '(' ∉ s.toList ∧ ')' ∉ s.toList :=
  ⟨fun opened => bare _ opened (by decide), fun closed => bare _ closed (by decide)⟩

/-- The words of a bare text are those of the name it spells. -/
theorem words_of_bare {s : String} (bare : IsBare s) : words (lower (base s)) = words (lower s) := by
  rw [words_base, spelling, unqualified_of_simple bare.simple,
    bracketless_eq_self bare.unbracketed.1, words, lower, String.toList_ofList]

variable {p b q r : String}

/-- A type with a namespace in front, parameters in brackets, and a suffix. -/
def qualified (p b q r : String) : String :=
  p ++ b ++ "(" ++ q ++ ")" ++ r

theorem toList_closed (q r : String) : (q ++ ")" ++ r).toList = q.toList ++ ')' :: r.toList := by
  rw [String.toList_append, String.toList_append, List.append_assoc]
  rfl

theorem toList_qualified (p b q r : String) :
    (qualified p b q r).toList =
      p.toList ++ b.toList ++ '(' :: (q.toList ++ ')' :: r.toList) := by
  have regrouped : qualified p b q r = p ++ b ++ ("(" ++ (q ++ ")" ++ r)) := by
    simp only [qualified, String.append_assoc]
  rw [regrouped, String.toList_append, String.toList_append, String.toList_append, toList_closed]
  rfl

/-- **What is left of a qualified type**: the base alone, or, with a separator among the
parameters, what follows the separator. -/
theorem canonical_qualified (namespaced : IsNamespace p.toList) (hb : IsBare b) (hr : IsBare r)
    (q : String) :
    canonical (qualified p b q r) =
      if HasSeparator q.toList then canonical (q ++ ")" ++ r) else canonical b := by
  have spelt := spelling_of_parameters namespaced hb.simple hr.simple hb.unbracketed.1 q.toList
  rw [← toList_qualified, ← toList_closed] at spelt
  split
  case isTrue separated => exact canonical_congr (spelt.trans (if_pos separated))
  case isFalse unseparated => exact canonical_congr (spelt.trans (if_neg unseparated))

/-- The bracket behind a cut separator tells the name from all bare ones. -/
theorem canonical_closed_ne (hb : IsBare b) (hr : IsBare r) (unopened : '(' ∉ q.toList) :
    canonical (q ++ ")" ++ r) ≠ canonical (b ++ r) := by
  have kept : ')' ∈ (canonical (q ++ ")" ++ r)).toList := by
    have bracket : Simple [')'] := by decide
    have closing : Simple (')' :: r.toList) := bracket.append hr.simple
    have absent : '(' ∉ unqualified q.toList ++ ')' :: r.toList := by
      rw [List.mem_append, List.mem_cons, not_or, not_or]
      exact ⟨fun opened => unopened ((unqualified_suffix _).subset opened), by decide,
        hr.unbracketed.1⟩
    rw [bracket_mem_canonical_iff, bracket_mem_plain_iff, toList_closed, unqualified_append closing,
      bracketless_eq_self absent]
    exact List.mem_append_right _ List.mem_cons_self
  have never : ')' ∉ (canonical (b ++ r)).toList := by
    rw [bracket_mem_canonical_iff, bracket_mem_plain_iff]
    have bare : IsBare (b ++ r) := hb.append hr
    exact fun closed => bare.unbracketed.2
      ((unqualified_suffix _).subset ((List.takeWhile_prefix _).subset closed))
  exact fun same => never (same ▸ kept)

/-! ## Suffixes -/

/-- **A suffix adds nothing to a base**: it is blank, or it is the word `unsigned` and the
base has words, of which it is not the last one already. -/
def AddsNothing (b r : String) : Prop :=
  words (lower r) = [] ∨
    words (lower r) = ["unsigned"] ∧ words (lower b) ≠ [] ∧
      (words (lower b)).getLast? ≠ some "unsigned"

theorem words_lower_append (s t : String) :
    words (lower (s ++ (" " ++ t))) = words (lower s) ++ words (lower (" " ++ t)) := by
  have blank : Blank [' '] := by decide
  have behind : wordChars (' ' :: t.toList.map Char.toLower) =
      wordChars (t.toList.map Char.toLower) := wordChars_blank_append blank
  have chars : (" " ++ t).toList = ' ' :: t.toList := by
    rw [String.toList_append]
    rfl
  have lowered : Char.toLower ' ' = ' ' := rfl
  rw [words, words, words, lower, lower, lower, String.toList_ofList, String.toList_ofList,
    String.toList_ofList, String.toList_append, chars, List.map_append, List.map_cons, lowered,
    wordChars_append_cons _ _ (blank ' ' List.mem_cons_self), behind, List.map_append]

theorem withoutUnsigned_of_ne {ws : List String} (h : ws.getLast? ≠ some "unsigned") :
    withoutUnsigned ws = ws :=
  if_neg fun ends => h ends.2

/-- `unsigned` at the end of a name of several words is dropped. -/
theorem withoutUnsigned_concat {ws : List String} (h : ws ≠ []) :
    withoutUnsigned (ws ++ ["unsigned"]) = ws := by
  have more : 0 < ws.length := List.length_pos_iff.2 h
  have ends : 1 < (ws ++ ["unsigned"]).length ∧
      (ws ++ ["unsigned"]).getLast? = some "unsigned" := by
    rw [List.length_append, List.length_singleton, List.getLast?_concat]
    exact ⟨Nat.succ_lt_succ more, rfl⟩
  exact (if_pos ends).trans List.dropLast_concat

/-- **What is added behind a name and adds nothing leaves the canonical name
alone**: blanks, or `unsigned` where it is dropped. -/
theorem canonical_append (hb : IsBare b) (hr : IsBare r) (apart : r = "" ∨ ∃ t, r = " " ++ t)
    (redundant : AddsNothing b r) : canonical (b ++ r) = canonical b := by
  have joined : words (lower (b ++ r)) = words (lower b) ++ words (lower r) := by
    rcases apart with rfl | ⟨t, rfl⟩
    · rw [String.append_empty]
      exact (List.append_nil _).symm
    · exact words_lower_append b t
  have same : plain (b ++ r) = plain b := by
    rw [plain, plain, words_of_bare (hb.append hr), words_of_bare hb, joined]
    rcases redundant with blank | ⟨unsigned, nonempty, other⟩
    · rw [blank, List.append_nil]
    · rw [unsigned, withoutUnsigned_concat nonempty, withoutUnsigned_of_ne other]
  unfold canonical
  rw [same]

/-! ## The whole -/

/-- **How far a type is recognised behind its qualification.** The namespace and the case
never matter. The parameters do not, if no separator of namespaces is among them, and a
suffix behind them goes with them, whatever it says; but a separator among them is taken
for the last of the namespace, and then the name is all that follows it, with the closing
bracket. So a qualified type has the canonical name of its base and suffix alone if and
only if no separator is among the parameters and the base has the same name without the
suffix, as it has if the suffix adds nothing. -/
theorem canonical_of_qualified {p b q r : String} (namespaced : IsNamespace p.toList)
    (hb : IsBare b) (hq : Consists (fun c => c ≠ '(' ∧ c ≠ ')') q) (hr : IsBare r)
    (apart : r = "" ∨ ∃ t, r = " " ++ t) :
    canonical (qualified p b q r) =
      (if HasSeparator q.toList then canonical (q ++ ")" ++ r) else canonical b) ∧
    (canonical (qualified p b q r) = canonical (b ++ r) ↔
      ¬ HasSeparator q.toList ∧ canonical b = canonical (b ++ r)) ∧
    (AddsNothing b r → canonical b = canonical (b ++ r)) ∧
    ∀ raw raw', lower raw = lower raw' → canonical raw = canonical raw' := by
  have left := canonical_qualified namespaced hb hr q
  refine ⟨left, ?_, fun redundant => (canonical_append hb hr apart redundant).symm,
    fun raw raw' same => ?_⟩
  · rw [left]
    split
    case isTrue separated =>
      exact iff_of_false (canonical_closed_ne hb hr fun opened => (hq _ opened).1 rfl)
        fun h => h.1 separated
    case isFalse unseparated => exact (and_iff_right unseparated).symm
  · rw [← canonical_lower raw, same, canonical_lower raw']

/-- A decimal and an unsigned integer are recognised. -/
theorem canonical_of_qualified_numbers :
    canonical (qualified "pg_catalog." "NUMERIC" "10,2" "") = canonical ("NUMERIC" ++ "") ∧
    canonical (qualified "Types\\" "BIGINT" "20" " UNSIGNED") =
      canonical ("BIGINT" ++ " UNSIGNED") ∧
    canonical "NUMERIC" = canonical "numeric" := by
  obtain ⟨-, numeric, silent, cased⟩ := @canonical_of_qualified "pg_catalog." "NUMERIC" "10,2" ""
    (by decide) (by decide) (by decide) (by decide) (.inl rfl)
  obtain ⟨-, bigint, unsigned, -⟩ := @canonical_of_qualified "Types\\" "BIGINT" "20" " UNSIGNED"
    (by decide) (by decide) (by decide) (by decide) (.inr ⟨"UNSIGNED", rfl⟩)
  exact ⟨numeric.2 ⟨by decide, silent (.inl (by decide +kernel))⟩,
    bigint.2 ⟨by decide, unsigned (.inr (by decide +kernel))⟩, cased _ _ (by decide +kernel)⟩

/-- A point among the parameters hides an enumeration, and a suffix behind them goes
unread. -/
theorem qualification_is_not_ignored :
    canonical (qualified "shop." "enum" "'v1.0','v2.0'" "") = "0')" ∧
    canonical ("enum" ++ "") = "enum" ∧
    canonical (qualified "pg_catalog." "timestamp" "6" " with time zone") = "timestamp" ∧
    canonical ("timestamp" ++ " with time zone") = "timestamptz" := by
  decide +kernel

end SchemaPlan.TypeName
