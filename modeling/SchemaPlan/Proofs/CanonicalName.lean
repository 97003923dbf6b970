import SchemaPlan.Proofs.TypeSpelling

/-!
# Canonical names are canonical

A name that was made canonical comes back: replay writes it into a live schema, and a
comparison hands it over as the type on the other side. Both times it is read like a name
from a database, so what the reading cuts away must not be found in its own result.

Most of it cannot be. No separator of namespaces is left behind the last one, and cutting at
one kind of them makes no other (`TypeName.not_hasSeparator_unqualified`); words that are joined
by single blanks are the same words again (`TypeName.spelling_intercalate`). The table of
synonyms gives words of small letters, each of which is a synonym of itself
(`TypeName.canonical_of_known`). What is left is the closing `unsigned`, which is taken off
once and not as often as it is there. So a name that ends in it twice, with a word in front,
changes when it is read again, and no other name does (`TypeName.canonical_canonical_eq_iff`).
-/

namespace SchemaPlan.TypeName

open Text

variable {cs xs ys w : List Char} {ws : List String} {raw known : String}

/-! ## What is left of a name -/

theorem HasSeparator.mono (h : HasSeparator xs) (part : xs <:+: ys) : HasSeparator ys :=
  h.imp (fun back => back.trans part)
    (Or.imp (fun colons => colons.trans part) fun point => point.trans part)

theorem unqualified_eq_self (h : ¬ HasSeparator cs) : unqualified cs = cs := by
  rw [HasSeparator, not_or, not_or] at h
  rw [unqualified, pastLast_of_absent (List.cons_ne_nil _ _) h.1,
    pastLast_of_absent (List.cons_ne_nil _ _) h.2.1, pastLast_of_absent (List.cons_ne_nil _ _) h.2.2]

/-- **No separator is left behind the cuts**: none makes another one. The cuts
are made for one separator after the other, so this has to be seen for the
first two. -/
theorem not_hasSeparator_unqualified (cs : List Char) : ¬ HasSeparator (unqualified cs) := by
  have colons := pastLast_suffix ['.'] (pastLast [':', ':'] (pastLast ['\\'] cs))
  have back := colons.trans (pastLast_suffix [':', ':'] (pastLast ['\\'] cs))
  rintro (found | found | found)
  · exact absent_pastLast (List.cons_ne_nil _ _) _ (found.trans back.isInfix)
  · exact absent_pastLast (List.cons_ne_nil _ _) _ (found.trans colons.isInfix)
  · exact absent_pastLast (List.cons_ne_nil _ _) _ found

/-- A word to which nothing happens when a name is read: it is neither cut nor
lowered, and it is not split. -/
structure IsPlainWord (w : List Char) : Prop where
  /-- The word has a character. -/
  nonempty : w ≠ []
  /-- No character is blank. -/
  solid : Solid w
  /-- There is no capital of ASCII. -/
  lowered : ∀ c ∈ w, c.toLower = c
  /-- Nothing in it is taken for a namespace. -/
  unseparated : ¬ HasSeparator w
  /-- No parameters begin in it. -/
  unbracketed : '(' ∉ w

/-- The words of a name are all like this. -/
theorem isPlainWord_of_mem_spelling (h : w ∈ spelling cs) : IsPlainWord w := by
  have cut : bracketless (unqualified (cs.map Char.toLower)) <:+: cs.map Char.toLower :=
    (List.takeWhile_prefix _).isInfix.trans (unqualified_suffix _).isInfix
  have small : ∀ c ∈ bracketless (unqualified (cs.map Char.toLower)), c.toLower = c := by
    intro c hc
    obtain ⟨d, -, rfl⟩ := List.mem_map.1 (cut.subset hc)
    exact toLower_toLower d
  rw [← spelling_map_toLower] at h
  have part : w <:+: bracketless (unqualified (cs.map Char.toLower)) := by
    have lowered := infix_of_mem_wordChars h
    rwa [List.map_congr_left small, List.map_id'] at lowered
  refine ⟨ne_nil_of_mem_wordChars h, solid_of_mem_wordChars h, fun c hc => small c (part.subset hc),
    fun found => ?_, fun opened => ?_⟩
  · exact not_hasSeparator_unqualified _ (found.mono (part.trans (List.takeWhile_prefix _).isInfix))
  · have kept := List.mem_takeWhile_imp (part.subset opened)
    cases kept

/-- **Such words, joined by single blanks, are read again.** -/
theorem spelling_intercalate {ws : List (List Char)} (h : ∀ w ∈ ws, IsPlainWord w) :
    spelling ([' '].intercalate ws) = ws := by
  have inside {c : Char} (hc : c ∈ [' '].intercalate ws) : c.toLower = c ∧ c ≠ '(' := by
    rcases of_mem_intercalate hc with rfl | ⟨w, hw, hc⟩
    · decide
    · exact ⟨(h w hw).lowered c hc, fun opened => (h w hw).unbracketed (opened ▸ hc)⟩
  have unseparated : ¬ HasSeparator ([' '].intercalate ws) := by
    rintro (found | found | found)
    · exact absent_intercalate (List.cons_ne_nil _ _) (by decide)
        (fun w hw here => (h w hw).unseparated (.inl here)) found
    · exact absent_intercalate (List.cons_ne_nil _ _) (by decide)
        (fun w hw here => (h w hw).unseparated (.inr (.inl here))) found
    · exact absent_intercalate (List.cons_ne_nil _ _) (by decide)
        (fun w hw here => (h w hw).unseparated (.inr (.inr here))) found
  have small : ([' '].intercalate ws).map Char.toLower = [' '].intercalate ws := by
    rw [List.map_congr_left fun c hc => (inside hc).1, List.map_id']
  rw [spelling, unqualified_eq_self unseparated,
    bracketless_eq_self fun opened => (inside opened).2 rfl, small]
  exact wordChars_intercalate (by decide) fun w hw => ⟨(h w hw).nonempty, (h w hw).solid⟩

/-! ## Words -/

/-- The words of a type in lower case, without its namespaces and its parameters. -/
def nameWords (raw : String) : List String :=
  words (lower (base raw))

/-- **The word `unsigned` is stacked**: there are three words or more, and the last two are
`unsigned`. -/
def StacksUnsigned (ws : List String) : Prop :=
  3 ≤ ws.length ∧ ["unsigned", "unsigned"] <:+ ws

instance (ws : List String) : Decidable (StacksUnsigned ws) :=
  inferInstanceAs (Decidable (_ ∧ _))

theorem stacksUnsigned_concat_iff :
    StacksUnsigned (ws ++ ["unsigned"]) ↔ 1 < ws.length ∧ ws.getLast? = some "unsigned" := by
  have stacked : ["unsigned", "unsigned"] <:+ ws ++ ["unsigned"] ↔ ["unsigned"] <:+ ws :=
    @List.suffix_append_self_iff _ ["unsigned"] ws ["unsigned"]
  rw [StacksUnsigned, stacked, List.singleton_suffix_iff_getLast?_eq_some, List.length_append,
    List.length_singleton]
  exact and_congr_left fun _ => Nat.succ_lt_succ_iff

theorem withoutUnsigned_eq_self_iff :
    withoutUnsigned ws = ws ↔ ¬ (1 < ws.length ∧ ws.getLast? = some "unsigned") := by
  refine ⟨fun same ends => ?_, fun h => if_neg h⟩
  have shorter := congrArg List.length (((if_pos ends).symm.trans same : ws.dropLast = ws))
  rw [List.length_dropLast] at shorter
  omega

/-- **One closing `unsigned` is taken off at a time**, so another one has to be stacked for
the second time to do anything. -/
theorem withoutUnsigned_withoutUnsigned_iff :
    withoutUnsigned (withoutUnsigned ws) = withoutUnsigned ws ↔ ¬ StacksUnsigned ws := by
  by_cases ends : 1 < ws.length ∧ ws.getLast? = some "unsigned"
  · obtain ⟨front, rfl⟩ := List.getLast?_eq_some_iff.1 ends.2
    have nonempty : front ≠ [] := by
      rintro rfl
      exact absurd ends.1 (Nat.lt_irrefl 1)
    rw [withoutUnsigned_concat nonempty, withoutUnsigned_eq_self_iff, stacksUnsigned_concat_iff]
  · rw [withoutUnsigned_eq_self_iff.2 ends]
    refine iff_of_true (withoutUnsigned_eq_self_iff.2 ends) fun stacked => ends ?_
    -- where two of them are stacked, one can be taken off
    have last : ["unsigned"] <:+ ws := .trans ⟨["unsigned"], rfl⟩ stacked.2
    exact ⟨Nat.lt_of_lt_of_le (by decide) stacked.1,
      List.singleton_suffix_iff_getLast?_eq_some.1 last⟩

/-- A text of letters is one word. -/
theorem nameWords_of_letters (nonempty : raw ≠ "") (letters : Consists (fun c => c.isAlpha = true) raw) :
    nameWords raw = [lower raw] := by
  have bare : IsBare raw := by
    refine letters.imp fun c letter sign => ?_
    simp only [List.mem_cons, List.not_mem_nil, or_false] at sign
    rcases sign with rfl | rfl | rfl | rfl | rfl <;> exact absurd letter (by decide)
  have solid : Solid (raw.toList.map Char.toLower) := by
    intro c hc
    obtain ⟨d, hd, rfl⟩ := List.mem_map.1 hc
    simp [isBlank_of_isAlpha (letters d hd)]
  have longer : raw.toList.map Char.toLower ≠ [] := by simpa using nonempty
  rw [nameWords, words_of_bare bare, words, lower, String.toList_ofList,
    wordChars_of_solid solid longer]
  rfl

theorem mem_of_mem_withoutUnsigned {word : String} (h : word ∈ withoutUnsigned ws) : word ∈ ws := by
  unfold withoutUnsigned at h
  split at h
  · exact List.mem_of_mem_dropLast h
  · exact h

theorem isPlainWord_of_mem_nameWords {word : String} (h : word ∈ nameWords raw) :
    IsPlainWord word.toList := by
  rw [nameWords, words_base] at h
  obtain ⟨w, hw, rfl⟩ := List.mem_map.1 h
  rw [String.toList_ofList]
  exact isPlainWord_of_mem_spelling hw

/-- The characters of a plain name: its words, one blank apart. -/
theorem toList_plain (raw : String) :
    (plain raw).toList = [' '].intercalate ((withoutUnsigned (nameWords raw)).map String.toList) := by
  rw [plain, String.toList_intercalate]
  rfl

theorem forall_isPlainWord (raw : String) :
    ∀ w ∈ (withoutUnsigned (nameWords raw)).map String.toList, IsPlainWord w := by
  intro w hw
  obtain ⟨word, member, rfl⟩ := List.mem_map.1 hw
  exact isPlainWord_of_mem_nameWords (mem_of_mem_withoutUnsigned member)

/-- **A plain name is read as the words that it was made of.** A second reading
so changes nothing but a closing `unsigned`, if there is still one. -/
@[simp] theorem nameWords_plain (raw : String) :
    nameWords (plain raw) = withoutUnsigned (nameWords raw) := by
  rw [nameWords, words_base, toList_plain, spelling_intercalate (forall_isPlainWord raw)]
  simp

@[simp] theorem words_plain (raw : String) :
    words (plain raw) = withoutUnsigned (nameWords raw) := by
  rw [words, toList_plain, wordChars_intercalate (by decide) fun w hw =>
    ⟨(forall_isPlainWord raw w hw).nonempty, (forall_isPlainWord raw w hw).solid⟩]
  simp

/-- A plain name is plain, unless `unsigned` was stacked in it: only one of
several at the end is taken away by each reading. -/
theorem plain_plain_eq_iff : plain (plain raw) = plain raw ↔ ¬ StacksUnsigned (nameWords raw) := by
  rw [← withoutUnsigned_withoutUnsigned_iff, ← nameWords_plain, ← nameWords_plain (plain raw)]
  constructor
  · intro same
    rw [same]
  · intro same
    have again : plain (plain raw) = " ".intercalate (nameWords (plain (plain raw))) := by
      rw [nameWords_plain]; rfl
    rw [again, same, nameWords_plain]
    rfl

/-! ## Known names -/

/-- The names that are given to known spellings. Each is a spelling of itself.
-/
def knownNames : List String :=
  synonyms.map Prod.snd

/-- A word of small letters is the plain name of itself. -/
theorem plain_of_isLower {word : String} (nonempty : word ≠ "")
    (letters : Consists (fun c => c.isLower = true) word) : plain word = word := by
  have small : lower word = word := by
    rw [lower, List.map_congr_left fun c hc => toLower_of_isLower (letters c hc), List.map_id',
      String.ofList_toList]
  rw [plain, ← nameWords, nameWords_of_letters nonempty (letters.imp fun c => isAlpha_of_isLower),
    small]
  exact String.intercalate_singleton

/-- Known names are words of small letters and stand for themselves. The table
is checked here, once and for all rows. -/
theorem rows_of_known : ∀ row ∈ synonyms, row.2 ≠ "" ∧
    Consists (fun c => c.isLower = true) row.2 ∧ lookup? row.2 = some row.2 := by
  decide +kernel

/-- No known spelling ends in `unsigned`, so taking that word away never makes
a known name unknown. -/
theorem rows_of_unsigned : ∀ row ∈ synonyms, hasEnding "unsigned" row.1 = false ∧
    hasEnding "unsigned" (row.1 ++ "type") = false := by
  decide +kernel

theorem canonical_eq (raw : String) : canonical raw =
    ((lookup? (plain raw)).or ((withoutEnding? "type" (plain raw)).bind lookup?)).getD (plain raw) := by
  unfold canonical
  dsimp only
  generalize plain raw = name
  cases lookup? name <;> rfl

/-- The canonical name is decided by the plain one. -/
theorem canonical_of_plain {raw' : String} (h : plain raw = plain raw') :
    canonical raw = canonical raw' := by
  rw [canonical_eq, h, canonical_eq]

/-- **A known name is its own canonical name**, which is why looking a name up
twice does nothing. -/
theorem canonical_of_known (h : known ∈ knownNames) : plain known = known ∧ canonical known = known := by
  obtain ⟨row, hr, rfl⟩ := List.mem_map.1 h
  obtain ⟨nonempty, letters, found⟩ := rows_of_known row hr
  have same := plain_of_isLower nonempty letters
  refine ⟨same, ?_⟩
  rw [canonical_eq, same, found]
  rfl

/-- **A name is known by its plain spelling, or it is the plain name.** The
statements on repeated names are proved along these two cases. -/
theorem mem_knownNames_or_eq_plain (raw : String) :
    (canonical raw ∈ knownNames ∧ hasEnding "unsigned" (plain raw) = false) ∨
      canonical raw = plain raw := by
  have row {key known : String} (h : lookup? key = some known) :
      known ∈ knownNames ∧ hasEnding "unsigned" key = false ∧
        hasEnding "unsigned" (key ++ "type") = false := by
    obtain ⟨row, found, rfl⟩ := Option.map_eq_some_iff.1 h
    have same : row.1 = key := by simpa using List.find?_some found
    have hr := List.mem_of_find?_eq_some found
    exact ⟨List.mem_map_of_mem hr, same ▸ rows_of_unsigned row hr⟩
  rw [canonical_eq]
  cases found : (lookup? (plain raw)).or ((withoutEnding? "type" (plain raw)).bind lookup?) with
  | none => exact .inr (Option.getD_none)
  | some known =>
    rw [Option.getD_some]
    rcases Option.or_eq_some_iff.1 found with whole | ⟨-, ended⟩
    · exact .inl ⟨(row whole).1, (row whole).2.1⟩
    · obtain ⟨stem, named, listed⟩ := Option.bind_eq_some_iff.1 ended
      rw [withoutEnding?_eq_some_iff.1 named]
      exact .inl ⟨(row listed).1, (row listed).2.2⟩

/-- **Where `unsigned` is stacked, one of them is left in the name**, which is not known then. -/
theorem of_stacksUnsigned (h : StacksUnsigned (nameWords raw)) :
    canonical raw = plain raw ∧ 1 < (words (plain raw)).length := by
  obtain ⟨longer, front, whole⟩ := h
  have nonempty : front ≠ [] := by
    rintro rfl
    rw [← whole] at longer
    exact absurd longer (by decide)
  have left : withoutUnsigned (nameWords raw) = front ++ ["unsigned"] := by
    have taken := @withoutUnsigned_concat (front ++ ["unsigned"]) (by simp)
    rwa [List.append_assoc, List.singleton_append, whole] at taken
  have ends : hasEnding "unsigned" (plain raw) = true := by
    rw [plain, ← nameWords, left, String.intercalate_append_of_ne_nil nonempty (List.cons_ne_nil _ _),
      String.intercalate_singleton, hasEnding, String.toList_append]
    exact List.isSuffixOf_iff_suffix.2 (List.suffix_append _ _)
  refine ⟨(mem_knownNames_or_eq_plain raw).resolve_left fun known => ?_, ?_⟩
  · rw [known.2] at ends
    cases ends
  · rw [words_plain, left, List.length_append]
    exact Nat.lt_add_of_pos_left (List.length_pos_iff.2 nonempty)

/-- A name that canonicalisation leaves as it is is a plain one. -/
theorem plain_of_canonical_eq_self (h : canonical raw = raw) : plain raw = raw := by
  rcases mem_knownNames_or_eq_plain raw with ⟨known, -⟩ | same
  · rw [h] at known
    exact (canonical_of_known known).1
  · rw [← same, h]

theorem canonical_canonical_of_unstacked (single : ¬ StacksUnsigned (nameWords raw)) :
    canonical (canonical raw) = canonical raw := by
  rcases mem_knownNames_or_eq_plain raw with ⟨known, -⟩ | same
  · exact (canonical_of_known known).2
  · rw [same, canonical_of_plain (plain_plain_eq_iff.2 single), same]

/-- **A canonical name is its own canonical name, unless `unsigned` is stacked.** The name
of a type is the same when it is taken once more, except where the words of the type, without
its namespaces and its parameters, are three or more and the last two are `unsigned`: they
are taken off one at a time. So a known name stays what it is, and so does a name of one
word or none. -/
theorem canonical_canonical_eq_iff (raw : String) :
    (canonical (canonical raw) = canonical raw ↔ ¬ StacksUnsigned (nameWords raw)) ∧
    (canonical raw ∈ knownNames ∨ (words (canonical raw)).length ≤ 1 →
      canonical (canonical raw) = canonical raw) := by
  have again : canonical (canonical raw) = canonical raw ↔ ¬ StacksUnsigned (nameWords raw) := by
    refine ⟨fun fixed stacked => ?_, canonical_canonical_of_unstacked⟩
    rw [(of_stacksUnsigned stacked).1] at fixed
    exact plain_plain_eq_iff.1 (plain_of_canonical_eq_self fixed) stacked
  refine ⟨again, ?_⟩
  rintro (known | short)
  · exact (canonical_of_known known).2
  · refine again.2 fun stacked => ?_
    obtain ⟨same, longer⟩ := of_stacksUnsigned stacked
    rw [same] at short
    omega

/-- An unsigned integer and a type that nobody knows have names that stay; with `unsigned`
said twice the name loses one of them each time. -/
theorem canonical_canonical_eq_iff_unsigned :
    canonical (canonical "Types\\BIGINT(20) UNSIGNED") = canonical "Types\\BIGINT(20) UNSIGNED" ∧
    canonical (canonical "app::MONEY") = canonical "app::MONEY" ∧
    canonical (canonical "Int Unsigned Unsigned") ≠ canonical "Int Unsigned Unsigned" := by
  obtain ⟨-, bigint⟩ := canonical_canonical_eq_iff "Types\\BIGINT(20) UNSIGNED"
  obtain ⟨money, -⟩ := canonical_canonical_eq_iff "app::MONEY"
  obtain ⟨stacked, -⟩ := canonical_canonical_eq_iff "Int Unsigned Unsigned"
  refine ⟨bigint (.inl (by decide +kernel)), money.2 (by decide +kernel), fun same => ?_⟩
  exact stacked.1 same (by decide +kernel)

end SchemaPlan.TypeName
