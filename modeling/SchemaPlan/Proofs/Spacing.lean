import SchemaPlan.Proofs.Sequences
import SchemaPlan.Proofs.Grammar
import SchemaPlan.Proofs.Run

/-!
# White space around separators

A declaration is cut at its commas and then at its colons, and what is between is trimmed.
So blanks around a separator go away with the trimming, wherever the cut is made
(`Text.Padded.splitOn`), and a token says the same as before if it is taken for the same
sort of token (`TableDecl.Respaced`).

There is one sort of token that is told before it is cut: an index is told by its
characters, and blanks are not among them. A blank at the colon of an index makes the token
one for a column with the name of the keyword, and so the reading of a declaration survives
blanks around its separators just if all indexes survive them
(`TableDecl.spacing_of_declarations`). Blanks around commas do no harm at all.
-/

namespace SchemaPlan

/-! ## Texts with blanks put in -/

namespace Text

variable {separators : List Char} {c : Char} {s t : List Char}

/-- `Spaced separators s t`: the text `t` is `s` with blanks put in before and after some of
its separators, and at its end. -/
inductive Spaced (separators : List Char) : List Char → List Char → Prop where
  | done {back : List Char} (blank : Blank back) : Spaced separators [] back
  | keep (c : Char) {s t : List Char} (later : Spaced separators s t) :
      Spaced separators (c :: s) (c :: t)
  | around {c : Char} (separates : c ∈ separators) {before after s t : List Char}
      (ahead : Blank before) (behind : Blank after) (later : Spaced separators s t) :
      Spaced separators (c :: s) (before ++ c :: (after ++ t))

/-- Blanks may have been put in at the beginning as well. -/
def Padded (separators s t : List Char) : Prop :=
  ∃ front rest, Blank front ∧ Spaced separators s rest ∧ t = front ++ rest

@[simp] theorem blank_nil : Blank [] := List.forall_mem_nil _

namespace Spaced

theorem keepAll (word : List Char) (h : Spaced separators s t) :
    Spaced separators (word ++ s) (word ++ t) := by
  induction word with
  | nil => exact h
  | cons c word ih => exact ih.keep c

theorem refl (s : List Char) : Spaced separators s s := by
  simpa using keepAll s (.done blank_nil)

/-- Nothing is taken away. -/
theorem sublist (h : Spaced separators s t) : s.Sublist t := by
  induction h with
  | done => exact List.nil_sublist _
  | keep c _ ih => exact ih.cons_cons c
  | around _ _ _ _ ih =>
    exact ((ih.trans (List.sublist_append_right _ _)).cons_cons _).trans
      (List.sublist_append_right _ _)

/-- Nothing but blanks is put in. -/
theorem filter_eq (h : Spaced separators s t) :
    (t.filter fun c => !isBlank c) = s.filter fun c => !isBlank c := by
  induction h with
  | done blank => exact blank.filter_eq_nil
  | keep c _ ih => rw [List.filter_cons, List.filter_cons, ih]
  | around _ ahead behind _ ih =>
    rw [List.filter_append, ahead.filter_eq_nil, List.nil_append, List.filter_cons,
      List.filter_cons, List.filter_append, behind.filter_eq_nil, List.nil_append, ih]

/-- Without a separator blanks are put in at the end only, since inside a text
they would need one to stand next to. -/
theorem exists_back (h : Spaced separators s t) (free : ∀ c ∈ separators, c ∉ s) :
    ∃ back, Blank back ∧ t = s ++ back := by
  induction h with
  | done blank => exact ⟨_, blank, rfl⟩
  | keep c _ ih =>
    obtain ⟨back, blank, rfl⟩ := ih fun d hd later => free d hd (List.mem_cons_of_mem c later)
    exact ⟨back, blank, rfl⟩
  | around separates => exact absurd List.mem_cons_self (free _ separates)

end Spaced

theorem padded_append (separators : List Char) {front back : List Char} (ahead : Blank front)
    (behind : Blank back) (s : List Char) : Padded separators s (front ++ s ++ back) :=
  ⟨front, s ++ back, ahead, by simpa using Spaced.keepAll s (.done behind), List.append_assoc ..⟩

/-- What is put in front of a text without the separator is put in front of its first piece. -/
theorem splitOn_append_of_notMem {word p : List Char} {ps : List (List Char)} (h : c ∉ word)
    (split : s.splitOn c = p :: ps) : (word ++ s).splitOn c = (word ++ p) :: ps := by
  induction word with
  | nil => exact split
  | cons d word ih =>
    rw [List.mem_cons, not_or] at h
    rw [List.cons_append, List.splitOn_cons_eq_if_modifyHead,
      if_neg (by simpa using Ne.symm h.1), ih h.2]
    rfl

/-- **The pieces of a text are padded** where the text is. The first piece may
have blanks at its end only, and the others at both ends, which is why it is
set apart. -/
theorem Spaced.splitOn (h : Spaced separators s t) (solid : isBlank c = false) :
    ∃ p ps q qs, s.splitOn c = p :: ps ∧ t.splitOn c = q :: qs ∧ Spaced separators p q ∧
      List.Forall₂ (Padded separators) ps qs := by
  induction h with
  | done blank =>
    exact ⟨[], [], _, [], rfl, List.splitOn_eq_singleton (blank.notMem solid), .done blank, .nil⟩
  | @keep d s t _ ih =>
    obtain ⟨p, ps, q, qs, hs, ht, head, tail⟩ := ih
    by_cases cut : d = c
    · subst cut
      refine ⟨[], p :: ps, [], q :: qs, ?_, ?_, .done blank_nil,
        .cons ⟨[], q, blank_nil, head, rfl⟩ tail⟩
      · rw [← hs]
        exact List.splitOn_append_cons_self_of_not_mem List.not_mem_nil s
      · rw [← ht]
        exact List.splitOn_append_cons_self_of_not_mem List.not_mem_nil t
    · have other : c ∉ [d] := fun mem => cut (List.mem_singleton.1 mem).symm
      exact ⟨_, ps, _, qs, splitOn_append_of_notMem other hs, splitOn_append_of_notMem other ht,
        head.keep d, tail⟩
  | @around d separates before after s t ahead behind _ ih =>
    obtain ⟨p, ps, q, qs, hs, ht, head, tail⟩ := ih
    have split : (after ++ t).splitOn c = (after ++ q) :: qs :=
      splitOn_append_of_notMem (behind.notMem solid) ht
    by_cases cut : d = c
    · subst cut
      refine ⟨[], p :: ps, before, (after ++ q) :: qs, ?_, ?_, .done ahead,
        .cons ⟨after, q, behind, head, rfl⟩ tail⟩
      · rw [← hs]
        exact List.splitOn_append_cons_self_of_not_mem List.not_mem_nil s
      · rw [← split]
        exact List.splitOn_append_cons_self_of_not_mem (ahead.notMem solid) _
    · have other : c ∉ [d] := fun mem => cut (List.mem_singleton.1 mem).symm
      refine ⟨_, ps, _, qs, splitOn_append_of_notMem other hs, ?_,
        .around separates ahead behind head, tail⟩
      exact splitOn_append_of_notMem (ahead.notMem solid) (splitOn_append_of_notMem other split)

namespace Padded

theorem splitOn (h : Padded separators s t) (solid : isBlank c = false) :
    List.Forall₂ (Padded separators) (s.splitOn c) (t.splitOn c) := by
  obtain ⟨front, rest, blank, spaced, rfl⟩ := h
  obtain ⟨p, ps, q, qs, hs, ht, head, tail⟩ := spaced.splitOn solid
  rw [hs, splitOn_append_of_notMem (blank.notMem solid) ht]
  exact .cons ⟨front, q, blank, head, rfl⟩ tail

/-- A text without a separator is the same as before when it is trimmed, and
tokens and segments are always trimmed. -/
theorem trimChars_eq (h : Padded separators s t) (free : ∀ c ∈ separators, c ∉ s) :
    trimChars t = trimChars s := by
  obtain ⟨front, rest, ahead, spaced, rfl⟩ := h
  obtain ⟨back, behind, rfl⟩ := spaced.exists_back free
  rw [trimChars_blank_append ahead, trimChars_append_blank behind]

theorem filter_eq (h : Padded separators s t) :
    (t.filter fun c => !isBlank c) = s.filter fun c => !isBlank c := by
  obtain ⟨front, rest, ahead, spaced, rfl⟩ := h
  rw [List.filter_append, ahead.filter_eq_nil, List.nil_append, spaced.filter_eq]

theorem sublist (h : Padded separators s t) : s.Sublist t := by
  obtain ⟨front, rest, -, spaced, rfl⟩ := h
  exact spaced.sublist.trans (List.sublist_append_right _ _)

/-- If a padded text has no blanks inside, then none have been put in there. An
index is such a text: where it is still one, it is the same one. -/
theorem eq_of_solid (h : Padded separators s t) (solid : Solid (trimChars t)) :
    trimChars t = trimChars s := by
  obtain ⟨before, after, whole, front, back⟩ := exists_trimChars t
  have inside := h.sublist
  rw [whole, List.append_assoc] at inside
  obtain ⟨first, later, rfl, hf, hl⟩ := List.sublist_append_iff.1 inside
  obtain ⟨middle, last, rfl, hm, hb⟩ := List.sublist_append_iff.1 hl
  have ahead : Blank first := fun c hc => front c (hf.subset hc)
  have behind : Blank last := fun c hc => back c (hb.subset hc)
  have plain : Solid middle := fun c hc => solid c (hm.subset hc)
  have same : trimChars t = middle := by
    have kept := h.filter_eq
    rw [whole] at kept
    simpa only [List.filter_append, front.filter_eq_nil, back.filter_eq_nil, ahead.filter_eq_nil,
      behind.filter_eq_nil, solid.filter_eq_self, plain.filter_eq_self, List.nil_append,
      List.append_nil] using kept
  rw [trimChars_blank_append ahead, trimChars_append_blank behind, trimChars_of_solid plain, same]

end Padded

theorem forall₂_pieces {a b : String} (h : Padded separators a.toList b.toList)
    (solid : isBlank c = false) :
    List.Forall₂ (fun p q => Padded separators p.toList q.toList) (pieces c a) (pieces c b) :=
  List.rel_map (fun p q hpq => by rwa [String.toList_ofList, String.toList_ofList])
    (h.splitOn solid)

theorem padded_trim (separators : List Char) (a : String) :
    Padded separators (trim a).toList a.toList := by
  obtain ⟨before, after, whole, front, back⟩ := exists_trimChars a.toList
  have padded := padded_append separators front back (trimChars a.toList)
  rw [← whole] at padded
  rwa [trim, String.toList_ofList]

end Text

/-! ## Tokens with blanks put in -/

namespace TableDecl

variable {separators : List Char} {token token' text text' : String} {decl : TableDecl}

/-- **Blanks around colons go away with the trimming of segments**, so a token
of a column says the same with them. -/
theorem segments_eq_of_padded (h : Text.Padded separators token.toList token'.toList)
    (free : ∀ c ∈ separators, c ≠ ':' → c ∉ token.toList) : segments token' = segments token := by
  have pieces : ∀ p ∈ Text.pieces ':' token, ∀ c ∈ separators, c ∉ p.toList := by
    intro p hp c hc inside
    obtain ⟨mem, other⟩ := Text.of_mem_pieces hp inside
    exact free c hc other mem
  refine map_eq_of_forall₂ ((List.forall₂_and_left _ _).2
    ⟨pieces, Text.forall₂_pieces h (by decide)⟩) fun p q hpq => ?_
  rw [Text.trim, Text.trim, hpq.2.trimChars_eq hpq.1]

@[simp] theorem segments_trim (token : String) : segments (Text.trim token) = segments token :=
  (segments_eq_of_padded (Text.padded_trim [] token) nofun).symm

theorem segments_append {before : String} (whole : ':' ∉ before.toList) (after : String) :
    segments (before ++ ":" ++ after) = Text.trim before :: segments after := by
  have cut : Text.pieces ':' (before ++ ":" ++ after) = before :: Text.pieces ':' after :=
    (Text.pieces_append ':' before after).trans
      (by rw [Text.pieces_eq_singleton whole]; rfl)
  rw [segments, cut]
  rfl

theorem segments_eq_singleton_iff {segment : String} :
    segments token = [segment] ↔ ':' ∉ token.toList ∧ Text.trim token = segment := by
  cases Text.not_mem_or_exists_cut ':' token with
  | inl whole =>
    rw [segments, Text.pieces_eq_singleton whole]
    simp [whole]
  | inr cut =>
    obtain ⟨before, after, rfl, whole⟩ := cut
    have split := segments_append whole after
    refine iff_of_false (fun same => ?_) fun none => ?_
    · exact segments_ne_nil after (List.cons.inj (split.symm.trans same)).2
    · exact none.1 (by simp)

theorem trim_eq_empty_iff_segments : Text.trim token = "" ↔ segments token = [""] := by
  rw [segments_eq_singleton_iff]
  refine ⟨fun empty => ⟨fun mem => ?_, empty⟩, And.right⟩
  exact absurd (Text.trim_eq_empty_iff.1 empty ':' mem) (by decide)

/-- **Two tokens with the same segments**, both of them trimmed. What a token
declares is decided by its segments, except that an index is not read by
segments. -/
structure Respaced (token token' : String) : Prop where
  /-- The segments are the same. -/
  segments_eq : segments token' = segments token
  /-- The one is trimmed. -/
  trimmed : Text.trim token = token
  /-- The other is trimmed. -/
  trimmed' : Text.trim token' = token'

namespace Respaced

theorem symm (h : Respaced token token') : Respaced token' token :=
  ⟨h.segments_eq.symm, h.trimmed', h.trimmed⟩

/-- There is but one token with one segment. -/
theorem eq_of_notMem (h : Respaced token token') (whole : ':' ∉ token.toList) : token' = token := by
  have one := segments_eq_singleton_iff.2 ⟨whole, h.trimmed⟩
  exact h.trimmed'.symm.trans (segments_eq_singleton_iff.1 (h.segments_eq.trans one)).2

theorem isEmpty_eq (h : Respaced token token') : token'.isEmpty = token.isEmpty := by
  rw [Bool.eq_iff_iff, String.isEmpty_iff, String.isEmpty_iff]
  constructor
  · rintro rfl
    exact h.symm.eq_of_notMem (by decide)
  · rintro rfl
    exact h.eq_of_notMem (by decide)

theorem eq_of_isFlag (h : Respaced token token') (flag : isFlag token = true) : token' = token := by
  refine h.eq_of_notMem ?_
  rcases isFlag_iff.1 flag with rfl | rfl <;> decide

theorem isFlag_eq (h : Respaced token token') : isFlag token' = isFlag token := by
  rw [Bool.eq_iff_iff]
  constructor
  · intro flag
    rwa [h.symm.eq_of_isFlag flag]
  · intro flag
    rwa [h.eq_of_isFlag flag]

theorem readColumn_eq (h : Respaced token token') (column : IsColumnToken token) :
    readColumn token' = readColumn token := by
  obtain ⟨c, declares⟩ := exists_declaresColumn_iff.2 column
  have declares' : DeclaresColumn token' c := by
    obtain ⟨cut, named, denoted⟩ := declares
    exact .intro (h.segments_eq.trans cut) named denoted
  rw [readColumn_of_declaresColumn declares, readColumn_of_declaresColumn declares']

/-- An entry of a body says what it said before, if it is a flag or declares a
column. Of a token that is wrong the fault may well change, since it quotes the
token. -/
theorem readEntry_eq (h : Respaced token token') (sound : isFlag token = false → IsColumnToken token) :
    readEntry token' = readEntry token := by
  cases flag : isFlag token with
  | true => rw [h.eq_of_isFlag flag]
  | false =>
    rw [readEntry_of_isFlag_eq_false flag, readEntry_of_isFlag_eq_false (h.isFlag_eq.trans flag),
      h.readColumn_eq (sound flag)]

/-- The first colon is between the same texts, but for their blanks. -/
theorem exists_cut {before after : String} (h : Respaced (before ++ ":" ++ after) token')
    (whole : ':' ∉ before.toList) :
    ∃ before' after', token' = before' ++ ":" ++ after' ∧ ':' ∉ before'.toList ∧
      Text.trim before' = Text.trim before ∧ segments after' = segments after := by
  cases Text.not_mem_or_exists_cut ':' token' with
  | inl none =>
    have same := h.symm.eq_of_notMem none
    exact absurd (by rw [← same]; simp) none
  | inr cut =>
    obtain ⟨before', after', rfl, whole'⟩ := cut
    have same := h.segments_eq
    rw [segments_append whole, show segments (before' ++ String.singleton ':' ++ after') = _ from
      segments_append whole' after'] at same
    obtain ⟨first, later⟩ := List.cons.inj same
    exact ⟨before', after', rfl, whole', first, later⟩

/-- The token that begins with the name of the table says what it said before:
the same name, and the same entry behind it but for blanks. -/
theorem begins {name : String} {entries : List String} (h : Respaced token token')
    (begins : Begins token name entries) :
    ∃ entries', Begins token' name entries' ∧ List.Forall₂ Respaced entries entries' := by
  cases begins with
  | bare whole =>
    have same := h.eq_of_notMem whole
    subst same
    exact ⟨[], .bare whole, .nil⟩
  | alone whole blank =>
    obtain ⟨before', after', rfl, whole', named, later⟩ := h.exists_cut whole
    rw [trim_eq_empty_iff_segments, ← later, ← trim_eq_empty_iff_segments] at blank
    exact ⟨[], named ▸ .alone whole' blank, .nil⟩
  | entry whole more =>
    obtain ⟨before', after', rfl, whole', named, later⟩ := h.exists_cut whole
    rw [Ne, trim_eq_empty_iff_segments, ← later, ← trim_eq_empty_iff_segments] at more
    refine ⟨[Text.trim after'], named ▸ .entry whole' more, .cons ⟨?_, ?_, ?_⟩ .nil⟩
    · simp [later]
    · exact Text.trim_trim _
    · exact Text.trim_trim _

end Respaced

/-! ## Declarations with blanks put in -/

/-- The tokens of a padded text are those of the text with blanks put in at their colons; one
without blanks is as it was. -/
theorem forall₂_tokens (h : Text.Padded separators text.toList text'.toList)
    (colons : separators ⊆ [',', ':']) :
    List.Forall₂ (fun token token' => Respaced token token' ∧
      (Text.Solid token'.toList → token' = token)) (tokens text) (tokens text') := by
  have free : ∀ p ∈ Text.pieces ',' text, ∀ c ∈ separators, c ≠ ':' → c ∉ p.toList := by
    intro p hp c hc other inside
    have comma : c = ',' := by simpa [other] using colons hc
    exact (Text.of_mem_pieces hp inside).2 comma
  have pieces := (List.forall₂_and_left _ _).2 ⟨free, Text.forall₂_pieces h (c := ',') (by decide)⟩
  have trimmed : List.Forall₂ (fun token token' => Respaced token token' ∧
      (Text.Solid token'.toList → token' = token))
      ((Text.pieces ',' text).map Text.trim) ((Text.pieces ',' text').map Text.trim) := by
    refine List.rel_map (fun p q hpq => ?_) pieces
    refine ⟨⟨?_, Text.trim_trim p, Text.trim_trim q⟩, fun solid => ?_⟩
    · simp [segments_eq_of_padded hpq.2 hpq.1]
    · rw [Text.trim, String.toList_ofList] at solid
      rw [Text.trim, Text.trim, hpq.2.eq_of_solid solid]
  exact forall₂_filter trimmed fun token token' related => congrArg not related.1.isEmpty_eq

/-- An index is written without blanks, and this is where spacing matters: with
a blank at its colon it is the declaration of a column. -/
theorem solid_of_isIndexToken (h : IsIndexToken token) : Text.Solid token.toList := by
  obtain ⟨index, declares⟩ := h
  obtain ⟨kind, nonempty, chars⟩ := declares
  have keyword : Text.Solid kind.keyword.toList := by cases kind <;> decide
  intro c hc
  rw [String.toList_append, String.toList_append, List.mem_append, List.mem_append] at hc
  rcases hc with (front | colon) | column
  · exact keyword c front
  · rw [show c = ':' from List.mem_singleton.1 colon]
    decide
  · rcases chars c column with plain | rfl | rfl
    · exact Text.isBlank_of_isAlphanum plain
    · decide
    · decide

/-- **A body with blanks put in is read as before**, as long as the indexes are
still those that they were. -/
theorem parse_of_respaced (bodies : List.Forall₂ Respaced (bodyTokens text) (bodyTokens text'))
    (indexes : (tokens text').filterMap readIndex? = (tokens text).filterMap readIndex?)
    (parsed : parse text = .ok decl) : parse text' = .ok decl := by
  obtain ⟨first, name, body, whole, -⟩ := exists_declares_of_parse parsed
  obtain ⟨flawless, rfl⟩ := (parse_eq_ok_iff whole).1 parsed
  obtain ⟨named, columns⟩ := bodyFlaws_nil_iff.1 flawless
  obtain ⟨found, begins⟩ := whole
  rename_i entries later
  rw [found] at bodies
  obtain ⟨first', later', begin, rest, found'⟩ := List.forall₂_cons_left_iff.1 bodies
  obtain ⟨entries', begins', ahead⟩ := begin.begins begins
  have body : List.Forall₂ Respaced (entries ++ later) (entries' ++ later') :=
    List.rel_append ahead rest
  have read : (entries' ++ later').map readEntry = (entries ++ later).map readEntry := by
    refine map_eq_of_forall₂ ((List.forall₂_and_left _ _).2
      ⟨fun token mem => ?_, body⟩) fun token token' h => h.2.readEntry_eq h.1
    exact fun plain => columns token (List.mem_filter.2 ⟨mem, by rw [plain]; rfl⟩)
  have flaws : faultsOf ((columnTokens (entries' ++ later')).map readColumn) = [] := by
    rw [← faultsOf_readEntry, read, faultsOf_readEntry]
    exact columnFlaws_iff.1 (columnFlaws_nil_iff.2 columns)
  refine (parse_eq_ok_iff (.intro found' begins')).2 ⟨?_, by rw [read, indexes]⟩
  rw [bodyFlaws_iff, flaws, nameFlaws_iff.1 (.sound named)]
  rfl

/-- Blanks around commas leave the tokens as they are, indexes included. -/
theorem tokens_eq_of_padded (h : Text.Padded [','] text.toList text'.toList) :
    tokens text' = tokens text := by
  have free : ∀ p ∈ Text.pieces ',' text, ',' ∉ p.toList :=
    fun p hp inside => (Text.of_mem_pieces hp inside).2 rfl
  have pieces := (List.forall₂_and_left _ _).2 ⟨free, Text.forall₂_pieces h (c := ',') (by decide)⟩
  have trimmed : (Text.pieces ',' text').map Text.trim = (Text.pieces ',' text).map Text.trim := by
    refine map_eq_of_forall₂ pieces fun p q hpq => ?_
    rw [Text.trim, Text.trim, hpq.2.trimChars_eq (List.forall_mem_singleton.2 hpq.1)]
  rw [tokens, tokens, trimmed]

/-- **When blanks around separators go unnoticed.** Of a declaration that is read, with blanks
put in around its commas and colons, the same table is read exactly if no index token has got
any; and such a token cannot come about by blanks. Around commas blanks never matter. -/
theorem spacing_of_declarations (parsed : parse text = .ok decl)
    (spaced : Text.Padded [',', ':'] text.toList text'.toList) :
    (parse text' = .ok decl ↔ indexTokens text' = indexTokens text) ∧
    (indexTokens text').Sublist (indexTokens text) ∧
    (Text.Padded [','] text.toList text'.toList → parse text' = .ok decl) := by
  have related := forall₂_tokens spaced (List.Subset.refl _)
  have kept : List.Forall₂ (fun token token' => decide (IsIndexToken token') = true → token' = token)
      (tokens text) (tokens text') :=
    related.imp fun _ _ h index => h.2 (solid_of_isIndexToken (of_decide_eq_true index))
  have fewer : (indexTokens text').Sublist (indexTokens text) := filter_sublist_of_forall₂ kept
  have whole : indexTokens text' = indexTokens text → parse text' = .ok decl := by
    intro same
    have places := List.Forall₂.mp (fun _ _ => And.intro) related (forall₂_of_filter_eq kept same)
    have bodies := forall₂_filter places (p := fun token => ¬ IsIndexToken token)
      (q := fun token => ¬ IsIndexToken token) fun token token' h => by
        rw [decide_not, decide_not, h.2]
    refine parse_of_respaced (bodies.imp fun _ _ h => h.1.1) ?_ parsed
    refine filterMap_eq_of_forall₂ places fun token token' ⟨⟨_, kept⟩, place⟩ => ?_
    by_cases index : IsIndexToken token'
    · rw [kept (solid_of_isIndexToken index)]
    · have other : ¬ IsIndexToken token := (decide_eq_decide.1 place).not.1 index
      rw [← isSome_readIndex?_iff, Option.not_isSome_iff_eq_none] at index other
      rw [index, other]
  refine ⟨⟨fun parsed' => ?_, whole⟩, fewer, fun commas => whole ?_⟩
  · obtain ⟨_, _, _, -, declares⟩ := exists_declares_of_parse parsed
    obtain ⟨_, _, _, -, declares'⟩ := exists_declares_of_parse parsed'
    exact fewer.eq_of_length (declares'.indexes.length_eq.trans declares.indexes.length_eq.symm)
  · rw [indexTokens, indexTokens, tokens_eq_of_padded commas]

end TableDecl

namespace YearOrders

/-- Orders with an index over their year. -/
def text : String := "orders:year,index:year"

/-- The orders that the text declares. -/
def decl : TableDecl where
  name := "orders"
  columns := [⟨"year", .string, false, .empty⟩]
  flags := ⟨false, false⟩
  indexes := [⟨.plain, ["year"], none⟩]

theorem parsed : TableDecl.parse text = .ok decl := eq_ok_of_any_beq (by decide +kernel)

/-- There are blanks around the first colon and the comma, and behind the second colon. -/
theorem padded {text' : String} {inner : List Char} (blank : Text.Blank inner)
    (written : text'.toList = "orders : year , index:".toList ++ (inner ++ "year".toList)) :
    Text.Padded [',', ':'] text.toList text'.toList := by
  have index : Text.Spaced [',', ':'] (':' :: "year".toList) ([] ++ ':' :: (inner ++ "year".toList)) :=
    .around (by decide) Text.blank_nil blank (.refl _)
  have comma : Text.Spaced [',', ':'] (',' :: ("index".toList ++ _))
      ([' '] ++ ',' :: ([' '] ++ ("index".toList ++ _))) :=
    .around (by decide) (by decide) (by decide) (index.keepAll "index".toList)
  have colon : Text.Spaced [',', ':'] (':' :: ("year".toList ++ _))
      ([' '] ++ ':' :: ([' '] ++ ("year".toList ++ _))) :=
    .around (by decide) (by decide) (by decide) (comma.keepAll "year".toList)
  have before : text.toList = "orders".toList ++ ':' :: ("year".toList ++
      ',' :: ("index".toList ++ ':' :: "year".toList)) := by decide
  have after : "orders : year , index:".toList = "orders".toList ++ ([' '] ++ ':' :: ([' '] ++
      ("year".toList ++ ([' '] ++ ',' :: ([' '] ++ ("index".toList ++ [':'])))))) := by decide
  refine ⟨[], _, Text.blank_nil, before ▸ colon.keepAll "orders".toList, ?_⟩
  rw [written, after]
  simp only [List.append_assoc, List.cons_append, List.nil_append]

end YearOrders

/-- Blanks that leave the index alone go unnoticed. -/
theorem spacing_of_declarations_orders :
    TableDecl.parse "orders : year , index:year" = .ok YearOrders.decl :=
  (TableDecl.spacing_of_declarations YearOrders.parsed
    (YearOrders.padded Text.blank_nil (by decide))).1.2 (by decide +kernel)

/-- A blank at the colon of the index makes it a column with the name `index`. -/
theorem blank_at_index_is_noticed :
    TableDecl.parse YearOrders.text = .ok YearOrders.decl ∧
    Text.Padded [',', ':'] YearOrders.text.toList "orders : year , index: year".toList ∧
    TableDecl.parse "orders : year , index: year" = .ok { YearOrders.decl with
      columns := [⟨"year", .string, false, .empty⟩, ⟨"index", .year, true, .empty⟩]
      indexes := [] } :=
  ⟨YearOrders.parsed, @YearOrders.padded _ [' '] (by decide) (by decide),
    eq_ok_of_any_beq (by decide +kernel)⟩

end SchemaPlan
