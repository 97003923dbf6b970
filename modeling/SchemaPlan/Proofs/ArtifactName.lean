import SchemaPlan.Proofs.OneCreation

/-!
# What the names of artifacts are like

The name of an artifact goes to an archive as it is, and what an archive does
with a name can depend on every character of it. All names that can come up are
*plain* (`Artifact.isPlainName_name`): letters, digits and underscores of ASCII,
and in front of them a sign if the year is not one of the years 0 to 9999. This
rests on the name of the table being an identifier, which it is in every
declaration that is read.

A name also tells what it is the name of (`Artifact.eq_of_name`): artifacts of
one name have one stamp, one kind and one table. The digits of a year may be any
number, but no underscore is among them, so the first underscore ends the year;
everything else in a stamp has a fixed length.
-/

namespace SchemaPlan

/-! ## Signs of years -/

/-- The sign in front of a year that does not have four digits. -/
def Calendar.sign (year : Int) : String :=
  if year < 0 then "-" else if 9999 < year then "+" else ""

theorem Calendar.yearText_eq (year : Int) :
    yearText year = sign year ++ Text.padded 4 year.natAbs := by
  unfold yearText sign
  split
  · rfl
  · split
    · rfl
    · rw [String.empty_append]

namespace Instant

/-- The sign with which a stamp of this time begins. -/
def sign (t : Instant) : String :=
  Calendar.sign t.date.year

/-- A time of one of the years 0 to 9999 has no sign, so its stamp begins with
four digits and a name can be read from the left. -/
theorem sign_eq_empty_iff {t : Instant} : t.sign = "" ↔ t.IsCommon := by
  unfold sign Calendar.sign IsCommon
  split
  · exact iff_of_false (by decide) (by omega)
  · split
    · exact iff_of_false (by decide) (by omega)
    · exact iff_of_true rfl (by omega)

theorem sign_mem (t : Instant) : t.sign ∈ ["", "-", "+"] := by
  unfold sign Calendar.sign
  split
  · decide
  · split <;> decide

/-- The month, the day and the time of the day in a stamp. -/
def dayStamp (t : Instant) : String :=
  Text.padded 2 t.date.month ++ "_" ++ Text.padded 2 t.date.day ++ "_" ++ Text.padded 2 t.hour ++
    Text.padded 2 t.minute ++ Text.padded 2 t.second

theorem stamp_eq (t : Instant) :
    t.stamp = t.sign ++ (Text.padded 4 t.date.year.natAbs ++ "_" ++ t.dayStamp) := by
  unfold stamp dayStamp sign
  simp only [Calendar.yearText_eq, String.append_assoc]

theorem isWord_dayStamp (t : Instant) : IsWord t.dayStamp := by
  have under : IsWord "_" := by decide
  have month := (isWord_padded 2 t.date.month).append under
  have day := (month.append (isWord_padded 2 t.date.day)).append under
  have hour := day.append (isWord_padded 2 t.hour)
  exact (hour.append (isWord_padded 2 t.minute)).append (isWord_padded 2 t.second)

/-- What follows the year in a stamp has a fixed length. With it names are
taken apart from a known place, although a year may have more than four digits.
-/
@[simp] theorem length_dayStamp (t : Instant) : t.dayStamp.toList.length = 12 := by
  have two {n : Nat} (fits : n < 100) : (Text.padded 2 n).toList.length = 2 :=
    Text.length_padded (by decide) fits
  unfold dayStamp
  simp only [String.toList_append, List.length_append, two t.month_lt, two t.day_lt, two t.hour_lt,
    two t.minute_lt, two t.second_lt]
  rfl

end Instant

/-! ## Plain names -/

/-- **A plain name**, with the given sign: after it come letters, digits and
underscores, at least one. -/
def IsPlainName (sign name : String) : Prop :=
  ∃ word, name = sign ++ word ∧ word ≠ "" ∧ IsWord word

namespace IsPlainName

variable {sign name : String}

theorem ne_empty (h : IsPlainName sign name) : name ≠ "" := by
  obtain ⟨word, rfl, nonempty, -⟩ := h
  exact fun empty => nonempty (String.append_eq_empty_iff.1 empty).2

/-- A plain name has no separator of paths in it, no dot and no colon, so that
as the name of a file it means that file and nothing else, under any system. -/
theorem consists (h : IsPlainName sign name) (known : sign ∈ ["", "-", "+"]) :
    Text.Consists (fun c => c ≠ '/' ∧ c ≠ '\\' ∧ c ≠ '.' ∧ c ≠ ':' ∧ c ≠ '\x00') name := by
  obtain ⟨word, rfl, -, letters⟩ := h
  have signs : ∀ sign ∈ ["", "-", "+"],
      Text.Consists (fun c => c ≠ '/' ∧ c ≠ '\\' ∧ c ≠ '.' ∧ c ≠ ':' ∧ c ≠ '\x00') sign := by
    decide
  refine (signs sign known).append (letters.imp fun c rest => ?_)
  refine ⟨?_, ?_, ?_, ?_, ?_⟩
  all_goals exact fun same => absurd (same ▸ rest) (by decide)

end IsPlainName

namespace Artifact

variable {a b : Artifact}

/-- **The name of an artifact is plain**, for any kind and at any time, if its
table has a proper name. -/
theorem isPlainName_name (named : isIdentifier a.table = true) :
    IsPlainName a.createdAt.sign a.name := by
  have under : IsWord "_" := by decide
  have stamp := ((isWord_padded 4 a.createdAt.date.year.natAbs).append under).append
    a.createdAt.isWord_dayStamp
  refine ⟨Text.padded 4 a.createdAt.date.year.natAbs ++ "_" ++ a.createdAt.dayStamp ++ "_" ++ a.slug,
    ?_, ?_, ?_⟩
  · rw [name, Instant.stamp_eq]
    simp only [String.append_assoc]
  · intro empty
    rw [String.append_eq_empty_iff, String.append_eq_empty_iff] at empty
    exact absurd empty.1.2 (by decide)
  · exact (stamp.append under).append (isWord_slug a.kind named)

end Artifact

/-! ## What a name tells -/

namespace ArtifactKind

/-- The words in front of the table in a name. -/
def verb : ArtifactKind → String
  | create => "create_"
  | addColumns => "add_columns_to_"
  | modifyColumns => "modify_columns_in_"
  | dropColumns => "drop_columns_from_"

theorem slug_eq (kind : ArtifactKind) (table : String) :
    kind.slug table = kind.verb ++ table ++ "_table" := by
  cases kind <;> rfl

theorem eq_of_head?_verb {a b : ArtifactKind} (h : a.verb.toList.head? = b.verb.toList.head?) :
    a = b := by
  cases a <;> cases b <;> first | rfl | exact absurd h (by decide)

@[simp] theorem head?_slug (kind : ArtifactKind) (table : String) :
    (kind.slug table).toList.head? = kind.verb.toList.head? := by
  have nonempty : kind.verb.toList ≠ [] := by
    cases kind <;> decide
  rw [slug_eq, String.append_assoc, String.toList_append, List.head?_append_of_ne_nil _ nonempty]

theorem eq_of_slug {a b : ArtifactKind} {first second : String}
    (h : a.slug first = b.slug second) : a = b ∧ first = second := by
  have kind : a = b := eq_of_head?_verb (by rw [← head?_slug a first, h, head?_slug])
  subst kind
  refine ⟨rfl, ?_⟩
  rw [slug_eq, slug_eq, String.append_left_inj, String.append_right_inj] at h
  exact h

end ArtifactKind

theorem underscore_notMem_yearText (year : Int) : '_' ∉ (Calendar.yearText year).toList := by
  have sign : '_' ∉ (Calendar.sign year).toList := by
    unfold Calendar.sign
    split
    · decide
    · split <;> decide
  rw [Calendar.yearText_eq, String.toList_append, List.mem_append]
  rintro (under | under)
  · exact sign under
  · exact absurd (Text.consists_padded 4 year.natAbs '_' under) (by decide)

namespace Artifact

variable {a b : Artifact}

/-- **Artifacts of one name are of one stamp, one kind and one table.** The
parts of a name can be told apart although a table may be called like a kind,
because kinds differ in their first letters and the stamp has a known length.
-/
theorem eq_of_name (h : a.name = b.name) :
    a.createdAt.stamp = b.createdAt.stamp ∧ a.kind = b.kind ∧ a.table = b.table := by
  have cut (c : Artifact) : Text.cutAt? '_' c.name =
      some (Calendar.yearText c.createdAt.date.year, c.createdAt.dayStamp ++ "_" ++ c.slug) := by
    have whole : c.name = Calendar.yearText c.createdAt.date.year ++ String.singleton '_' ++
        (c.createdAt.dayStamp ++ "_" ++ c.slug) := by
      rw [name, Instant.stamp, Instant.dayStamp]
      simp only [String.append_assoc]
      rfl
    rw [whole]
    exact Text.cutAt?_append (underscore_notMem_yearText _) _
  have parts := Option.some.inj ((cut a).symm.trans ((congrArg _ h).trans (cut b)))
  rw [Prod.mk.injEq] at parts
  obtain ⟨year, rest⟩ := parts
  have chars := congrArg String.toList rest
  simp only [String.append_assoc, String.toList_append] at chars
  obtain ⟨day, rest⟩ := List.append_inj chars
    (a.createdAt.length_dayStamp.trans b.createdAt.length_dayStamp.symm)
  have slug := String.toList_injective (List.append_cancel_left rest)
  refine ⟨?_, ArtifactKind.eq_of_slug slug⟩
  have stamp (c : Artifact) : c.createdAt.stamp =
      Calendar.yearText c.createdAt.date.year ++ "_" ++ c.createdAt.dayStamp := by
    rw [Instant.stamp, Instant.dayStamp]
    simp only [String.append_assoc]
  rw [stamp a, stamp b, year, String.toList_injective day]

/-- The table that is read off the name of an artifact is its own. So a
migration never speaks for the creation of a table other than that it was made
for. -/
theorem table_of_createdTable? {table : String} (named : isIdentifier a.table = true)
    (h : Archive.createdTable? a.name = some table) : table = a.table := by
  by_cases common : a.kind = .create → a.createdAt.IsCommon
  · rw [Archive.createdTable?_name named common] at h
    split at h
    · exact (Option.some.inj h).symm
    · cases h
  · -- nothing is read off the name of a creation in any other year
    rw [Classical.not_imp] at common
    have read := Archive.createdTable?_stamp a.createdAt a.kind.verb a.table
    rw [if_neg common.2, ← ArtifactKind.slug_eq] at read
    rw [show a.name = a.createdAt.stamp ++ "_" ++ a.kind.slug a.table from rfl, read] at h
    cases h

end Artifact

/-! ## What a run makes -/

namespace TableDiff

variable {artifacts : List Artifact} {now : Instant}

/-- Artifacts are dated from the time that is given on, one second apart; which
second an artifact has is known from its place. -/
theorem later?_of_dated {table : String} {seconds : Nat} {bodies : List ArtifactBody}
    (h : dated table now seconds bodies = .ok artifacts) :
    ∀ artifact ∈ artifacts, ∃ n, seconds ≤ n ∧ now.later? n = some artifact.createdAt := by
  induction bodies generalizing seconds artifacts with
  | nil =>
    cases h
    exact fun _ ha => absurd ha List.not_mem_nil
  | cons body rest ih =>
    obtain ⟨time, later, dates, tail, rfl⟩ := dated_cons_eq_ok_iff.1 h
    refine List.forall_mem_cons.2 ⟨⟨seconds, Nat.le_refl _, dates⟩, fun artifact ha => ?_⟩
    obtain ⟨n, later, dates⟩ := ih tail artifact ha
    exact ⟨n, Nat.le_of_succ_le later, dates⟩

end TableDiff

namespace Archive

/-- The artifacts that a declaration calls for are for the declared table, and are
made at the time of the run or so many seconds later. -/
theorem of_requested {options : DiffOptions} {listed : Except Fault (List String)}
    {inspector : Inspector} {now : Instant} {text : String} {artifacts : List Artifact}
    (h : requested options listed inspector now text = .ok artifacts) :
    ∃ decl, TableDecl.parse text = .ok decl ∧ ∀ artifact ∈ artifacts,
      artifact.table = decl.name ∧ ∃ n, now.later? n = some artifact.createdAt := by
  obtain ⟨decl, names, plan, parsed, -, made, planned⟩ := requested_eq_ok_iff.1 h
  have tables := (Plan.of_artifacts made planned).1
  refine ⟨decl, parsed, fun artifact ha => ⟨tables artifact ha, ?_⟩⟩
  unfold Plan.artifacts at planned
  split at planned
  · cases planned
    exact absurd ha List.not_mem_nil
  · obtain ⟨bodies, -, dated⟩ := bind_eq_ok_iff.1 planned
    exact (TableDiff.later?_of_dated dated artifact ha).imp fun _ => And.right

end Archive

end SchemaPlan
