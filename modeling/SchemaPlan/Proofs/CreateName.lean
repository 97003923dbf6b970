import Mathlib.Data.Nat.Digits.Defs
import SchemaPlan.Archive.CreateName
import SchemaPlan.Proofs.UnitReading

/-!
# The names of artifacts and what is read off them

An artifact is named by its time, its kind and its table, and an archive reads
off a name whether it is that of an artifact that creates a table. The two were
written for each other, and here they are shown to agree: of the name of an
artifact the table is read when the artifact creates it, and nothing otherwise
(`Archive.createdTable?_name`), whatever the name of the table contains.

The stamp of a time has its fixed form, four digits for the year and two for
everything else, only in the years 0 to 9999. Outside of them it begins with a
sign, and no table is read. That a day of the month has two digits rests on the
year that is found for a day: the day is no more than a year away from the first
of that year, whichever of the two candidates is taken.
-/

namespace SchemaPlan

/-! ## Numbers of two digits -/

/-- A number that fits into so many digits is written with exactly so many,
which is how the reader of a name knows where a part of the time ends. -/
theorem Text.length_padded {width n : Nat} (positive : 0 < width) (fits : n < 10 ^ width) :
    (padded width n).toList.length = width := by
  have digits := Nat.toDigits_length 10 n width positive fits
  rw [padded, String.toList_ofList, List.leftpad, List.length_append, List.length_replicate]
  omega

namespace Calendar

/-- The search for a month stops at one of the lengths it is given, so that the
month is at most twelve. This and the statements below bound the parts of a
time by two digits. -/
theorem fst_monthAndDay_le (month : Nat) (lengths : List Nat) (days : Nat) :
    (monthAndDay month lengths days).1 ≤ month + lengths.length := by
  induction lengths generalizing month days with
  | nil => exact Nat.le_refl month
  | cons length later ih =>
    rw [monthAndDay]
    split
    · exact Nat.le_add_right month _
    · have next := ih (month + 1) (days - length)
      rw [List.length_cons]
      omega

/-- The day of a month is no more than 31, also when the days go on for less
than a month after the last of the lengths. -/
theorem snd_monthAndDay_le {lengths : List Nat} (short : ∀ length ∈ lengths, length ≤ 31)
    (month : Nat) {days : Nat} (h : days ≤ lengths.sum + 30) :
    (monthAndDay month lengths days).2 ≤ 31 := by
  induction lengths generalizing month days with
  | nil =>
    show days + 1 ≤ 31
    rw [List.sum_nil] at h
    omega
  | cons length later ih =>
    have this := short length List.mem_cons_self
    rw [List.sum_cons] at h
    rw [monthAndDay]
    split
    · show days + 1 ≤ 31
      omega
    · exact ih (fun other member => short other (List.mem_cons_of_mem length member)) _ (by omega)

/-- A day is not far from the first of its year. The bound is not sharp; it
only has to bound the days of the month, which are written with two digits. -/
theorem sub_daysBeforeYear_le (day : Int) : day - daysBeforeYear (yearOfDay day) ≤ 367 := by
  unfold yearOfDay
  dsimp only
  split
  · unfold daysBeforeYear
    omega
  · rename_i before
    unfold daysBeforeYear at before ⊢
    omega

theorem monthLengths_le (year : Int) : ∀ length ∈ monthLengths year, length ≤ 31 := by
  unfold monthLengths
  cases isLeapYear year <;> decide

/-- The months of a year have together as many days as the year has at least.
-/
theorem le_sum_monthLengths (year : Int) : 365 ≤ (monthLengths year).sum := by
  unfold monthLengths
  cases isLeapYear year <;> decide

theorem month_ofDay_lt (day : Int) : (Date.ofDay day).month < 100 := by
  have bound := fst_monthAndDay_le 1 (monthLengths (yearOfDay day))
    (day - daysBeforeYear (yearOfDay day)).toNat
  have twelve : (monthLengths (yearOfDay day)).length = 12 := rfl
  exact Nat.lt_of_le_of_lt bound (by omega)

theorem day_ofDay_lt (day : Int) : (Date.ofDay day).day < 100 := by
  have near := sub_daysBeforeYear_le day
  have year := le_sum_monthLengths (yearOfDay day)
  have bound := snd_monthAndDay_le (monthLengths_le (yearOfDay day)) 1
    (by omega : (day - daysBeforeYear (yearOfDay day)).toNat ≤ _)
  exact Nat.lt_of_le_of_lt bound (by decide)

end Calendar

namespace Instant

variable {t : Instant}

/-- **The year has four digits**: it is one of the years 0 to 9999. Names made
in any other year are not read as names of migrations. -/
def IsCommon (t : Instant) : Prop :=
  0 ≤ t.date.year ∧ t.date.year ≤ 9999

instance (t : Instant) : Decidable t.IsCommon :=
  inferInstanceAs (Decidable (_ ∧ _))

/-- The second of a day is less than a day, also for times before 1970, where
the remainder is still taken upwards. -/
theorem secondOfDay_lt (t : Instant) : t.secondOfDay < 86400 := by
  unfold secondOfDay
  omega

theorem month_lt (t : Instant) : t.date.month < 100 :=
  Calendar.month_ofDay_lt _

theorem day_lt (t : Instant) : t.date.day < 100 :=
  Calendar.day_ofDay_lt _

theorem hour_lt (t : Instant) : t.hour < 100 := by
  have day := t.secondOfDay_lt
  unfold hour
  omega

theorem minute_lt (t : Instant) : t.minute < 100 := by
  unfold minute
  omega

theorem second_lt (t : Instant) : t.second < 100 := by
  unfold second
  split
  · omega
  · omega

end Instant

namespace Archive

variable {t : Instant} {cs rest : List Char}

/-! ## Reading the stamp -/

@[simp] theorem afterStart?_append (start rest : List Char) :
    afterStart? start (start ++ rest) = some rest := by
  rw [afterStart?, if_pos (List.isPrefixOf_iff_prefix.2 (List.prefix_append _ _)), List.drop_left]

/-- Digits that are there are passed over one by one, and what comes behind
them is met. -/
theorem afterDigits?_append (digits : ∀ c ∈ cs, c.isDigit = true) (n : Nat) (rest : List Char) :
    afterDigits? (cs.length + n) (cs ++ rest) = afterDigits? n rest := by
  induction cs with
  | nil => rw [List.length_nil, Nat.zero_add, List.nil_append]
  | cons c cs ih =>
    have first := Text.isDecimalDigit_of_isDigit (digits c List.mem_cons_self)
    rw [List.length_cons, Nat.succ_add, List.cons_append, afterDigits?, if_pos first]
    exact ih fun d hd => digits d (List.mem_cons_of_mem c hd)

/-- A number that is written with so many digits is read by so many, and the
reading goes on behind it. -/
theorem afterDigits?_padded {width k : Nat} (positive : 0 < width) (fits : k < 10 ^ width) (n : Nat)
    (rest : List Char) :
    afterDigits? (width + n) ((Text.padded width k).toList ++ rest) = afterDigits? n rest := by
  have read := afterDigits?_append (Text.consists_padded width k) n rest
  rw [Text.length_padded positive fits] at read
  exact read

/-- **The stamp of a common year is read.** Any other year has a sign, which is
no digit, and then nothing is read from the name. -/
theorem afterStamp?_stamp (common : t.IsCommon) (rest : List Char) :
    afterStamp? (t.stamp.toList ++ '_' :: rest) = some rest := by
  have written : Calendar.yearText t.date.year = Text.padded 4 t.date.year.natAbs := by
    unfold Calendar.yearText
    rw [if_neg (Int.not_lt.2 common.1), if_neg (Int.not_lt.2 common.2)]
  have fits : t.date.year.natAbs < 10 ^ 4 := by
    have low := common.1
    have high := common.2
    omega
  have chars : t.stamp.toList ++ '_' :: rest = (Text.padded 4 t.date.year.natAbs).toList ++
      (['_'] ++ ((Text.padded 2 t.date.month).toList ++ (['_'] ++
        ((Text.padded 2 t.date.day).toList ++ (['_'] ++ ((Text.padded 2 t.hour).toList ++
          ((Text.padded 2 t.minute).toList ++ ((Text.padded 2 t.second).toList ++
            (['_'] ++ rest))))))))) := by
    unfold Instant.stamp
    simp only [String.toList_append, written, List.append_assoc]
    rfl
  have year : ∀ rest, afterDigits? 4 ((Text.padded 4 t.date.year.natAbs).toList ++ rest) =
      some rest := afterDigits?_padded (by decide) fits 0
  have month : ∀ rest, afterDigits? 2 ((Text.padded 2 t.date.month).toList ++ rest) =
      some rest := afterDigits?_padded (by decide) t.month_lt 0
  have day : ∀ rest, afterDigits? 2 ((Text.padded 2 t.date.day).toList ++ rest) =
      some rest := afterDigits?_padded (by decide) t.day_lt 0
  have time : ∀ rest, afterDigits? 6 ((Text.padded 2 t.hour).toList ++
      ((Text.padded 2 t.minute).toList ++ ((Text.padded 2 t.second).toList ++ rest))) =
        some rest := by
    intro rest
    have hour := afterDigits?_padded (by decide : 0 < 2) t.hour_lt 4
    have minute := afterDigits?_padded (by decide : 0 < 2) t.minute_lt 2
    have second := afterDigits?_padded (by decide : 0 < 2) t.second_lt 0
    exact (hour _).trans ((minute _).trans (second rest))
  rw [chars]
  simp only [afterStamp?, year, month, day, time, afterStart?_append, Option.bind_eq_bind,
    Option.bind_some]

/-- Before the year 0 and after the year 9999 a stamp begins with a sign, and
is not read. -/
theorem afterStamp?_stamp_eq_none (uncommon : ¬ t.IsCommon) (rest : List Char) :
    afterStamp? (t.stamp.toList ++ rest) = none := by
  have signed : ∃ sign cs, t.stamp.toList = sign :: cs ∧ (sign = '-' ∨ sign = '+') := by
    unfold Instant.stamp Calendar.yearText
    by_cases past : t.date.year < 0
    · rw [if_pos past]
      simp only [String.toList_append, List.append_assoc]
      exact ⟨'-', _, rfl, .inl rfl⟩
    · have future : 9999 < t.date.year :=
        Int.not_le.1 fun high => uncommon ⟨Int.not_lt.1 past, high⟩
      rw [if_neg past, if_pos future]
      simp only [String.toList_append, List.append_assoc]
      exact ⟨'+', _, rfl, .inr rfl⟩
  obtain ⟨sign, cs, chars, which⟩ := signed
  have unread : Text.isDecimalDigit sign = false := by
    cases which with
    | inl minus => rw [minus]; decide +kernel
    | inr plus => rw [plus]; decide +kernel
  rw [chars, List.cons_append, afterStamp?, afterDigits?, if_neg (by rw [unread]; decide)]
  rfl

/-! ## Reading the name of an artifact -/

variable {table : String}

/-- What ends a name of an artifact is not the ending of a source file. -/
@[simp] theorem withoutEnding?_eq_none (s : String) :
    Text.withoutEnding? ".rs" (s ++ "_table") = none := by
  have other : (".rs").toList.isSuffixOf (s ++ "_table").toList = false := by
    rw [List.isSuffixOf, String.toList_append, List.reverse_append]
    rfl
  rw [Text.withoutEnding?, other]
  rfl

/-- After the stamp of a name nothing is read but the word for the creation of a
table. -/
theorem createdTable?_stamp (t : Instant) (verb table : String) :
    createdTable? (t.stamp ++ "_" ++ (verb ++ table ++ "_table")) =
      if t.IsCommon then
        (afterStart? "create_".toList (verb ++ table ++ "_table").toList).bind fun rest =>
          (Text.withoutEnding? "_table" (String.ofList rest)).bind fun table =>
            if !table.isEmpty && table.toList.all Text.isWordChar then some table else none
      else none := by
  have whole : t.stamp ++ "_" ++ (verb ++ table ++ "_table") =
      t.stamp ++ "_" ++ (verb ++ table) ++ "_table" := by
    simp only [String.append_assoc]
  have chars : (t.stamp ++ "_" ++ (verb ++ table ++ "_table")).toList =
      t.stamp.toList ++ '_' :: (verb ++ table ++ "_table").toList := by
    simp only [String.toList_append, List.append_assoc]
    rfl
  have plain : (Text.withoutEnding? ".rs" (t.stamp ++ "_" ++ (verb ++ table ++ "_table"))).getD
      (t.stamp ++ "_" ++ (verb ++ table ++ "_table")) =
        t.stamp ++ "_" ++ (verb ++ table ++ "_table") := by
    simp [whole]
  rw [createdTable?, plain, chars]
  by_cases common : t.IsCommon
  · rw [if_pos common, afterStamp?_stamp common]
    rfl
  · rw [if_neg common, afterStamp?_stamp_eq_none common]
    rfl

/-- No table is read after another word. This is where the four kinds are told
apart, and it does not depend on the table. -/
theorem createdTable?_eq_none {verb : String} (t : Instant) (table : String)
    (other : ∀ rest, afterStart? "create_".toList (verb.toList ++ rest) = none) :
    createdTable? (t.stamp ++ "_" ++ (verb ++ table ++ "_table")) = none := by
  rw [createdTable?_stamp, String.toList_append, String.toList_append, List.append_assoc, other]
  exact ite_self none

/-- An identifier is a name that can be read. -/
theorem isWordChar_of_isIdentifier (h : isIdentifier table = true) :
    (!table.isEmpty && table.toList.all Text.isWordChar) = true := by
  have nonempty : table.isEmpty = false := by
    rw [← Bool.not_eq_true, String.isEmpty_iff]
    rintro rfl
    exact absurd h (by decide)
  rw [nonempty, Bool.not_false, Bool.true_and, List.all_eq_true]
  intro c hc
  have rest : isIdentifierRest c = true := isWord_of_isIdentifier h c hc
  rw [isIdentifierRest, Bool.or_eq_true, beq_iff_eq] at rest
  cases rest with
  | inl plain => exact Text.isWordChar_of_isAlphanum plain
  | inr under => rw [under]; decide +kernel

/-- **From the name of an artifact the table is read that it creates**, and no
table if it does something else. -/
theorem createdTable?_name {artifact : Artifact} (named : isIdentifier artifact.table = true)
    (common : artifact.kind = .create → artifact.createdAt.IsCommon) :
    createdTable? artifact.name = if artifact.kind = .create then some artifact.table else none := by
  unfold Artifact.name Artifact.slug
  cases kind : artifact.kind with
  | create =>
    have full := isWordChar_of_isIdentifier named
    have rest : ("create_" ++ artifact.table ++ "_table").toList =
        "create_".toList ++ (artifact.table ++ "_table").toList := by
      simp only [String.toList_append, List.append_assoc]
    have read := createdTable?_stamp artifact.createdAt "create_" artifact.table
    rw [if_pos (common kind), rest, afterStart?_append, Option.bind_some, String.ofList_toList,
      Text.withoutEnding?_append, Option.bind_some, if_pos full] at read
    rw [if_pos rfl]
    exact read
  | addColumns =>
    rw [if_neg (by decide)]
    exact createdTable?_eq_none artifact.createdAt artifact.table fun rest => rfl
  | modifyColumns =>
    rw [if_neg (by decide)]
    exact createdTable?_eq_none artifact.createdAt artifact.table fun rest => rfl
  | dropColumns =>
    rw [if_neg (by decide)]
    exact createdTable?_eq_none artifact.createdAt artifact.table fun rest => rfl

end Archive

end SchemaPlan
