import SchemaPlan.Proofs.ArtifactName
import SchemaPlan.Proofs.Chronology
import SchemaPlan.Proofs.OctetOrder

/-!
# Names in the order of their artifacts

An archive lists its artifacts by name and knows no other order, so what the artifacts
of a comparison are called has to put them in the order in which they are applied, and has
to tell them apart.

Both go by the stamp in front of a name. It consists of numbers, each written with its
own number of digits and followed by a text of its own (`Text.layOut`); of texts of one
such layout the one with the greater numbers is the greater one, octet by octet. The years
have to be written with four digits for the order, but not for what a name tells.

The artifacts of a comparison are made one second apart, and a later second has the greater
numbers, the leap second at the end of a minute included. But moving forward by a second
leaves a leap second at its start, and where a leap second is within a minute the second
after it is written as it is. Then the first two artifacts have the same stamp, and it is
the words after it that are compared. These are in order but for one case: what modifies
columns comes before what drops columns, and not so their names
(`names_ascend_in_emission_order`).
-/

namespace SchemaPlan

/-- Lists that compare in a common length compare so whatever follows. -/
theorem append_lt_append {α : Type} [LT α] {first second : List α}
    (length : first.length = second.length) (h : first < second) (rest other : List α) :
    first ++ rest < second ++ other := by
  induction first generalizing second with
  | nil =>
    cases List.length_eq_zero_iff.1 length.symm
    exact absurd h (List.not_lt_nil [])
  | cons a first ih =>
    cases second with
    | nil => cases length
    | cons b second =>
      rw [List.cons_append, List.cons_append, List.cons_lt_cons_iff]
      rw [List.cons_lt_cons_iff] at h
      exact h.imp_right (And.imp_right (ih (Nat.succ.inj length)))

namespace Text

/-! ## Numbers of a fixed number of digits -/

theorem digitsValue_cons (c : Char) (cs : List Char) :
    digitsValue (c :: cs) = 10 ^ cs.length * (c.toNat - '0'.toNat) + digitsValue cs := by
  show Nat.ofDigitChars 10 (c :: cs) 0 = _
  rw [Nat.ofDigitChars_cons, Nat.mul_zero, Nat.zero_add, Nat.ofDigitChars_eq_ofDigitChars_zero]
  rfl

theorem digitsValue_lt {cs : List Char} (digits : ∀ c ∈ cs, c.isDigit = true) :
    digitsValue cs < 10 ^ cs.length := by
  induction cs with
  | nil => exact Nat.one_pos
  | cons c cs ih =>
    rw [List.forall_mem_cons] at digits
    have rest := ih digits.2
    have digit := Char.isDigit_iff_toNat.1 digits.1
    have nine : '9'.toNat = '0'.toNat + 9 := rfl
    have bound : 10 ^ cs.length * (c.toNat - '0'.toNat) ≤ 10 ^ cs.length * 9 :=
      Nat.mul_le_mul_left _ (by omega)
    rw [digitsValue_cons, List.length_cons, Nat.pow_succ]
    omega

/-- Of digits that are as many the ones of the smaller number come first. -/
theorem lt_of_digitsValue_lt {cs ds : List Char} (hc : ∀ c ∈ cs, c.isDigit = true)
    (hd : ∀ d ∈ ds, d.isDigit = true) (length : cs.length = ds.length)
    (h : digitsValue cs < digitsValue ds) : cs < ds := by
  induction cs generalizing ds with
  | nil =>
    cases List.length_eq_zero_iff.1 length.symm
    exact absurd h (Nat.lt_irrefl _)
  | cons c cs ih =>
    cases ds with
    | nil => cases length
    | cons d ds =>
      rw [List.forall_mem_cons] at hc hd
      have same : cs.length = ds.length := Nat.succ.inj length
      rw [digitsValue_cons, digitsValue_cons, same] at h
      rw [List.cons_lt_cons_iff]
      rcases Nat.lt_trichotomy c.toNat d.toNat with before | equal | after
      · exact .inl before
      · rw [equal] at h
        exact .inr ⟨Char.toNat_inj.1 equal, ih hc.2 hd.2 same (Nat.lt_of_add_lt_add_left h)⟩
      · -- a greater first digit is not made up for by the others
        have rest := digitsValue_lt hd.2
        have zero := (Char.isDigit_iff_toNat.1 hd.1).1
        have more := Nat.mul_le_mul_left (10 ^ ds.length)
          (by omega : d.toNat - '0'.toNat + 1 ≤ c.toNat - '0'.toNat)
        rw [Nat.mul_succ] at more
        omega

@[simp] theorem digitsValue_padded (width n : Nat) : digitsValue (padded width n).toList = n := by
  show Nat.ofDigitChars 10 (padded width n).toList 0 = n
  rw [padded, String.toList_ofList, List.leftpad, Nat.ofDigitChars_append,
    Nat.ofDigitChars_replicate_zero, Nat.mul_zero, Nat.ofDigitChars_ten_toDigits]

/-! ## Numbers in a layout -/

/-- Numbers written one after the other. The fields of a layout say with how many digits
a number is written and what follows it. -/
def layOut : List (Nat × String) → List Nat → String
  | (width, ending) :: fields, n :: numbers => padded width n ++ (ending ++ layOut fields numbers)
  | _, _ => ""

/-- **The numbers have no more digits than the layout has for them.** Only then
are the digits as many as the layout says, and texts can be compared place by
place. -/
abbrev Fits (fields : List (Nat × String)) (numbers : List Nat) : Prop :=
  List.Forall₂ (fun field n => 0 < field.1 ∧ n < 10 ^ field.1) fields numbers

variable {fields : List (Nat × String)} {numbers others : List Nat}

/-- Texts of one layout are of one length. -/
theorem length_layOut (first : Fits fields numbers) (second : Fits fields others) :
    (layOut fields numbers).toList.length = (layOut fields others).toList.length := by
  induction first generalizing others with
  | nil => cases second; rfl
  | cons fits _ ih =>
    cases second with
    | cons fits' second =>
      simp only [layOut, String.toList_append, List.length_append, ih second,
        length_padded fits.1 fits.2, length_padded fits'.1 fits'.2]

/-- **Of texts of one layout the one with the greater numbers is greater.** -/
theorem layOut_lt (first : Fits fields numbers) (second : Fits fields others)
    (h : numbers < others) : (layOut fields numbers).toList < (layOut fields others).toList := by
  induction first generalizing others with
  | nil =>
    cases second
    exact absurd h (List.not_lt_nil [])
  | @cons field n fields numbers fits _ ih =>
    cases second with
    | @cons _ m _ others fits' second =>
      simp only [layOut, String.toList_append]
      have length : (padded field.1 n).toList.length = (padded field.1 m).toList.length :=
        (length_padded fits.1 fits.2).trans (length_padded fits'.1 fits'.2).symm
      rcases List.cons_lt_cons_iff.1 h with less | ⟨rfl, later⟩
      · refine append_lt_append length (lt_of_digitsValue_lt ?_ ?_ length ?_) _ _
        · exact consists_padded field.1 n
        · exact consists_padded field.1 m
        · simpa using less
      · exact List.append_left_lt (List.append_left_lt (ih second later))

/-- Texts of one layout are the same only for the same numbers. -/
theorem layOut_inj (first : Fits fields numbers) (second : Fits fields others)
    (h : layOut fields numbers = layOut fields others) : numbers = others := by
  induction first generalizing others with
  | nil => cases second; rfl
  | @cons field n fields numbers fits _ ih =>
    cases second with
    | @cons _ m _ others fits' second =>
      have chars := congrArg String.toList h
      simp only [layOut, String.toList_append] at chars
      obtain ⟨digits, rest⟩ := List.append_inj chars
        ((length_padded fits.1 fits.2).trans (length_padded fits'.1 fits'.2).symm)
      have head : n = m := by
        rw [← digitsValue_padded field.1 n, digits, digitsValue_padded]
      have tail := ih second (String.toList_injective (List.append_cancel_left rest))
      rw [head, tail]

end Text

/-! ## Years -/

namespace Calendar

theorem minus_mem_yearText_iff {year : Int} : '-' ∈ (yearText year).toList ↔ year < 0 := by
  have digits : '-' ∉ (Text.padded 4 year.natAbs).toList := fun minus =>
    absurd (Text.consists_padded 4 year.natAbs '-' minus) (by decide)
  rw [yearText_eq, String.toList_append, List.mem_append, or_iff_left digits, sign]
  split
  · exact iff_of_true (by decide) ‹_›
  · split
    · exact iff_of_false (by decide) ‹_›
    · exact iff_of_false (by decide) ‹_›

/-- The digits of a year are those of its amount. -/
theorem filter_isDigit_yearText (year : Int) :
    (yearText year).toList.filter Char.isDigit = (Text.padded 4 year.natAbs).toList := by
  have none : (sign year).toList.filter Char.isDigit = [] := by
    unfold sign
    split
    · decide
    · split <;> decide
  rw [yearText_eq, String.toList_append, List.filter_append, none, List.nil_append]
  exact List.filter_eq_self.2 (Text.consists_padded 4 year.natAbs)

/-- Years are told apart by their texts. -/
theorem yearText_inj {first second : Int} (h : yearText first = yearText second) :
    first = second := by
  have negative : first < 0 ↔ second < 0 := by
    rw [← minus_mem_yearText_iff, h, minus_mem_yearText_iff]
  have amount : first.natAbs = second.natAbs := by
    rw [← Text.digitsValue_padded 4 first.natAbs, ← filter_isDigit_yearText, h,
      filter_isDigit_yearText, Text.digitsValue_padded]
  omega

end Calendar

/-! ## Stamps -/

namespace Instant

variable {t u : Instant}

/-- How a stamp goes on after the year. -/
def dayLayout : List (Nat × String) :=
  [(2, "_"), (2, "_"), (2, ""), (2, ""), (2, "")]

theorem dayStamp_eq_layOut (t : Instant) : t.dayStamp = Text.layOut dayLayout t.numbers := by
  simp only [dayStamp, dayLayout, numbers, timeNumbers, Calendar.Date.numbers, List.cons_append,
    List.nil_append, Text.layOut, String.append_assoc, String.empty_append, String.append_empty]

theorem fits_numbers (t : Instant) : Text.Fits dayLayout t.numbers :=
  .cons ⟨by decide, t.month_lt⟩ <| .cons ⟨by decide, t.day_lt⟩ <| .cons ⟨by decide, t.hour_lt⟩ <|
    .cons ⟨by decide, t.minute_lt⟩ <| .cons ⟨by decide, t.second_lt⟩ .nil

/-- How a stamp is written in the years 0 to 9999. In any other year the first
field would be longer, and there would be a sign in front of it. -/
def stampLayout : List (Nat × String) :=
  (4, "_") :: dayLayout

theorem stamp_eq_layOut (common : t.IsCommon) :
    t.stamp = Text.layOut stampLayout (t.date.year.natAbs :: t.numbers) := by
  rw [stamp_eq, sign_eq_empty_iff.2 common, String.empty_append, dayStamp_eq_layOut, stampLayout,
    Text.layOut, String.append_assoc]

theorem fits_year_numbers (common : t.IsCommon) :
    Text.Fits stampLayout (t.date.year.natAbs :: t.numbers) := by
  have year : t.date.year.natAbs < 10 ^ 4 := by
    obtain ⟨low, high⟩ := common
    omega
  exact .cons ⟨by decide, year⟩ t.fits_numbers

/-- **Of two times the later one has the greater stamp**, once they are settled. -/
theorem stamp_lt (first : t.IsCommon) (second : u.IsCommon)
    (h : t.settled.seconds < u.settled.seconds) : t.stamp.toList < u.stamp.toList := by
  rw [stamp_eq_layOut first, stamp_eq_layOut second]
  refine Text.layOut_lt (fits_year_numbers first) (fits_year_numbers second) ?_
  rw [List.cons_lt_cons_iff]
  rcases precedes_of_settled_lt h with before | ⟨same, numbers⟩
  · obtain ⟨low, -⟩ := first
    exact .inl (by omega)
  · exact .inr ⟨congrArg Int.natAbs same, numbers⟩

theorem length_stamp (first : t.IsCommon) (second : u.IsCommon) :
    t.stamp.toList.length = u.stamp.toList.length := by
  rw [stamp_eq_layOut first, stamp_eq_layOut second]
  exact Text.length_layOut (fits_year_numbers first) (fits_year_numbers second)

/-- **A stamp tells the second of its time**, in whatever year, and nothing else. -/
theorem stamp_eq_iff : t.stamp = u.stamp ↔
    t.settled.seconds = u.settled.seconds ∧ t.settled.isLeap = u.settled.isLeap := by
  have stamp (v : Instant) :
      v.stamp.toList = (Calendar.yearText v.date.year ++ "_").toList ++ v.dayStamp.toList := by
    rw [← String.toList_append, stamp, dayStamp]
    simp only [String.append_assoc]
  constructor
  · intro h
    have chars := congrArg String.toList h
    rw [stamp, stamp] at chars
    -- what follows the year has the same length in all stamps
    obtain ⟨year, rest⟩ := List.append_inj' chars (t.length_dayStamp.trans u.length_dayStamp.symm)
    have years := (String.append_left_inj _).1 (String.toList_injective year)
    have layouts := String.toList_injective rest
    rw [dayStamp_eq_layOut, dayStamp_eq_layOut] at layouts
    exact eq_of_numbers (Calendar.yearText_inj years)
      (Text.layOut_inj t.fits_numbers u.fits_numbers layouts)
  · rintro ⟨seconds, leap⟩
    obtain ⟨date, numbers⟩ := numbers_congr seconds leap
    refine String.toList_injective ?_
    rw [stamp, stamp, dayStamp_eq_layOut, dayStamp_eq_layOut, date, numbers]

/-- **Moving forward from a leap second within a minute repeats its stamp.** -/
theorem stamp_eq_of_not_isRegular (irregular : ¬ t.IsRegular) (next : t.later? 1 = some u) :
    t.stamp = u.stamp := by
  have leap := isLeap_of_later? Nat.one_ne_zero next
  rw [stamp_eq_iff, seconds_settled_of_not irregular, settled_of_isRegular (isRegular_of_isLeap leap),
    seconds_of_later? next, leap]
  refine ⟨rfl, Bool.eq_false_iff.2 fun settled => ?_⟩
  exact irregular fun _ => (isLeap_settled_iff.1 settled).2

end Instant

/-! ## Names -/

/-- Texts compare by their first characters if these differ. -/
theorem lt_of_head?_lt {cs ds : List Char} {c d : Char} (first : cs.head? = some c)
    (second : ds.head? = some d) (h : c < d) : cs < ds := by
  obtain ⟨cs, rfl⟩ := List.head?_eq_some_iff.1 first
  obtain ⟨ds, rfl⟩ := List.head?_eq_some_iff.1 second
  exact List.cons_lt_cons_iff.2 (.inl h)

/-- Of two artifacts of an alteration the one that comes first is also named before the
other, unless columns are modified and then dropped. -/
theorem ArtifactKind.slug_lt {a b : ArtifactKind}
    (order : [a, b].Sublist [.addColumns, .modifyColumns, .dropColumns])
    (other : [a, b] ≠ [.modifyColumns, .dropColumns]) (table : String) :
    (a.slug table).toList < (b.slug table).toList := by
  -- what is left is an artifact that adds columns and another one
  have letters : a.verb.toList.head? = some 'a' ∧
      (b.verb.toList.head? = some 'm' ∨ b.verb.toList.head? = some 'd') := by
    revert order other
    cases a <;> cases b <;> decide
  rw [← a.head?_slug table, ← b.head?_slug table] at letters
  obtain ⟨add, modify | drop⟩ := letters
  · exact lt_of_head?_lt add modify (by decide)
  · exact lt_of_head?_lt add drop (by decide)

/-- These two are named the other way round. -/
theorem ArtifactKind.slug_drop_lt_slug_modify (table : String) :
    (dropColumns.slug table).toList < (modifyColumns.slug table).toList := by
  refine lt_of_head?_lt (c := 'd') (d := 'm') ?_ ?_ (by decide)
  · exact head?_slug dropColumns table
  · exact head?_slug modifyColumns table

namespace Artifact

variable {a b : Artifact}

/-- The name of the later of two artifacts is the greater one, whatever their tables. -/
theorem name_lt (first : a.createdAt.IsCommon) (second : b.createdAt.IsCommon)
    (h : a.createdAt.settled.seconds < b.createdAt.settled.seconds) :
    Text.octets a.name < Text.octets b.name := by
  refine Text.octets_lt ?_
  simp only [name, String.append_assoc, String.toList_append]
  exact append_lt_append (Instant.length_stamp first second) (Instant.stamp_lt first second h) _ _

/-- Names of one stamp compare as what follows it. -/
theorem name_lt_of_stamp (same : a.createdAt.stamp = b.createdAt.stamp)
    (h : a.slug.toList < b.slug.toList) : Text.octets a.name < Text.octets b.name := by
  refine Text.octets_lt ?_
  simp only [name, same, String.toList_append, List.append_assoc]
  exact List.append_left_lt (List.append_left_lt h)

/-- So of two artifacts of an alteration that have one stamp, the names are in order unless
columns are modified and then dropped. -/
theorem name_lt_iff_of_stamp (order :
      [a.kind, b.kind].Sublist [.addColumns, .modifyColumns, .dropColumns])
    (table : a.table = b.table) (same : a.createdAt.stamp = b.createdAt.stamp) :
    Text.octets a.name < Text.octets b.name ↔
      [a.kind, b.kind] ≠ [.modifyColumns, .dropColumns] := by
  constructor
  · intro less other
    obtain ⟨modify, drop⟩ : a.kind = .modifyColumns ∧ b.kind = .dropColumns := by
      simpa using other
    have after : b.slug.toList < a.slug.toList := by
      rw [slug, slug, modify, drop, table]
      exact ArtifactKind.slug_drop_lt_slug_modify b.table
    exact List.lt_asymm less (name_lt_of_stamp same.symm after)
  · intro other
    refine name_lt_of_stamp same ?_
    rw [slug, slug, table]
    exact ArtifactKind.slug_lt order other b.table

/-- The same for all artifacts of an alteration: only the first two can have one stamp. -/
theorem pairwise_names_iff_of_stamp {others : List Artifact}
    (order : ((a :: b :: others).map kind).Sublist [.addColumns, .modifyColumns, .dropColumns])
    (table : a.table = b.table) (same : a.createdAt.stamp = b.createdAt.stamp)
    (first : ∀ c ∈ others, Text.octets a.name < Text.octets c.name)
    (rest : (b :: others).Pairwise fun c d => Text.octets c.name < Text.octets d.name) :
    (a :: b :: others).Pairwise (fun c d => Text.octets c.name < Text.octets d.name) ↔
      (a :: b :: others).map kind ≠ [.modifyColumns, .dropColumns] := by
  have two : [a.kind, b.kind].Sublist [.addColumns, .modifyColumns, .dropColumns] :=
    (((List.nil_sublist _).cons_cons b.kind).cons_cons a.kind).trans order
  rw [List.pairwise_cons, and_iff_left rest, List.forall_mem_cons, and_iff_left first,
    name_lt_iff_of_stamp two table same, not_iff_not]
  -- nothing comes after a removal of columns
  constructor
  · intro last
    obtain ⟨modify, drop⟩ : a.kind = .modifyColumns ∧ b.kind = .dropColumns := by
      simpa using last
    rw [List.map_cons, List.map_cons, modify, drop] at order
    have few := (order.of_cons_of_ne ArtifactKind.noConfusion).length_le
    have none : others = [] := by
      simpa using few
    rw [none, List.map_cons, List.map_singleton, modify, drop]
  · intro last
    simp only [List.map_cons, List.cons.injEq] at last
    rw [last.1, last.2.1]

/-- **A name tells the second, the kind and the table**, and nothing else. -/
theorem name_eq_iff : a.name = b.name ↔
    (a.createdAt.settled.seconds = b.createdAt.settled.seconds ∧
      a.createdAt.settled.isLeap = b.createdAt.settled.isLeap) ∧ a.kind = b.kind ∧
        a.table = b.table := by
  rw [← Instant.stamp_eq_iff]
  refine ⟨eq_of_name, ?_⟩
  rintro ⟨stamp, kind, table⟩
  rw [name, name, slug, slug, stamp, kind, table]

end Artifact

namespace TableDiff

variable {diff : TableDiff} {decl : TableDecl} {now : Instant} {table : String}
  {bodies : List ArtifactBody} {artifacts : List Artifact}

/-- Either the only artifact creates the table, or there is at most one artifact of each of
the other kinds, and they come in this order. -/
theorem kinds_of_artifacts (made : diff.artifacts decl now = .ok artifacts) :
    artifacts.map Artifact.kind = [.create] ∨
      (artifacts.map Artifact.kind).Sublist [.addColumns, .modifyColumns, .dropColumns] := by
  obtain ⟨ordered, -⟩ := of_artifacts made
  rw [Artifact.map_kind]
  cases action : diff.tableAction with
  | create implicitKey =>
    rw [TableDiff.bodies, action] at ordered
    obtain ⟨body, created, one⟩ := bind_eq_ok_iff.1 ordered
    obtain ⟨specs, -, rest⟩ := bind_eq_ok_iff.1 created
    cases rest
    rw [← Except.ok.inj one]
    exact .inl rfl
  | alter =>
    obtain ⟨specs, same, -⟩ := exists_specs_of_alter action ordered
    rw [same]
    exact .inr specs.kinds_sublist

/-- Artifacts are made one second apart. -/
theorem seconds_of_dated {n : Nat} (h : dated table now n bodies = .ok artifacts) :
    artifacts.map (fun a => a.createdAt.seconds) =
      (List.range' n bodies.length).map fun k : Nat => now.seconds + k := by
  induction bodies generalizing n artifacts with
  | nil =>
    cases h
    rfl
  | cons body rest ih =>
    obtain ⟨time, later, dates, tail, rfl⟩ := dated_cons_eq_ok_iff.1 h
    rw [List.map_cons, List.length_cons, List.range'_succ, List.map_cons, ih tail,
      Instant.seconds_of_later? dates]

/-- The artifacts of a comparison come in the order of their times. -/
theorem pairwise_seconds {n : Nat} (h : dated table now n bodies = .ok artifacts) :
    artifacts.Pairwise fun a b => a.createdAt.seconds < b.createdAt.seconds := by
  have ascending : ((List.range' n bodies.length).map fun k : Nat => now.seconds + k).Pairwise
      (· < ·) := by
    refine List.pairwise_map.2 (List.Pairwise.imp (fun less => ?_) List.pairwise_lt_range')
    exact Int.add_lt_add_left (Int.ofNat_lt.2 less) now.seconds
  rw [← seconds_of_dated h] at ascending
  exact List.pairwise_map.1 ascending

/-- Made at regular times, they come in the order of their names as well. -/
theorem pairwise_names_of_isRegular {n : Nat} (h : dated table now n bodies = .ok artifacts)
    (common : ∀ a ∈ artifacts, a.createdAt.IsCommon)
    (regular : ∀ a ∈ artifacts, a.createdAt.IsRegular) :
    artifacts.Pairwise fun a b => Text.octets a.name < Text.octets b.name := by
  refine (pairwise_seconds h).imp_of_mem fun {a b} ha hb earlier => ?_
  rw [← Instant.settled_of_isRegular (regular a ha),
    ← Instant.settled_of_isRegular (regular b hb)] at earlier
  exact Artifact.name_lt (common a ha) (common b hb) earlier

/-- All artifacts of a comparison but the first are made at regular times. -/
theorem isRegular_of_dated {n : Nat} (start : n ≠ 0 ∨ now.IsRegular)
    (h : dated table now n bodies = .ok artifacts) :
    ∀ a ∈ artifacts, a.createdAt.IsRegular := by
  intro a ha
  obtain ⟨m, later, dates⟩ := later?_of_dated h a ha
  by_cases moved : m = 0
  · rw [moved, Instant.later?, if_pos rfl] at dates
    rw [← Option.some.inj dates]
    exact start.resolve_left fun moved' => moved' (by omega)
  · exact Instant.isRegular_of_isLeap (Instant.isLeap_of_later? moved dates)

/-- **Within a minute a leap second is left for a second that is written as it is.** The
first two artifacts then have the same stamp, and all names are in order unless the words
of these two are not: those for a modification and a removal of columns. -/
theorem pairwise_names_iff_of_not_isRegular (made : diff.artifacts decl now = .ok artifacts)
    (common : ∀ a ∈ artifacts, a.createdAt.IsCommon) (irregular : ¬ now.IsRegular) :
    (artifacts.Pairwise fun a b => Text.octets a.name < Text.octets b.name) ↔
      artifacts.map Artifact.kind ≠ [.modifyColumns, .dropColumns] := by
  obtain ⟨bodies, -, dated⟩ := bind_eq_ok_iff.1 made
  have kinds := kinds_of_artifacts made
  match bodies with
  | [] =>
    cases dated
    exact iff_of_true .nil (by decide)
  | [body] =>
    obtain ⟨time, later, -, tail, rfl⟩ := dated_cons_eq_ok_iff.1 dated
    cases tail
    exact iff_of_true (List.pairwise_singleton _ _) (by simp)
  | body :: second :: rest =>
    obtain ⟨time, later, dates, tail, rfl⟩ := dated_cons_eq_ok_iff.1 dated
    cases dates
    have regular := isRegular_of_dated (.inl Nat.one_ne_zero) tail
    have seconds := pairwise_seconds tail
    obtain ⟨first, later⟩ := List.forall_mem_cons.1 common
    have names := pairwise_names_of_isRegular tail later regular
    obtain ⟨next, others, dates, made, rfl⟩ := dated_cons_eq_ok_iff.1 tail
    refine Artifact.pairwise_names_iff_of_stamp ?_ rfl ?_ (fun c hc => ?_) names
    · exact kinds.resolve_left (by simp)
    · exact Instant.stamp_eq_of_not_isRegular irregular dates
    · refine Artifact.name_lt first (later c (.tail _ hc)) ?_
      have after := (List.pairwise_cons.1 seconds).1 c hc
      rw [Instant.settled_of_isRegular (regular c (.tail _ hc))]
      rw [Instant.seconds_of_later? dates] at after
      exact Int.lt_of_le_of_lt (Int.le_of_eq (Instant.seconds_settled_of_not irregular)) after

end TableDiff

/-- **The names of artifacts are in the order of their making.** The names of the artifacts
of a comparison ascend octet by octet, at whatever time they are made, as long as the years
have four digits. The one exception is a comparison that modifies columns, drops others and
adds none, in a leap second within a minute: the two artifacts then have the same stamp. A
name, of whatever year, belongs to one second as it is written, one kind and one table. -/
theorem names_ascend_in_emission_order {diff : TableDiff} {decl : TableDecl} {now : Instant}
    {artifacts : List Artifact} (made : diff.artifacts decl now = .ok artifacts)
    (common : ∀ a ∈ artifacts, a.createdAt.IsCommon) :
    ((artifacts.map fun a => Text.octets a.name).Pairwise (· < ·) ↔
      (now.IsRegular ∨ artifacts.map Artifact.kind ≠ [.modifyColumns, .dropColumns])) ∧
    ∀ a b : Artifact, a.name = b.name ↔
      (a.createdAt.settled.seconds = b.createdAt.settled.seconds ∧
        a.createdAt.settled.isLeap = b.createdAt.settled.isLeap) ∧
      a.kind = b.kind ∧ a.table = b.table := by
  refine ⟨?_, fun a b => Artifact.name_eq_iff⟩
  rw [List.pairwise_map]
  by_cases regular : now.IsRegular
  · obtain ⟨bodies, -, dated⟩ := bind_eq_ok_iff.1 made
    refine iff_of_true (TableDiff.pairwise_names_of_isRegular dated common ?_) (.inl regular)
    exact TableDiff.isRegular_of_dated (.inr regular) dated
  · rw [TableDiff.pairwise_names_iff_of_not_isRegular made common regular, or_iff_right regular]

/-- The artifacts of a comparison, found by making them. -/
theorem TableDiff.exists_named (diff : TableDiff) (decl : TableDecl) (now : Instant)
    (names : List String) (check : (diff.artifacts decl now).toOption.any (fun artifacts =>
      artifacts.map (fun a => a.name) == names &&
        artifacts.all fun a => decide a.createdAt.IsCommon) = true) :
    ∃ artifacts, diff.artifacts decl now = .ok artifacts ∧
      artifacts.map (fun a => a.name) = names ∧ ∀ a ∈ artifacts, a.createdAt.IsCommon := by
  obtain ⟨artifacts, made, rest⟩ := exists_eq_ok_of_any check
  obtain ⟨same, common⟩ := Bool.and_eq_true_iff.1 rest
  refine ⟨artifacts, made, eq_of_beq same, fun a ha => ?_⟩
  exact of_decide_eq_true (List.all_eq_true.1 common a ha)

namespace NewYearOrders

/-- The leap second at the end of 2016. -/
def now : Instant := ⟨1483228799, 1000000000, by decide, by decide⟩

/-- Orders with three columns. -/
def decl : TableDecl where
  name := "orders"
  columns := [.new "total" .integer, .new "note" .text,
    (ColumnDecl.new "weight" .float).withFlag "drop"]
  flags := ⟨false, false⟩
  indexes := []

/-- One column is new, one has another type, and one goes. -/
def diff : TableDiff where
  table := "orders"
  tableAction := .alter
  changes := [⟨"total", .new (.new "total" .integer)⟩,
    ⟨"note", .modified (.new "note" .text) "integer" false⟩,
    ⟨"weight", .dropped (.new "weight" .float) none false⟩]
  warnings := []

/-- The names of the three artifacts. -/
def names : List String :=
  ["2016_12_31_235960_add_columns_to_orders_table",
    "2017_01_01_000000_modify_columns_in_orders_table",
    "2017_01_01_000001_drop_columns_from_orders_table"]

end NewYearOrders

/-- Made within the leap second that ends a year, the artifacts still come in their order. -/
theorem names_ascend_in_emission_order_new_year :
    ∃ artifacts, NewYearOrders.diff.artifacts NewYearOrders.decl NewYearOrders.now = .ok artifacts ∧
      artifacts.map (fun a => a.name) = NewYearOrders.names ∧
      (NewYearOrders.names.map Text.octets).Pairwise (· < ·) := by
  obtain ⟨artifacts, made, names, common⟩ :=
    NewYearOrders.diff.exists_named NewYearOrders.decl NewYearOrders.now NewYearOrders.names
      (by decide)
  have ascending := (names_ascend_in_emission_order made common).1.2 (.inl (by decide))
  rw [← names, List.map_map]
  exact ⟨artifacts, made, rfl, ascending⟩

namespace HalfMinuteOrders

/-- A leap second after second 30 of a minute. -/
def now : Instant := ⟨1714564830, 1500000000, by decide, by decide⟩

/-- The moment half a second into second 31. -/
def next : Instant := ⟨1714564831, 500000000, by decide, by decide⟩

/-- Orders with a column of another type and one that goes. -/
def diff : TableDiff where
  table := "orders"
  tableAction := .alter
  changes := [⟨"note", .modified (.new "note" .text) "integer" false⟩,
    ⟨"weight", .dropped (.new "weight" .float) none false⟩]
  warnings := []

/-- The names of the two artifacts, in the order in which they are made. -/
def names : List String :=
  ["2024_05_01_120031_modify_columns_in_orders_table",
    "2024_05_01_120031_drop_columns_from_orders_table"]

end HalfMinuteOrders

/-- **Within a minute a leap second is not left.** The second after it is written with the
same stamp; so the artifact that is made later is listed first, and one name stands for two
seconds. -/
theorem leap_second_within_a_minute_is_repeated :
    (∃ artifacts, HalfMinuteOrders.diff.artifacts NewYearOrders.decl HalfMinuteOrders.now =
        .ok artifacts ∧
      artifacts.map (fun a => a.name) = HalfMinuteOrders.names ∧
      (∀ a ∈ artifacts, a.createdAt.IsCommon) ∧
      ¬ (artifacts.map fun a => Text.octets a.name).Pairwise (· < ·)) ∧
    ∃ a b : Artifact, a.createdAt = HalfMinuteOrders.now ∧ b.createdAt = HalfMinuteOrders.next ∧
      a.name = b.name ∧ a.createdAt.seconds ≠ b.createdAt.seconds := by
  obtain ⟨artifacts, made, names, common⟩ :=
    HalfMinuteOrders.diff.exists_named NewYearOrders.decl HalfMinuteOrders.now
      HalfMinuteOrders.names (by decide)
  refine ⟨⟨artifacts, made, names, common, ?_⟩, ?_⟩
  · have octets : artifacts.map (fun a => Text.octets a.name) =
        HalfMinuteOrders.names.map Text.octets := by
      rw [← names, List.map_map]
      rfl
    rw [octets]
    decide
  · exact ⟨⟨.create, "orders", HalfMinuteOrders.now, [], []⟩,
      ⟨.create, "orders", HalfMinuteOrders.next, [], []⟩, rfl, rfl, by decide, by decide⟩

end SchemaPlan
