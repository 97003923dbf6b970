import SchemaPlan.Calendar.Instant

/-!
# The numbers of a time ascend

A time is written as its date and its time of day. Read as numbers from left to right,
the ones of the later of two times are the greater ones (`Instant.precedes_of_seconds_lt`).

For the date this rests on the year that is found for a day: the day is in it, neither
before its first nor after its last day. Within a year it does not matter how long the
months are, only that a day that comes later is not in an earlier month. For the time of
day the leap second needs care. Where a minute ends it is written as second 60, so that
the minute is still the old one, and what comes after it has another minute: numbers of
such a time are those of no other second. A leap second anywhere else is written as the
second that follows it, and so it is taken for that second (`Instant.settled`). Up to this
the numbers of a time tell its second (`Instant.eq_of_numbers`).
-/

namespace SchemaPlan

namespace Calendar

/-! ## Years -/

/-- A day is not before the first day of its year. The search for the year
starts from an estimate that is off by a day or two, and this is where it is
seen to be corrected. -/
theorem daysBeforeYear_yearOfDay_le (day : Int) : daysBeforeYear (yearOfDay day) ≤ day := by
  unfold yearOfDay
  dsimp only
  split
  · assumption
  · unfold daysBeforeYear
    omega

/-- And it is before the first day of the next, so that the year of a day is
determined. -/
theorem lt_daysBeforeYear_succ (day : Int) : day < daysBeforeYear (yearOfDay day + 1) := by
  unfold yearOfDay
  dsimp only
  split
  · unfold daysBeforeYear
    omega
  · rename_i before
    exact Int.not_le.1 before

theorem daysBeforeYear_mono {first later : Int} (h : first ≤ later) :
    daysBeforeYear first ≤ daysBeforeYear later := by
  unfold daysBeforeYear
  omega

/-- Years ascend with days, since a later day of an earlier year would lie
before itself. -/
theorem yearOfDay_mono {first later : Int} (h : first ≤ later) :
    yearOfDay first ≤ yearOfDay later := by
  refine Int.not_lt.1 fun after => ?_
  have years := daysBeforeYear_mono (Int.add_one_le_iff.2 after)
  have low := daysBeforeYear_yearOfDay_le first
  have high := lt_daysBeforeYear_succ later
  omega

/-! ## Months and days -/

theorem le_fst_monthAndDay (month : Nat) (lengths : List Nat) (days : Nat) :
    month ≤ (monthAndDay month lengths days).1 := by
  induction lengths generalizing month days with
  | nil => exact Nat.le_refl month
  | cons length later ih =>
    rw [monthAndDay]
    split
    · exact Nat.le_refl month
    · exact Nat.le_of_succ_le (ih (month + 1) (days - length))

/-- Months ascend with days, and within a month the days of the month do; the
induction is on the lengths of the months, as the search is. -/
theorem monthAndDay_lt (month : Nat) (lengths : List Nat) {first later : Nat} (h : first < later) :
    (monthAndDay month lengths first).1 < (monthAndDay month lengths later).1 ∨
      (monthAndDay month lengths first).1 = (monthAndDay month lengths later).1 ∧
        (monthAndDay month lengths first).2 < (monthAndDay month lengths later).2 := by
  induction lengths generalizing month first later with
  | nil => exact .inr ⟨rfl, Nat.succ_lt_succ h⟩
  | cons length rest ih =>
    rw [monthAndDay, monthAndDay]
    by_cases within : later < length
    · rw [if_pos (Nat.lt_trans h within), if_pos within]
      exact .inr ⟨rfl, Nat.succ_lt_succ h⟩
    · rw [if_neg within]
      split
      · exact .inl (le_fst_monthAndDay (month + 1) rest (later - length))
      · exact ih (month + 1) (by omega)

/-- The numbers of a date after its year. -/
def Date.numbers (date : Date) : List Nat :=
  [date.month, date.day]

/-- **Dates ascend with days**: the year, and within a year the numbers after it. -/
theorem ofDay_lt {first later : Int} (h : first < later) :
    (Date.ofDay first).year < (Date.ofDay later).year ∨
      (Date.ofDay first).year = (Date.ofDay later).year ∧
        (Date.ofDay first).numbers < (Date.ofDay later).numbers := by
  rcases Int.lt_or_eq_of_le (yearOfDay_mono (Int.le_of_lt h)) with before | same
  · exact .inl before
  · refine .inr ⟨same, ?_⟩
    have low := daysBeforeYear_yearOfDay_le first
    have within : (first - daysBeforeYear (yearOfDay first)).toNat <
        (later - daysBeforeYear (yearOfDay first)).toNat := by
      omega
    unfold Date.numbers Date.ofDay
    rw [← same, List.cons_lt_cons_iff, List.cons_lt_cons_iff]
    exact (monthAndDay_lt 1 (monthLengths (yearOfDay first)) within).imp_right
      (And.imp_right .inl)

end Calendar

namespace Instant

variable {t u : Instant}

/-! ## Leap seconds -/

/-- **A regular time**: if it is within a leap second, then after the last second of a
minute. All times that calendars know of are regular, and so is every time that comes from
another one by moving forward. -/
def IsRegular (t : Instant) : Prop :=
  t.isLeap = true → t.seconds % 60 = 59

instance : Decidable t.IsRegular :=
  inferInstanceAs (Decidable (_ → _))

theorem isRegular_of_isLeap (plain : t.isLeap = false) : t.IsRegular := fun leap =>
  absurd (plain.symm.trans leap) Bool.false_ne_true

/-- The regular time that is written as this one is. A leap second within a minute is
taken for the second that follows it, which has not begun by then, and which the same
numbers stand for. -/
def settled (t : Instant) : Instant :=
  if irregular : t.isLeap = true ∧ t.seconds % 60 ≠ 59 then
    { seconds := t.seconds + 1
      nanos := t.nanos - 1000000000
      representable := by have range := t.representable; omega
      fraction := by have fraction := t.fraction; omega }
  else
    t

theorem settled_of_isRegular (regular : t.IsRegular) : t.settled = t :=
  dif_neg fun irregular => irregular.2 (regular irregular.1)

theorem seconds_settled_of_not (irregular : ¬ t.IsRegular) :
    t.settled.seconds = t.seconds + 1 := by
  unfold IsRegular at irregular
  rw [Classical.not_imp] at irregular
  rw [settled, dif_pos irregular]

/-- Settling leaves no leap second within a minute. At the end of one it is
left, where it is written as second sixty. -/
theorem isLeap_settled_iff :
    t.settled.isLeap = true ↔ t.isLeap = true ∧ t.seconds % 60 = 59 := by
  by_cases irregular : t.isLeap = true ∧ t.seconds % 60 ≠ 59
  · have fraction := t.fraction
    rw [settled, dif_pos irregular, isLeap, decide_eq_true_iff]
    exact iff_of_false (by dsimp only; omega) fun last => irregular.2 last.2
  · have regular : t.IsRegular := fun leap => Classical.not_not.1 fun within =>
      irregular ⟨leap, within⟩
    rw [settled_of_isRegular regular]
    exact ⟨fun leap => ⟨leap, regular leap⟩, And.left⟩

/-- What is settled is regular, so settling a second time would change nothing.
-/
theorem isRegular_settled (t : Instant) : t.settled.IsRegular := by
  by_cases regular : t.IsRegular
  · rw [settled_of_isRegular regular]
    exact regular
  · exact fun leap => absurd (fun _ => (isLeap_settled_iff.1 leap).2) regular

/-! ## Moving forward -/

/-- Within a second, and within a leap second, there are less than a billion billionths. -/
theorem subsecond_lt (t : Instant) : t.subsecond < 1000000000 := by
  have fraction := t.fraction
  unfold subsecond isLeap
  split
  · omega
  · rename_i plain
    rw [decide_eq_true_iff] at plain
    omega

theorem seconds_of_later? {n : Nat} (h : t.later? n = some u) : u.seconds = t.seconds + n := by
  unfold later? at h
  split at h
  · rename_i zero
    cases h
    rw [zero, Int.natCast_zero, Int.add_zero]
  · unfold ofUnix? at h
    split at h
    · split at h
      · cases h
        rfl
      · cases h
    · cases h

/-- Moving forward leaves a leap second: the time moves on from the second, and
its fraction is that of an ordinary one. -/
theorem isLeap_of_later? {n : Nat} (moved : n ≠ 0) (h : t.later? n = some u) :
    u.isLeap = false := by
  rw [later?, if_neg moved, ofUnix?] at h
  split at h
  · split at h
    · cases h
      rw [isLeap, decide_eq_false_iff_not]
      exact Nat.not_le_of_lt t.subsecond_lt
    · cases h
  · cases h

/-! ## The time of day -/

/-- The numbers of a time of day. -/
def timeNumbers (t : Instant) : List Nat :=
  [t.hour, t.minute, t.second]

/-- Times of day ascend with the seconds of the day. The earlier of them has to be regular:
a leap second within a minute is written as the second after it. -/
theorem timeNumbers_lt (regular : t.IsRegular) (h : t.secondOfDay < u.secondOfDay) :
    t.timeNumbers < u.timeNumbers := by
  -- the last second of a minute is the only one that may be written as the next
  have last : t.second ≤ t.secondOfDay % 60 + 1 ∧
      (t.second = t.secondOfDay % 60 + 1 → t.secondOfDay % 60 = 59) := by
    unfold second
    split
    · rename_i leap
      have ends := regular leap
      refine ⟨Nat.le_refl _, fun _ => ?_⟩
      unfold secondOfDay
      omega
    · exact ⟨Nat.le_succ _, fun same => absurd same (by omega)⟩
  have next : u.secondOfDay % 60 ≤ u.second := Nat.le_add_right _ _
  unfold timeNumbers hour minute
  simp only [List.cons_lt_cons_iff, List.not_lt_nil, and_false, or_false]
  omega

/-! ## Whole times -/

/-- The numbers of a time after its year. -/
def numbers (t : Instant) : List Nat :=
  t.date.numbers ++ t.timeNumbers

/-- Within a minute a leap second is of the same day as the second after it,
since no day ends within a minute. -/
@[simp] theorem date_settled (t : Instant) : t.settled.date = t.date := by
  unfold settled
  split
  · have day : (t.seconds + 1) / 86400 = t.seconds / 86400 := by
      omega
    exact congrArg (fun day => Calendar.Date.ofDay (day + 719162)) day
  · rfl

/-- It has the same numbers as that second, which is why the two cannot be told
apart in print. -/
@[simp] theorem numbers_settled (t : Instant) : t.settled.numbers = t.numbers := by
  by_cases regular : t.IsRegular
  · rw [settled_of_isRegular regular]
  · have seconds := seconds_settled_of_not regular
    unfold IsRegular at regular
    rw [Classical.not_imp] at regular
    have plain : t.settled.isLeap = false :=
      Bool.eq_false_iff.2 fun leap => regular.2 (isLeap_settled_iff.1 leap).2
    have day : t.settled.secondOfDay = t.secondOfDay + 1 := by
      unfold secondOfDay
      omega
    have within : t.secondOfDay % 60 ≠ 59 := by
      unfold secondOfDay
      omega
    unfold numbers timeNumbers hour minute second
    rw [date_settled, day, plain, regular.1]
    simp only [if_true, Bool.false_eq_true, if_false, List.append_cancel_left_eq, List.cons.injEq,
      and_true]
    omega

/-- **A time is written before another one**: its year comes before, or it is the same and
the numbers after it come before. -/
def Precedes (t u : Instant) : Prop :=
  t.date.year < u.date.year ∨ t.date.year = u.date.year ∧ t.numbers < u.numbers

/-- **The earlier of two times is written before the other**, if it is regular.
The later one may be any time. -/
theorem precedes_of_seconds_lt (regular : t.IsRegular) (h : t.seconds < u.seconds) :
    t.Precedes u := by
  have days : t.seconds / 86400 + 719162 ≤ u.seconds / 86400 + 719162 := by
    omega
  rcases Int.lt_or_eq_of_le days with before | same
  · refine (Calendar.ofDay_lt before).imp_right (And.imp_right fun numbers => ?_)
    -- the dates have two numbers each, and they differ in one of these
    have dates : t.date.numbers < u.date.numbers := numbers
    unfold Calendar.Date.numbers at dates
    simp only [Instant.numbers, Calendar.Date.numbers, List.cons_append, List.nil_append]
    simp only [List.cons_lt_cons_iff, List.not_lt_nil, and_false, or_false] at dates ⊢
    rcases dates with month | ⟨month, day⟩
    · exact .inl month
    · exact .inr ⟨month, .inl day⟩
  · have date : t.date = u.date := congrArg Calendar.Date.ofDay same
    refine .inr ⟨congrArg Calendar.Date.year date, ?_⟩
    have within : t.secondOfDay < u.secondOfDay := by
      unfold secondOfDay
      omega
    rw [numbers, numbers, date]
    exact List.append_left_lt (timeNumbers_lt regular within)

/-- **What is written goes by the settled times**, whatever the times are. A
leap second within a minute is written as the second after it, and so precedes
what that second precedes. -/
theorem precedes_of_settled_lt (h : t.settled.seconds < u.settled.seconds) : t.Precedes u := by
  have settled := precedes_of_seconds_lt t.isRegular_settled h
  simpa only [Precedes, date_settled, numbers_settled] using settled

/-- **Times that are written with the same numbers are the same to the second**, once they
are settled. -/
theorem eq_of_numbers (year : t.date.year = u.date.year) (same : t.numbers = u.numbers) :
    t.settled.seconds = u.settled.seconds ∧ t.settled.isLeap = u.settled.isLeap := by
  have unordered {a b : Instant} (year : a.date.year = b.date.year)
      (same : a.numbers = b.numbers) : ¬ a.settled.seconds < b.settled.seconds := by
    intro before
    rcases precedes_of_settled_lt before with years | ⟨-, numbers⟩
    · exact Int.lt_irrefl _ (year ▸ years)
    · exact List.lt_irrefl _ (same ▸ numbers)
  have seconds : t.settled.seconds = u.settled.seconds :=
    Int.le_antisymm (Int.not_lt.1 (unordered year.symm same.symm)) (Int.not_lt.1 (unordered year same))
  refine ⟨seconds, ?_⟩
  rw [← numbers_settled t, ← numbers_settled u] at same
  have second : t.settled.second = u.settled.second := by
    unfold numbers timeNumbers Calendar.Date.numbers at same
    simp only [List.cons_append, List.nil_append, List.cons.injEq, and_true] at same
    exact same.2.2.2.2
  unfold Instant.second secondOfDay at second
  rw [seconds] at second
  cases ht : t.settled.isLeap <;> cases hu : u.settled.isLeap <;> simp [ht, hu] at second ⊢

/-- And the other way round: the second of a settled time, and whether it is a leap
second, are all that is written. -/
theorem numbers_congr (seconds : t.settled.seconds = u.settled.seconds)
    (leap : t.settled.isLeap = u.settled.isLeap) : t.date = u.date ∧ t.numbers = u.numbers := by
  have date : t.settled.date = u.settled.date := by
    unfold date
    rw [seconds]
  have numbers : t.settled.numbers = u.settled.numbers := by
    unfold numbers timeNumbers hour minute second secondOfDay
    rw [date, seconds, leap]
  simpa only [date_settled, numbers_settled] using And.intro date numbers

end Instant

end SchemaPlan
