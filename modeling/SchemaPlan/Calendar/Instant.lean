import SchemaPlan.Calendar.Date

/-!
# Instants

A point in time is a number of seconds since the beginning of 1970 and a
fraction of a second, within the years from -262143 to 262142. The fraction
may be a whole second or more: it then denotes a leap second, the one inserted
after the second that is counted, and the time is written with one second more
than is counted. After the last second of a minute, where calendars put leap
seconds, this is second 60. But the fraction may be that large in any second
of a minute, and then the leap second is written as the second that follows.

Moving forward leaves a leap second at its start: a leap second and the second
before it have the same successor. It is the first second of the next minute
after second 60, and otherwise the one that is written as the leap second is.
-/

namespace SchemaPlan

/-- A point in time. Its bounds are part of it, and a leap second may be in any
second of a minute, whether or not a calendar has one there. -/
structure Instant where
  /-- Seconds since the beginning of 1970. -/
  seconds : Int
  /-- Billionths of a second. -/
  nanos : Nat
  /-- The second is one that can be represented. -/
  representable : -8334601228800 ≤ seconds ∧ seconds ≤ 8210266876799
  /-- The fraction is below two seconds, and in a leap second not below one. -/
  fraction : nanos < 2000000000
deriving DecidableEq

namespace Instant

/-- The instant of a number of seconds and billionths of a second, if there
is one. A leap second is only read where calendars put one, after the last
second of a minute, although there are instants with others. -/
def ofUnix? (seconds : Int) (nanos : Nat) : Option Instant :=
  if representable : -8334601228800 ≤ seconds ∧ seconds ≤ 8210266876799 then
    if fraction : nanos < 1000000000 ∨ nanos < 2000000000 ∧ seconds % 60 = 59 then
      some ⟨seconds, nanos, representable, by omega⟩
    else
      none
  else
    none

/-- Whether the instant is in a leap second. -/
def isLeap (t : Instant) : Bool :=
  1000000000 ≤ t.nanos

/-- The billionths of a second within the second, which in a leap second are
counted from its own beginning. -/
def subsecond (t : Instant) : Nat :=
  if t.isLeap then t.nanos - 1000000000 else t.nanos

/-- The instant so many seconds later, if it can be represented. Only in the
second of the instant itself, when it is not moved at all, does a leap second
stay one. -/
def later? (t : Instant) (seconds : Nat) : Option Instant :=
  if seconds = 0 then some t else ofUnix? (t.seconds + seconds) t.subsecond

/-! ## Writing -/

/-- The date of an instant. A leap second is of the day of the second before
it. -/
def date (t : Instant) : Calendar.Date :=
  Calendar.Date.ofDay (t.seconds / 86400 + 719162)

/-- The second of the day, from 0. A leap second counts as the one before
it. -/
def secondOfDay (t : Instant) : Nat :=
  (t.seconds % 86400).toNat

/-- The hour of the day, from 0. -/
def hour (t : Instant) : Nat :=
  t.secondOfDay / 3600

/-- The minute of the hour, from 0. -/
def minute (t : Instant) : Nat :=
  t.secondOfDay / 60 % 60

/-- The second of the minute, from 0, and one more in a leap second; so it is
60 in the leap second after a minute. -/
def second (t : Instant) : Nat :=
  t.secondOfDay % 60 + if t.isLeap then 1 else 0

/-- The instant to the second, as it begins the name of a migration. -/
def stamp (t : Instant) : String :=
  Calendar.yearText t.date.year ++ "_" ++ Text.padded 2 t.date.month ++ "_" ++
    Text.padded 2 t.date.day ++ "_" ++ Text.padded 2 t.hour ++ Text.padded 2 t.minute ++
    Text.padded 2 t.second

/-- The fraction of a second in digits after a point: none, three, six or
nine of them, the fewest that lose nothing. -/
def fractionText (nanos : Nat) : String :=
  if nanos = 0 then ""
  else if nanos % 1000000 = 0 then "." ++ Text.padded 3 (nanos / 1000000)
  else if nanos % 1000 = 0 then "." ++ Text.padded 6 (nanos / 1000)
  else "." ++ Text.padded 9 nanos

/-- The instant in the form that timestamps have on the internet, for the
zone without offset. -/
def timestamp (t : Instant) : String :=
  Calendar.yearText t.date.year ++ "-" ++ Text.padded 2 t.date.month ++ "-" ++
    Text.padded 2 t.date.day ++ "T" ++ Text.padded 2 t.hour ++ ":" ++ Text.padded 2 t.minute ++
    ":" ++ Text.padded 2 t.second ++ fractionText t.subsecond ++ "Z"

end Instant

end SchemaPlan
