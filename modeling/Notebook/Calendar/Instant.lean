import Notebook.Calendar.Day
import Notebook.Number.Notation

/-!
# Instants

A `Notebook.Calendar.Instant` is a point in coordinated universal time: a day, a second of that day,
and nanoseconds. A leap second is the last second of a minute with a second's worth of nanoseconds
more, so that it comes after every other moment of its minute and before the next minute.

Three texts are written: the cell text `Notebook.Calendar.Instant.text` of a date in a result, a day
and, unless it is midnight, the minute; and the two exact texts that differ in how they name the
offset, `Notebook.Calendar.Instant.offsetText` and `Notebook.Calendar.Instant.zuluText`.
-/

namespace Notebook.Calendar

open Number (padded digitsOf)

/-- That a second of the day and nanoseconds **name a moment** of a day. -/
def IsMoment (second nano : Nat) : Prop :=
  second < 86400 ∧ nano < 2000000000 ∧ (1000000000 ≤ nano → second % 60 = 59)

instance (second nano : Nat) : Decidable (IsMoment second nano) :=
  inferInstanceAs (Decidable (_ ∧ _ ∧ (_ → _)))

/-- **An instant** of coordinated universal time. -/
structure Instant where
  /-- The day. -/
  day : Day
  /-- The second of the day. -/
  second : Nat
  /-- The nanoseconds; from `10 ^ 9` on, those of a leap second. -/
  nano : Nat
  /-- There is such a moment of the day. -/
  isMoment : IsMoment second nano
  deriving DecidableEq

namespace Instant

/-- The instant at a moment of a day, if there is one. -/
def ofMoment? (day : Day) (second nano : Nat) : Option Instant :=
  if h : IsMoment second nano then some ⟨day, second, nano, h⟩ else none

/-- The order of instants in time. -/
def order (t u : Instant) : Ordering :=
  (t.day.order u.day).then ((compare t.second u.second).then (compare t.nano u.nano))

/-! ### Texts -/

/-- A year in four digits; outside of those a year has a sign. -/
def yearText (year : Int) : String :=
  if 0 ≤ year ∧ year ≤ 9999 then padded 4 year.natAbs
  else (if year < 0 then "-" else "+") ++ padded 4 year.natAbs

/-- A day as year, month and day of the month. -/
def dayText (d : Day) : String :=
  yearText d.year ++ "-" ++ padded 2 d.month ++ "-" ++ padded 2 d.day

/-- The hour and the minute of a second of the day. -/
def minuteText (second : Nat) : String :=
  padded 2 (second / 3600) ++ ":" ++ padded 2 (second / 60 % 60)

/-- **The text of an instant in a result**: the day alone for midnight, else the day and the
minute. -/
def text (t : Instant) : String :=
  if t.second = 0 ∧ t.nano = 0 then dayText t.day
  else dayText t.day ++ " " ++ minuteText t.second

/-- Nanoseconds as the fraction of a second, in three, six or nine places, the fewest that lose
nothing, and none for zero. -/
def fractionText (nano : Nat) : String :=
  if nano = 0 then ""
  else if nano % 1000000 = 0 then "." ++ padded 3 (nano / 1000000)
  else if nano % 1000 = 0 then "." ++ padded 6 (nano / 1000)
  else "." ++ padded 9 nano

/-- The exact text of an instant without the offset. A leap second has the number 60. -/
def exactText (t : Instant) : String :=
  dayText t.day ++ "T" ++ minuteText t.second ++ ":" ++
    padded 2 (t.second % 60 + t.nano / 1000000000) ++ fractionText (t.nano % 1000000000)

/-- The exact text of an instant with its offset in hours and minutes. -/
def offsetText (t : Instant) : String := t.exactText ++ "+00:00"

/-- The exact text of an instant with the letter for universal time. -/
def zuluText (t : Instant) : String := t.exactText ++ "Z"

end Instant

end Notebook.Calendar
