/-!
# Days of the calendar

Days of the Gregorian calendar, carried back before its introduction, with a year zero and negative
years before it. Years reach from -262143 to 262142. A `Notebook.Calendar.Day` is held by its year,
month and day of the month, and holds the proof that there is such a day; days are ordered by these
three in turn.
-/

namespace Notebook.Calendar

/-- Whether a year has a 29th of February. -/
def isLeapYear (year : Int) : Bool := year % 4 == 0 && (year % 100 != 0 || year % 400 == 0)

/-- The count of days of a month. -/
def daysInMonth (year : Int) (month : Nat) : Nat :=
  match month with
  | 2 => if isLeapYear year then 29 else 28
  | 4 | 6 | 9 | 11 => 30
  | _ => 31

/-- The first year of the calendar. -/
def firstYear : Int := -262143

/-- The last year of the calendar. -/
def lastYear : Int := 262142

/-- That a year, a month and a day of the month **name a day**. -/
def IsDay (year : Int) (month day : Nat) : Prop :=
  firstYear ≤ year ∧ year ≤ lastYear ∧ 1 ≤ month ∧ month ≤ 12 ∧
    1 ≤ day ∧ day ≤ daysInMonth year month

instance (year : Int) (month day : Nat) : Decidable (IsDay year month day) :=
  inferInstanceAs (Decidable (_ ∧ _ ∧ _ ∧ _ ∧ _ ∧ _))

/-- **A day** of the calendar. -/
structure Day where
  /-- The year; the year before the year 1 is the year 0. -/
  year : Int
  /-- The month, from 1. -/
  month : Nat
  /-- The day of the month, from 1. -/
  day : Nat
  /-- There is such a day. -/
  isDay : IsDay year month day
  deriving DecidableEq

namespace Day

/-- The day with a year, month and day of the month, if there is one. -/
def ofCivil? (year : Int) (month day : Nat) : Option Day :=
  if h : IsDay year month day then some ⟨year, month, day, h⟩ else none

/-- The day before, if the calendar reaches so far. -/
def previous? (d : Day) : Option Day :=
  if 1 < d.day then ofCivil? d.year d.month (d.day - 1)
  else if 1 < d.month then ofCivil? d.year (d.month - 1) (daysInMonth d.year (d.month - 1))
  else ofCivil? (d.year - 1) 12 31

/-- The day after, if the calendar reaches so far. -/
def next? (d : Day) : Option Day :=
  if d.day < daysInMonth d.year d.month then ofCivil? d.year d.month (d.day + 1)
  else if d.month < 12 then ofCivil? d.year (d.month + 1) 1
  else ofCivil? (d.year + 1) 1 1

/-- The order of days in time. -/
def order (d e : Day) : Ordering :=
  (compare d.year e.year).then ((compare d.month e.month).then (compare d.day e.day))

end Day

end Notebook.Calendar
