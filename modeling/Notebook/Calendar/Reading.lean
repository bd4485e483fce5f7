import Notebook.Calendar.Instant
import Notebook.Text.Trim

/-!
# Reading instants

Texts that name an instant come in three strengths.

* The **internet form** `2024-05-01T09:30:00.5+02:00` has two digits in each part and an offset:
  `Notebook.Calendar.readInternet?`.
* The **relaxed form** is the same with white space around the parts and with parts of one digit:
  `Notebook.Calendar.readRelaxed?`. Time stamps in note files are read so.
* A **pattern** is a list of parts and separators without an offset, taken as universal time:
  `Notebook.Calendar.readPattern?`.

`Notebook.Calendar.readDate?` is what a query reads as a date: the internet form, else the first of
five patterns that fits.
-/

namespace Notebook.Calendar

/-! ### Parts -/

/-- The parts of a date and a time that have been read. -/
structure Parts where
  /-- The year. -/
  year : Int := 0
  /-- The month. -/
  month : Nat := 0
  /-- The day of the month. -/
  day : Nat := 0
  /-- The hour. -/
  hour : Nat := 0
  /-- The minute. -/
  minute : Nat := 0
  /-- The second; 60 for a leap second. -/
  second : Nat := 0
  /-- The nanoseconds. -/
  nano : Nat := 0

/-- The instant that parts name in local time, where local time is `offset` seconds ahead of
universal time. -/
def Parts.toInstant? (p : Parts) (offset : Int) : Option Instant := do
  guard (p.hour ≤ 23 ∧ p.minute ≤ 59 ∧ p.second ≤ 60)
  let day ← Day.ofCivil? p.year p.month p.day
  let leap := p.second = 60
  let nano := if leap then p.nano + 1000000000 else p.nano
  let second : Int := p.hour * 3600 + p.minute * 60 + (if leap then 59 else p.second) - offset
  if second < 0 then Instant.ofMoment? (← day.previous?) (second + 86400).toNat nano
  else if 86400 ≤ second then Instant.ofMoment? (← day.next?) (second - 86400).toNat nano
  else Instant.ofMoment? day second.toNat nano

/-- Reads at least `least` and at most `most` digits; without a bound, all that there are. -/
def readNumber? (least : Nat) (most : Option Nat) (s : List Char) : Option (Nat × List Char) :=
  let all := s.takeWhile Char.isDigit
  let digits := match most with
    | some n => all.take n
    | none => all
  if digits.length < least then none else some (Number.wholeOf digits, s.drop digits.length)

/-- Reads one given character. -/
def readChar? (c : Char) : List Char → Option (List Char)
  | d :: rest => if d = c then some rest else none
  | [] => none

/-- Reads a number of two digits. -/
def readTwo? (s : List Char) : Option (Nat × List Char) := readNumber? 2 (some 2) s

/-- Reads the fraction of a second after its point, at least one digit. Digits after the ninth are
dropped. -/
def readFraction? (s : List Char) : Option (Nat × List Char) :=
  let all := s.takeWhile Char.isDigit
  if all.isEmpty then none
  else
    let nine := all.take 9
    some (Number.wholeOf nine * Nat.pow 10 (9 - nine.length), s.drop all.length)

/-- Reads a fraction of a second if a point is next. -/
def readOptionalFraction? (p : Parts) : List Char → Option (Parts × List Char)
  | '.' :: rest => do
    let (nano, rest) ← readFraction? rest
    return ({ p with nano := nano }, rest)
  | s => some (p, s)

/-- Reads the character between a date and a time. -/
def readDivider? : List Char → Option (List Char)
  | c :: rest => if c = 'T' ∨ c = 't' ∨ c = ' ' then some rest else none
  | [] => none

/-! ### Offsets -/

/-- Reads a sign, a hyphen or the sign for minus being negative. -/
def readSign? : List Char → Option (Bool × List Char)
  | '+' :: rest => some (false, rest)
  | '-' :: rest => some (true, rest)
  | '−' :: rest => some (true, rest)
  | _ => none

/-- Reads an offset of hours and minutes below a day, in seconds; `readGap?` reads what stands
between the two. -/
def readHours? (readGap? : List Char → Option (List Char)) (s : List Char) :
    Option (Int × List Char) := do
  let (negative, s) ← readSign? s
  let (hours, s) ← readTwo? s
  let (minutes, s) ← readTwo? (← readGap? s)
  guard (hours ≤ 23 ∧ minutes ≤ 59)
  let seconds : Int := hours * 3600 + minutes * 60
  return (if negative then -seconds else seconds, s)

/-- Reads the letter for universal time, or hours and minutes. -/
def readOffset? (readGap? : List Char → Option (List Char)) (s : List Char) :
    Option (Int × List Char) :=
  match s with
  | 'Z' :: rest => some (0, rest)
  | 'z' :: rest => some (0, rest)
  | _ => readHours? readGap? s

/-- Reads an offset in the relaxed form: also the name of universal time, and colons or white space
between hours and minutes. -/
def readRelaxedOffset? (s : List Char) : Option (Int × List Char) :=
  if (s.take 3).map Char.toUpper = ['U', 'T', 'C'] then some (0, s.drop 3)
  else readOffset? (fun s => some (s.dropWhile fun c => c = ':' || Unicode.isWhiteSpace c)) s

/-! ### The internet form -/

/-- **Reads the internet form** of an instant, and nothing after it. -/
def readInternet? (s : List Char) : Option Instant := do
  let (year, s) ← readNumber? 4 (some 4) s
  let (month, s) ← readTwo? (← readChar? '-' s)
  let (day, s) ← readTwo? (← readChar? '-' s)
  let (hour, s) ← readTwo? (← readDivider? s)
  let (minute, s) ← readTwo? (← readChar? ':' s)
  let (second, s) ← readTwo? (← readChar? ':' s)
  let (parts, s) ← readOptionalFraction?
    { year := year, month := month, day := day, hour := hour, minute := minute, second := second } s
  let (offset, s) ← readOffset? (readChar? ':') s
  guard s.isEmpty
  parts.toInstant? offset

/-! ### Patterns -/

/-- One item of a pattern. -/
inductive Item
  /-- A year: up to four digits, or a sign and any count of digits. -/
  | year
  /-- A month of one or two digits. -/
  | month
  /-- A day of the month of one or two digits. -/
  | day
  /-- An hour of one or two digits. -/
  | hour
  /-- A minute of one or two digits. -/
  | minute
  /-- A second of one or two digits. -/
  | second
  /-- The character itself. -/
  | mark (c : Char)
  /-- Any amount of white space, also none. -/
  | blanks
  deriving DecidableEq, Repr

/-- Reads a year. -/
def readYear? : List Char → Option (Int × List Char)
  | '-' :: rest => (readNumber? 1 none rest).map fun (n, rest) => (-(n : Int), rest)
  | '+' :: rest => (readNumber? 1 none rest).map fun (n, rest) => ((n : Int), rest)
  | s => (readNumber? 1 (some 4) s).map fun (n, rest) => ((n : Int), rest)

/-- Reads one item; white space before a number is skipped. -/
def readItem? (item : Item) (p : Parts) (s : List Char) : Option (Parts × List Char) :=
  let number : Option (Nat × List Char) := readNumber? 1 (some 2) (Text.trimStart s)
  match item with
  | .year => (readYear? (Text.trimStart s)).map fun (n, rest) => ({ p with year := n }, rest)
  | .month => number.map fun (n, rest) => ({ p with month := n }, rest)
  | .day => number.map fun (n, rest) => ({ p with day := n }, rest)
  | .hour => number.map fun (n, rest) => ({ p with hour := n }, rest)
  | .minute => number.map fun (n, rest) => ({ p with minute := n }, rest)
  | .second => number.map fun (n, rest) => ({ p with second := n }, rest)
  | .mark c => (readChar? c s).map (p, ·)
  | .blanks => some (p, Text.trimStart s)

/-- Reads the items of a pattern in turn. -/
def readItems? : List Item → Parts → List Char → Option (Parts × List Char)
  | [], p, s => some (p, s)
  | item :: items, p, s => do
    let (p, s) ← readItem? item p s
    readItems? items p s

/-- **Reads a pattern**, and nothing after it, as universal time. -/
def readPattern? (items : List Item) (s : List Char) : Option Instant := do
  let (parts, rest) ← readItems? items {} s
  guard rest.isEmpty
  parts.toInstant? 0

/-- A day: year, month and day of the month with hyphens between them. -/
def dayItems : List Item := [.year, .mark '-', .month, .mark '-', .day]

/-- An hour and a minute. -/
def minuteItems : List Item := [.hour, .mark ':', .minute]

/-- An hour, a minute and a second. -/
def secondItems : List Item := minuteItems ++ [.mark ':', .second]

/-- The patterns that a date may follow, in the order in which they are tried. -/
def datePatterns : List (List Item) :=
  [dayItems ++ .mark 'T' :: secondItems, dayItems ++ .mark 'T' :: minuteItems,
   dayItems ++ .blanks :: secondItems, dayItems ++ .blanks :: minuteItems, dayItems]

/-- **Reads a date**: the internet form or one of the patterns, with white space around it. -/
def readDate? (s : List Char) : Option Instant :=
  let s := Text.trim s
  (readInternet? s).or (datePatterns.findSome? (readPattern? · s))

/-! ### The relaxed form -/

/-- The date of the relaxed form. -/
def relaxedDay : List Item := [.year, .blanks, .mark '-', .month, .blanks, .mark '-', .day]

/-- The time of the relaxed form. -/
def relaxedTime : List Item := [.hour, .blanks, .mark ':', .minute, .blanks, .mark ':', .second]

/-- **Reads the relaxed form** of an instant, and nothing but white space after it. -/
def readRelaxed? (s : List Char) : Option Instant := do
  let (parts, s) ← readItems? relaxedDay {} s
  let (parts, s) ← readItems? relaxedTime parts (← readDivider? s)
  let (parts, s) ← readOptionalFraction? parts s
  let (offset, s) ← readRelaxedOffset? (Text.trimStart s)
  guard (Text.isBlank s)
  parts.toInstant? offset

end Notebook.Calendar
