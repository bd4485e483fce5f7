import Mathlib.Data.List.Basic
import Notebook.Calendar.Reading
import Notebook.Evaluation.Comparison
import Notebook.Proofs.Number.Digits
import Notebook.Proofs.Text.Trim
import Notebook.Report.Markdown

/-!
# Dates that are copied from a result

The text of a date in a result leaves out its seconds. Reading it back gives the minute of the date,
`Notebook.Calendar.Instant.wholeMinute`.

A text may be read in six ways, and the first one that fits decides. So there are two things to
know about the text of a date: that every way before the right one fails on it, and that the right
one takes each number to its last digit. Where a number may have no more digits than it is written
with, whatever follows it is left; only a year with a sign has no bound, and there the hyphen after
it ends it. All five patterns start with a day, which is read in the same way for each of them
(`Notebook.Calendar.readItems?_dayText`), so that they differ in what is left of the text alone.
-/

namespace Notebook.Calendar

open Number (padded length_padded wholeOf_padded isDigit_of_mem_padded head?_padded_any
  isWhiteSpace_of_isDigit)
open Instant Text

/-! ### Numbers -/

/-- What comes of a reading is settled by what has been read and by how it goes on. -/
theorem bind_eq_of_some {α β : Type} {read : Option α} {a : α} {f : α → Option β}
    {result : Option β} (h : read = some a) (hrest : f a = result) : (read >>= f) = result := by
  rw [h]
  exact hrest

/-- **A number that may have no more digits** than it is written with is read, whatever follows. -/
theorem readNumber?_padded {least width n : Nat} (hleast : least ≤ width) (hwidth : 0 < width)
    (h : n < Nat.pow 10 width) (rest : List Char) :
    readNumber? least (some width) ((padded width n).toList ++ rest) = some (n, rest) := by
  have hlength := length_padded hwidth h
  have hdigits : ((padded width n).toList ++ rest).takeWhile Char.isDigit =
      (padded width n).toList ++ rest.takeWhile Char.isDigit :=
    List.takeWhile_append_of_pos fun _ => isDigit_of_mem_padded
  have htake : ((padded width n).toList ++ rest.takeWhile Char.isDigit).take width =
      (padded width n).toList := List.take_left' hlength
  simp only [readNumber?, hdigits, htake, hlength, wholeOf_padded, List.drop_left' hlength,
    if_neg (Nat.not_lt.mpr hleast)]

/-- **A number of any count of digits** is read up to something that is no digit. -/
theorem readNumber?_padded_of_head {least width : Nat} (hleast : least ≤ width) (n : Nat)
    {rest : List Char} (h : rest.head?.any Char.isDigit = false) :
    readNumber? least none ((padded width n).toList ++ rest) = some (n, rest) := by
  have hdigits : ((padded width n).toList ++ rest).takeWhile Char.isDigit =
      (padded width n).toList := (takeWhile_append_of_head (fun _ => isDigit_of_mem_padded) h).1
  have hlength := Nat.le_trans hleast (Number.le_length_padded width n)
  simp only [readNumber?, hdigits, wholeOf_padded, List.drop_left, if_neg (Nat.not_lt.mpr hlength)]

theorem readNumber?_of_head {least : Nat} {most : Option Nat} {s : List Char} (hleast : 0 < least)
    (h : s.head?.any Char.isDigit = false) : readNumber? least most s = none := by
  have hnone : s.takeWhile Char.isDigit = [] := by
    cases s with
    | nil => rfl
    | cons c s => exact List.takeWhile_cons_of_neg (by simpa using h)
  cases most <;> simp [readNumber?, hnone, hleast]

theorem trimStart_padded {width : Nat} (hwidth : 0 < width) (n : Nat) (rest : List Char) :
    trimStart ((padded width n).toList ++ rest) = (padded width n).toList ++ rest :=
  dropWhile_of_head? (head?_padded_any hwidth (fun _ => isWhiteSpace_of_isDigit) rest)

/-! ### Years -/

section Years

variable (year : Int)

/-- A year as it is written: four digits, or a sign and at least four. -/
theorem toList_yearText :
    (0 ≤ year ∧ year ≤ 9999 ∧ (yearText year).toList = (padded 4 year.natAbs).toList) ∨
    (year < 0 ∧ (yearText year).toList = '-' :: (padded 4 year.natAbs).toList) ∨
    (9999 < year ∧ (yearText year).toList = '+' :: (padded 4 year.natAbs).toList) := by
  unfold yearText
  by_cases hplain : 0 ≤ year ∧ year ≤ 9999
  · exact .inl ⟨hplain.1, hplain.2, by rw [if_pos hplain]⟩
  · rw [if_neg hplain]
    by_cases hnegative : year < 0
    · exact .inr (.inl ⟨hnegative, by simp [hnegative]⟩)
    · exact .inr (.inr ⟨by omega, by simp [hnegative]⟩)

theorem head?_yearText_any (rest : List Char) :
    ((yearText year).toList ++ rest).head?.any Unicode.isWhiteSpace = false := by
  rcases toList_yearText year with ⟨-, -, htext⟩ | ⟨-, htext⟩ | ⟨-, htext⟩
  · rw [htext]
    exact head?_padded_any (by decide) (fun _ => isWhiteSpace_of_isDigit) rest
  all_goals
    rw [htext]
    rfl

theorem readYear?_of_head {s : List Char}
    (h : s.head?.any (fun c => c == '-' || c == '+') = false) :
    readYear? s = (readNumber? 1 (some 4) s).map fun (n, rest) => ((n : Int), rest) := by
  unfold readYear?
  split
  · cases h
  · cases h
  · rfl

/-- **A year is read back**, also one with a sign, up to something that is no digit. -/
theorem readYear?_yearText {rest : List Char} (h : rest.head?.any Char.isDigit = false) :
    readYear? ((yearText year).toList ++ rest) = some (year, rest) := by
  rcases toList_yearText year with ⟨hleast, hmost, htext⟩ | ⟨hneg, htext⟩ | ⟨hgt, htext⟩
  · have hnosign : ((padded 4 year.natAbs).toList ++ rest).head?.any
        (fun c => c == '-' || c == '+') = false := by
      refine head?_padded_any (by decide) (fun c hc => ?_) rest
      rw [Bool.or_eq_false_iff, beq_eq_false_iff_ne, beq_eq_false_iff_ne]
      exact ⟨fun he => by simp [he] at hc, fun he => by simp [he] at hc⟩
    have hsmall : year.natAbs < Nat.pow 10 4 := by
      change year.natAbs < 10000
      omega
    rw [htext, readYear?_of_head hnosign, readNumber?_padded (by decide) (by decide) hsmall]
    simp only [Option.map_some, Int.natAbs_of_nonneg hleast]
  · rw [htext, List.cons_append]
    simp only [readYear?, readNumber?_padded_of_head (by decide : 1 ≤ 4) _ h, Option.map_some]
    rw [show -(year.natAbs : Int) = year by omega]
  · rw [htext, List.cons_append]
    simp only [readYear?, readNumber?_padded_of_head (by decide : 1 ≤ 4) _ h, Option.map_some]
    rw [show (year.natAbs : Int) = year by omega]

end Years

/-! ### Days and minutes -/

/-- A day as it is written. -/
theorem toList_dayText (d : Day) : (dayText d).toList = (yearText d.year).toList ++
    '-' :: ((padded 2 d.month).toList ++ '-' :: (padded 2 d.day).toList) := by
  simp [dayText]

/-- An hour and a minute as they are written. -/
theorem toList_minuteText (second : Nat) : (minuteText second).toList =
    (padded 2 (second / 3600)).toList ++ ':' :: (padded 2 (second / 60 % 60)).toList := by
  simp [minuteText]

theorem readChar?_cons (c : Char) (s : List Char) : readChar? c (c :: s) = some s := if_pos rfl

/-- A number of two digits is read whatever follows it. -/
theorem readNumber?_trimStart_padded {n : Nat} (h : n < 100) (rest : List Char) :
    readNumber? 1 (some 2) (trimStart ((padded 2 n).toList ++ rest)) = some (n, rest) := by
  rw [trimStart_padded (by decide)]
  exact readNumber?_padded (by decide) (by decide) h rest

theorem daysInMonth_le (year : Int) (month : Nat) : daysInMonth year month ≤ 31 := by
  unfold daysInMonth
  repeat' split
  all_goals decide

/-- A month and a day of the month have two digits. -/
theorem Day.lt_hundred (d : Day) : d.month < 100 ∧ d.day < 100 := by
  obtain ⟨year, month, day, -, -, -, hmonth, -, hday⟩ := d
  have hdays := daysInMonth_le year month
  dsimp only
  omega

/-- **A day is read back**, whatever follows it. -/
theorem readItems?_dayText (d : Day) (p : Parts) (rest : List Char) :
    readItems? dayItems p ((dayText d).toList ++ rest) =
      some ({ p with year := d.year, month := d.month, day := d.day }, rest) := by
  have hyear : ∀ s, trimStart ((yearText d.year).toList ++ s) = (yearText d.year).toList ++ s :=
    fun s => dropWhile_of_head? (head?_yearText_any d.year s)
  have hhyphen : ∀ s, readYear? ((yearText d.year).toList ++ '-' :: s) = some (d.year, '-' :: s) :=
    fun s => readYear?_yearText d.year rfl
  simp only [dayItems, readItems?, readItem?, toList_dayText, List.append_assoc, List.cons_append,
    hyear, hhyphen, readChar?_cons, readNumber?_trimStart_padded d.lt_hundred.1,
    readNumber?_trimStart_padded d.lt_hundred.2, Option.map_some, Option.bind_eq_bind,
    Option.bind_some]

/-- **An hour and a minute are read back**, whatever follows them. -/
theorem readItems?_minuteText {second : Nat} (h : second < 86400) (p : Parts) (rest : List Char) :
    readItems? minuteItems p ((minuteText second).toList ++ rest) =
      some ({ p with hour := second / 3600, minute := second / 60 % 60 }, rest) := by
  simp only [minuteItems, readItems?, readItem?, toList_minuteText, List.append_assoc,
    List.cons_append, readChar?_cons,
    readNumber?_trimStart_padded (show second / 3600 < 100 by omega),
    readNumber?_trimStart_padded (show second / 60 % 60 < 100 by omega), Option.map_some,
    Option.bind_eq_bind, Option.bind_some]

/-! ### The minute of an instant -/

/-- **The whole minute of an instant**: what is left of it without its seconds. -/
def Instant.wholeMinute (t : Instant) : Instant :=
  ⟨t.day, t.second / 60 * 60, 0, by have := t.isMoment.1; omega, by decide, nofun⟩

/-- An instant at the start of a minute. -/
def Instant.IsWholeMinute (t : Instant) : Prop := t.second % 60 = 0 ∧ t.nano = 0

theorem isWholeMinute_wholeMinute (t : Instant) : t.wholeMinute.IsWholeMinute :=
  ⟨Nat.mul_mod_left .., rfl⟩

theorem isLE_compare_then_iff {a b c d : Nat} :
    ((compare a b).then (compare c d)).isLE = true ↔ a < b ∨ a = b ∧ c ≤ d := by
  cases hcompare : compare a b with
  | lt => simp [Nat.compare_eq_lt.mp hcompare]
  | eq =>
    have heq := Nat.compare_eq_eq.mp hcompare
    simp [heq, Nat.isLE_compare]
  | gt =>
    have hgt := Nat.compare_eq_gt.mp hcompare
    exact iff_of_false Bool.false_ne_true (by omega)

/-- **The whole minute is the last one that has started**: the minutes up to it are the minutes up
to the instant. -/
theorem isLE_wholeMinute_iff {t u : Instant} (hu : u.IsWholeMinute) :
    (u.order t.wholeMinute).isLE = true ↔ (u.order t).isLE = true := by
  obtain ⟨hsecond, hnano⟩ := hu
  simp only [Instant.order, wholeMinute, hnano]
  cases u.day.order t.day with
  | lt => simp only [Ordering.lt_then]
  | gt => simp only [Ordering.gt_then]
  | eq =>
    simp only [Ordering.eq_then, isLE_compare_then_iff]
    omega

/-- The parts that the text of an instant names are those of its minute. -/
theorem toInstant?_minute (t : Instant) :
    ({ year := t.day.year, month := t.day.month, day := t.day.day, hour := t.second / 3600,
       minute := t.second / 60 % 60 } : Parts).toInstant? 0 = some t.wholeMinute := by
  have hmoment := t.isMoment.1
  have hday : Day.ofCivil? t.day.year t.day.month t.day.day = some t.day := dif_pos t.day.isDay
  have hclock : t.second / 3600 ≤ 23 ∧ t.second / 60 % 60 ≤ 59 ∧ 0 ≤ 60 := by omega
  have hsecond : ((t.second / 3600 : Nat) : Int) * 3600 + ((t.second / 60 % 60 : Nat) : Int) * 60 +
      ((0 : Nat) : Int) - 0 = ((t.second / 60 * 60 : Nat) : Int) := by omega
  have hbounds : ¬((t.second / 60 * 60 : Nat) : Int) < 0 ∧
      ¬86400 ≤ ((t.second / 60 * 60 : Nat) : Int) := by omega
  refine bind_eq_of_some (if_pos hclock) (bind_eq_of_some hday ?_)
  simp only [if_neg (show ¬0 = 60 by decide), hsecond, if_neg hbounds.1, if_neg hbounds.2,
    Int.toNat_natCast]
  exact dif_pos t.wholeMinute.isMoment

/-! ### What is left of a text after its day -/

/-- **The text of an instant** is its day and, unless it is midnight, its minute. -/
theorem exists_text (t : Instant) : ∃ rest : List Char,
    t.text.toList = (dayText t.day).toList ++ rest ∧
      (rest = [] ∧ t.second = 0 ∨ rest = ' ' :: (minuteText t.second).toList) := by
  unfold text
  split
  · next hmidnight => exact ⟨[], by simp, .inl ⟨rfl, hmidnight.1⟩⟩
  · exact ⟨_, by simp, .inr rfl⟩

/-- The text of an instant starts with a sign or a digit and ends with a digit. -/
theorem trim_text (t : Instant) : trim t.text.toList = t.text.toList := by
  have hend : ∀ before n, trimEnd (before ++ (padded 2 n).toList) =
      before ++ (padded 2 n).toList := fun before n =>
    trimEnd_append_of_forall (fun c hc => isWhiteSpace_of_isDigit (isDigit_of_mem_padded hc))
      (List.ne_nil_of_length_pos (Nat.lt_of_lt_of_le (by decide) (Number.le_length_padded 2 n)))
  obtain ⟨rest, htext, ⟨rfl, -⟩ | rfl⟩ := exists_text t
  all_goals
    refine trim_eq_self_iff.mpr ⟨?_, ?_⟩
    · simp only [htext, dayText, String.toList_append, List.append_assoc]
      exact head?_yearText_any t.day.year _
  · simp only [htext, dayText, String.toList_append, List.append_nil, hend]
  · simp only [htext, minuteText, String.toList_append, ← List.append_assoc, ← List.cons_append,
      hend]

/-- **No text of an instant has the internet form**, which goes on after the day and after the
minute. A year with a sign does not even begin it. -/
theorem readInternet?_text (t : Instant) : readInternet? t.text.toList = none := by
  have htwo : ∀ {n : Nat}, n < 100 → ∀ rest,
      readTwo? ((padded 2 n).toList ++ rest) = some (n, rest) :=
    fun hn rest => readNumber?_padded (by decide) (by decide) hn rest
  have hlast : ∀ {n : Nat}, n < 100 → readTwo? (padded 2 n).toList = some (n, []) :=
    fun hn => by simpa only [List.append_nil] using htwo hn []
  have htime : t.second / 3600 < 100 ∧ t.second / 60 % 60 < 100 := by
    have hmoment := t.isMoment.1
    omega
  obtain ⟨rest, htext, hrest⟩ := exists_text t
  simp only [htext, toList_dayText, List.append_assoc, List.cons_append]
  rcases toList_yearText t.day.year with ⟨hleast, hyear, hplain⟩ | ⟨-, hsign⟩ | ⟨-, hsign⟩
  · have hfour : t.day.year.natAbs < Nat.pow 10 4 := by
      change t.day.year.natAbs < 10000
      omega
    rw [hplain, readInternet?]
    refine bind_eq_of_some (readNumber?_padded (by decide) (by decide) hfour _) ?_
    refine bind_eq_of_some (readChar?_cons ..) ?_
    refine bind_eq_of_some (htwo t.day.lt_hundred.1 _) ?_
    refine bind_eq_of_some (readChar?_cons ..) ?_
    refine bind_eq_of_some (htwo t.day.lt_hundred.2 _) ?_
    rcases hrest with ⟨rfl, -⟩ | rfl
    · rfl
    · rw [toList_minuteText]
      refine bind_eq_of_some (show readDivider? (' ' :: _) = _ from rfl) ?_
      refine bind_eq_of_some (htwo htime.1 _) ?_
      refine bind_eq_of_some (readChar?_cons ..) ?_
      refine bind_eq_of_some (hlast htime.2) ?_
      rfl
  all_goals
    rw [hsign, readInternet?, List.cons_append, readNumber?_of_head (by decide) rfl]
    rfl

theorem readItems?_append (items others : List Item) (p : Parts) (s : List Char) :
    readItems? (items ++ others) p s =
      (readItems? items p s).bind fun (p, s) => readItems? others p s := by
  induction items generalizing p s with
  | nil => rfl
  | cons item items ih =>
    simp only [List.cons_append, readItems?]
    cases readItem? item p s with
    | none => rfl
    | some read => exact ih read.1 read.2

/-- A pattern that starts with a day goes on after the day of a text. -/
theorem readPattern?_dayText (items : List Item) (d : Day) (rest : List Char) :
    readPattern? (dayItems ++ items) ((dayText d).toList ++ rest) =
      (readItems? items { year := d.year, month := d.month, day := d.day } rest).bind
        fun (parts, rest) => if rest.isEmpty then parts.toInstant? 0 else none := by
  have hread : readItems? (dayItems ++ items) {} ((dayText d).toList ++ rest) =
      readItems? items { year := d.year, month := d.month, day := d.day } rest := by
    rw [readItems?_append, readItems?_dayText, Option.bind_some]
  rw [readPattern?, hread]
  cases readItems? items { year := d.year, month := d.month, day := d.day } rest with
  | none => rfl
  | some read =>
    obtain ⟨parts, rest⟩ := read
    cases rest <;> rfl

theorem datePatterns_eq : datePatterns =
    [.mark 'T' :: secondItems, .mark 'T' :: minuteItems, .blanks :: secondItems,
      .blanks :: minuteItems, []].map (dayItems ++ ·) := rfl

/-- **The text of an instant is read as its minute.** -/
theorem readDate?_text (t : Instant) : readDate? t.text.toList = some t.wholeMinute := by
  have hparts := toInstant?_minute t
  rw [readDate?, trim_text, readInternet?_text, Option.none_or, datePatterns_eq, List.findSome?_map]
  obtain ⟨rest, htext, ⟨rfl, hmidnight⟩ | rfl⟩ := exists_text t
  · -- a day alone: every pattern but the last one goes on after it
    have hmark : ∀ items p, readItems? (.mark 'T' :: items) p [] = none := fun _ _ => rfl
    have hsecond : ∀ p, readItems? (.blanks :: secondItems) p [] = none := fun _ => rfl
    have hminute : ∀ p, readItems? (.blanks :: minuteItems) p [] = none := fun _ => rfl
    have hday : ∀ p, readItems? [] p [] = some (p, []) := fun _ => rfl
    rw [hmidnight, Nat.zero_div, Nat.zero_mod] at hparts
    simp only [htext, List.findSome?, Function.comp_apply, readPattern?_dayText, hmark, hsecond,
      hminute, hday, Option.bind_none, Option.bind_some, List.isEmpty_nil, if_true, hparts]
  · -- a day and a minute: no letter stands between the two, and no second follows
    have hmark : ∀ items p,
        readItems? (.mark 'T' :: items) p (' ' :: (minuteText t.second).toList) = none :=
      fun _ _ => rfl
    have htrim : trimStart (' ' :: (minuteText t.second).toList) =
        (minuteText t.second).toList := by
      rw [trimStart, List.dropWhile_cons_of_pos (by decide), ← trimStart, minuteText,
        String.toList_append, String.toList_append, List.append_assoc]
      exact trimStart_padded (by decide) _ _
    have hblanks : ∀ items p,
        readItems? (.blanks :: items) p (' ' :: (minuteText t.second).toList) =
          readItems? items p (minuteText t.second).toList := fun items p => by
      simp only [readItems?, readItem?, htrim, Option.bind_eq_bind, Option.bind_some]
    have hminute : ∀ p, readItems? minuteItems p (minuteText t.second).toList =
        some ({ p with hour := t.second / 3600, minute := t.second / 60 % 60 }, []) := fun p => by
      simpa only [List.append_nil] using readItems?_minuteText t.isMoment.1 p []
    have hsecond : ∀ p, readItems? [.mark ':', .second] p [] = none := fun _ => rfl
    simp only [htext, List.findSome?, Function.comp_apply, readPattern?_dayText, hmark, hblanks,
      secondItems, readItems?_append, hminute, hsecond, Option.bind_none, Option.bind_some,
      List.isEmpty_nil, if_true, hparts]

/-! ### In a cell and in a condition -/

/-- Characters that are written in a cell as they are. -/
def Verbatim (cs : List Char) : Prop := ∀ c ∈ cs, Report.cellCharacter c = [c]

theorem verbatim_append {cs others : List Char} :
    Verbatim (cs ++ others) ↔ Verbatim cs ∧ Verbatim others :=
  List.forall_mem_append

theorem verbatim_padded (width n : Nat) : Verbatim (padded width n).toList := by
  intro c hc
  have hdigit := isDigit_of_mem_padded hc
  unfold Report.cellCharacter
  split
  · exact absurd hdigit (by decide)
  · exact absurd hdigit (by decide)
  · rfl

theorem verbatim_yearText (year : Int) : Verbatim (yearText year).toList := by
  have hsign : ∀ {c : Char}, Report.cellCharacter c = [c] →
      Verbatim (c :: (padded 4 year.natAbs).toList) :=
    fun hc => List.forall_mem_cons.mpr ⟨hc, verbatim_padded _ _⟩
  rcases toList_yearText year with ⟨-, -, htext⟩ | ⟨-, htext⟩ | ⟨-, htext⟩ <;> rw [htext]
  · exact verbatim_padded _ _
  · exact hsign rfl
  · exact hsign rfl

/-- **The text of an instant stays as it is in a cell.** -/
theorem cell_text (t : Instant) : Report.cell t.text = t.text := by
  have hmark : Verbatim "-".toList ∧ Verbatim ":".toList ∧ Verbatim " ".toList := by
    simp [Verbatim, Report.cellCharacter]
  have hday : Verbatim (dayText t.day).toList := by
    simp only [dayText, String.toList_append, verbatim_append, verbatim_padded, verbatim_yearText,
      hmark, and_self]
  have htext : Verbatim t.text.toList := by
    unfold text
    split
    · exact hday
    · simp only [minuteText, String.toList_append, verbatim_append, verbatim_padded, hday, hmark,
        and_self]
  rw [Report.cell, List.flatMap_congr htext, List.flatMap_singleton', String.ofList_toList]

/-- **A text that names a date compares with dates as that date.** -/
theorem compareValues_of_readDate? {s : String} {t : Instant} (h : readDate? s.toList = some t)
    (operator : Query.Comparison) (u : Instant) :
    Evaluation.compareValues operator (.string s) (.date u) =
        Evaluation.compareValues operator (.date t) (.date u) ∧
      Evaluation.compareValues operator (.date u) (.string s) =
        Evaluation.compareValues operator (.date u) (.date t) := by
  constructor <;> cases operator <;>
    simp [Evaluation.compareValues, Evaluation.order, Value.looselyEquals, Value.datesEqual,
      Value.isNumber, Value.isDate, Value.isMissing, Value.date?, h]

/-- **A date copied from a result names its minute.** The text of an instant is in a cell as it
is, it is read as the minute, and in a condition it compares with every date as the minute does. -/
theorem text_names_wholeMinute (t : Instant) :
    Report.cell (Value.date t).text = t.text ∧ readDate? t.text.toList = some t.wholeMinute ∧
      ∀ (operator : Query.Comparison) (u : Instant),
        Evaluation.compareValues operator (.string t.text) (.date u) =
            Evaluation.compareValues operator (.date t.wholeMinute) (.date u) ∧
          Evaluation.compareValues operator (.date u) (.string t.text) =
            Evaluation.compareValues operator (.date u) (.date t.wholeMinute) :=
  ⟨cell_text t, readDate?_text t, compareValues_of_readDate? (readDate?_text t)⟩

/-- A leap second of a year with five digits. -/
example : (⟨⟨12016, 12, 31, by decide⟩, 86399, 1500000000, by decide⟩ : Instant).text =
    "+12016-12-31 23:59" := by
  cbv

end Notebook.Calendar
