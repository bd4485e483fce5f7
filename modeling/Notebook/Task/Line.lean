import Notebook.Markdown.Inline
import Notebook.Number.Reading
import Notebook.Unicode.Case
import Notebook.Value.Basic

/-!
# What a task line says

A task is an item of a list with a box in front of its text: a hyphen, an asterisk, a plus sign or a
number, then a box with one character in it. Its text may carry annotations of three sorts.

* An **inline field** in brackets or parentheses: a key, two colons and a value.
* A **marked date**: one of five emoji with a day after it.
* A **tag** after white space.

The reading of each sort goes from left to right and passes over what it has found.
-/

namespace Notebook.Task

open Text Unicode

/-! ### The box -/

/-- The text after the mark of a list item. -/
def afterMark? (cs : List Char) : Option (List Char) :=
  match cs with
  | [] => none
  | c :: rest =>
    if c = '-' ∨ c = '*' ∨ c = '+' then some rest
    else
      match cs.takeWhile isDecimalDigit, cs.dropWhile isDecimalDigit with
      | _ :: _, d :: rest => if d = '.' ∨ d = ')' then some rest else none
      | _, _ => none

/-- **The box and the text** of a task line: the character in the box, and the text without white
space around it. -/
def taskLine? (line : List Char) : Option (Char × List Char) := do
  let rest ← afterMark? (trimStart line)
  match rest with
  | [] => none
  | c :: _ =>
    guard (isWhiteSpace c)
    match trimStart rest with
    | '[' :: status :: ']' :: text => if status = '\n' then none else some (status, trim text)
    | _ => none

/-! ### Inline fields -/

/-- Whether a character may be part of the key of an inline field. -/
def inKey (c : Char) : Bool := isLetter c || isNumber c || c == '_' || c == '-'

/-- Whether a character closes an inline field. -/
def closesField (c : Char) : Bool := c == ']' || c == ')'

/-- The key and the value of an inline field after its opening bracket, and what follows the
field. -/
def fieldAt? (cs : List Char) : Option ((List Char × List Char) × List Char) :=
  match cs.takeWhile inKey, cs.dropWhile inKey with
  | c :: key, ':' :: ':' :: value =>
    match value.dropWhile (!closesField ·) with
    | _ :: after => some ((c :: key, trim (value.takeWhile (!closesField ·))), after)
    | [] => none
  | _, _ => none

theorem length_of_fieldAt? {cs key value after : List Char}
    (h : fieldAt? cs = some ((key, value), after)) : after.length < cs.length := by
  unfold fieldAt? at h
  split at h
  · next c key' value' hkey hrest =>
    have h₁ := Markdown.length_dropWhile_le inKey cs
    rw [hrest, List.length_cons, List.length_cons] at h₁
    split at h
    · next d after' hvalue =>
      have h₂ := Markdown.length_dropWhile_le (!closesField ·) value'
      rw [hvalue, List.length_cons] at h₂
      cases h
      omega
    · cases h
  · cases h

/-- **The inline fields** of a text: keys and values. -/
def inlineFields (cs : List Char) : List (List Char × List Char) :=
  match cs with
  | [] => []
  | c :: rest =>
    match _h : if c = '[' ∨ c = '(' then fieldAt? rest else none with
    | some (field, after) => field :: inlineFields after
    | none => inlineFields rest
termination_by cs.length
decreasing_by
  · split at _h
    · have := length_of_fieldAt? _h
      simp only [List.length_cons]
      omega
    · cases _h
  · simp

/-! ### Marked dates -/

/-- **What a marked date says**, by the emoji before it. -/
def dateKey? : Char → Option String
  | '📅' => some "due"
  | '⏳' => some "scheduled"
  | '🛫' => some "start"
  | '✅' => some "completion"
  | '➕' => some "created"
  | _ => none

/-- Whether a text has the form of a day: four, two and two digits with hyphens between them. -/
def hasDayForm (cs : List Char) : Bool :=
  match cs with
  | [a, b, c, d, '-', e, f, '-', g, h] => [a, b, c, d, e, f, g, h].all isDecimalDigit
  | _ => false

/-- The text after the mark that asks for the colourful form of an emoji, if it is at the start. -/
def dropColourMark : List Char → List Char
  | '\uFE0F' :: rest => rest
  | cs => cs

/-- The day after an emoji, perhaps with white space between, and what follows the day. -/
def dayAfterMark? (cs : List Char) : Option (List Char × List Char) :=
  let rest := trimStart (dropColourMark cs)
  if hasDayForm (rest.take 10) then some (rest.take 10, rest.drop 10) else none

theorem length_dropColourMark_le (cs : List Char) : (dropColourMark cs).length ≤ cs.length := by
  unfold dropColourMark
  split
  · exact Nat.le_succ _
  · exact Nat.le_refl _

theorem length_of_dayAfterMark? {cs day after : List Char}
    (h : dayAfterMark? cs = some (day, after)) : after.length ≤ cs.length := by
  unfold dayAfterMark? at h
  dsimp only at h
  split at h
  · cases h
    rw [List.length_drop]
    exact Nat.le_trans (Nat.sub_le ..)
      (Nat.le_trans (Markdown.length_dropWhile_le ..) (length_dropColourMark_le cs))
  · cases h

/-- **The marked dates** of a text: what they say, and their days. -/
def markedDates (cs : List Char) : List (String × List Char) :=
  match cs with
  | [] => []
  | c :: rest =>
    match dateKey? c with
    | none => markedDates rest
    | some key =>
      match _h : dayAfterMark? rest with
      | some (day, after) => (key, day) :: markedDates after
      | none => markedDates rest
termination_by cs.length
decreasing_by
  · simp
  · have := length_of_dayAfterMark? _h
    simp only [List.length_cons]
    omega
  · simp

/-! ### Values -/

/-- **The value that a text spells**: a whole number, a number, a truth value, a date, or itself. -/
def typedValue (cs : List Char) : Value :=
  let cs := trim cs
  let startsNumber := cs.head?.any fun c => c.isDigit || c == '-'
  match (Number.signedWhole? cs).filter Number.fitsInteger,
      if startsNumber then Number.Binary64.ofText? cs else none with
  | some n, _ => .integer (.ofInt n)
  | none, some x => .real x
  | none, none =>
    let word := asciiLowercase cs
    if word = ['t', 'r', 'u', 'e'] then .boolean true
    else if word = ['f', 'a', 'l', 's', 'e'] then .boolean false
    else
      match Calendar.readDate? cs with
      | some t => .date t
      | none => .string (String.ofList cs)

end Notebook.Task
