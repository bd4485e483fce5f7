/-!
# Cutting a text

Splitting at separators, at line ends, and around the last occurrence of a character; testing for a
text inside another one.

`Notebook.Text.lines` is the reading of lines that every part of the library shares: a line ends at
a line feed, a carriage return right before that line feed belongs to the line end, and a text that
ends in a line feed has no empty line after it.
-/

namespace Notebook.Text

/-- The parts of a text between the characters of a class; one part more than there are such
characters. -/
def splitWhere (p : Char → Bool) : List Char → List (List Char)
  | [] => [[]]
  | c :: rest =>
    match splitWhere p rest with
    | [] => [[]]
    | part :: parts => if p c then [] :: part :: parts else (c :: part) :: parts

/-- The text without one carriage return at its end. -/
def dropCarriageReturn (line : List Char) : List Char :=
  if line.getLast? = some '\r' then line.dropLast else line

/-- The lines of a text whose parts between line feeds are given: each part but the last was ended
by a line feed, and the last counts only if there is something in it. -/
def linesOfParts : List (List Char) → List (List Char)
  | [] => []
  | [last] => if last.isEmpty then [] else [last]
  | part :: parts => dropCarriageReturn part :: linesOfParts parts

/-- **The lines of a text.** -/
def lines (s : List Char) : List (List Char) := linesOfParts (splitWhere (· == '\n') s)

/-- The text before the last occurrence of `c` and the text after it, if `c` occurs. -/
def splitLast? (c : Char) : List Char → Option (List Char × List Char)
  | [] => none
  | d :: rest =>
    match splitLast? c rest with
    | some (before, after) => some (d :: before, after)
    | none => if d = c then some ([], rest) else none

/-- The text after the last occurrence of `c`, or the whole text when `c` does not occur. -/
def afterLast (c : Char) (s : List Char) : List Char :=
  match splitLast? c s with
  | some (_, after) => after
  | none => s

/-- The text without as many leading copies of `mark` as it has. -/
def dropRepeated (mark : List Char) (s : List Char) : List Char :=
  match mark.isPrefixOf? s with
  | some rest => if rest.length < s.length then dropRepeated mark rest else s
  | none => s
termination_by s.length

/-- The text without as many copies of `mark` at its end as it has. -/
def dropEndRepeated (mark : List Char) (s : List Char) : List Char :=
  (dropRepeated mark.reverse s.reverse).reverse

/-- **Whether a text occurs inside another one**; the empty text occurs in every text. -/
def occursIn (part : List Char) : List Char → Bool
  | [] => part.isEmpty
  | c :: rest => part.isPrefixOf (c :: rest) || occursIn part rest

/-- The texts with `separator` between each two neighbours. -/
def joinWith (separator : List Char) (parts : List (List Char)) : List Char :=
  (parts.intersperse separator).flatten

end Notebook.Text
