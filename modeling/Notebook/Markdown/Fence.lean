import Notebook.Text.Split
import Notebook.Text.Trim

/-!
# Fenced code

A fence is a line of three or more backticks or tildes, indented by three blanks at most, with an
info string after them. A region of fenced code runs from a fence through the first line that closes
it: a fence of the same mark, at least as long, without an info string. A region that nothing closes
runs to the end of the document.

`Notebook.Markdown.plainLines` are the numbered lines outside of every region. Tags, links and tasks
are looked for in these lines alone.
-/

namespace Notebook.Markdown

/-- **A fence line.** -/
structure Fence where
  /-- The character that it is made of. -/
  mark : Char
  /-- How many of them there are. -/
  length : Nat
  /-- The text after them, without white space around it. -/
  info : List Char
  deriving DecidableEq

/-- **The fence on a line**, if it is a fence line. The info string of a fence of backticks has no
backtick. -/
def fence? (line : List Char) : Option Fence :=
  let indent := (line.takeWhile (· == ' ')).length
  match line.drop indent with
  | [] => none
  | mark :: rest =>
    let length := ((mark :: rest).takeWhile (· == mark)).length
    let info := Text.trim ((mark :: rest).drop length)
    if indent ≤ 3 ∧ (mark = '`' ∨ mark = '~') ∧ 3 ≤ length ∧ ¬(mark = '`' ∧ info.contains '`') then
      some ⟨mark, length, info⟩
    else none

/-- Whether a line **closes** the region that a fence opens. -/
def Fence.closedBy (opening : Fence) (line : List Char) : Bool :=
  match fence? line with
  | some f => f.mark == opening.mark && opening.length ≤ f.length && f.info.isEmpty
  | none => false

/-- What a line belongs to. -/
inductive Place
  /-- Plain text, outside of every region. -/
  | plain
  /-- The line that opens a region. -/
  | opening
  /-- A line inside a region. -/
  | inside
  /-- The line that closes a region. -/
  | closing
  deriving DecidableEq, Repr

/-- The place of a line, where `region` is the fence of the region that the lines before it
leave open, and the fence that is open after it. -/
def placeLine (region : Option Fence) (line : List Char) : Place × Option Fence :=
  match region with
  | some opening => if opening.closedBy line then (.closing, none) else (.inside, some opening)
  | none =>
    match fence? line with
    | some f => (.opening, some f)
    | none => (.plain, none)

/-- Lines with their numbers, counted from `number`, and their places. -/
def placeLines (number : Nat) (region : Option Fence) :
    List (List Char) → List (Nat × Place × List Char)
  | [] => []
  | line :: lines =>
    let (place, region) := placeLine region line
    (number, place, line) :: placeLines (number + 1) region lines

/-- **The lines outside of fenced code**, with their numbers from 1. -/
def plainLines (body : List Char) : List (Nat × List Char) :=
  (placeLines 1 none (Text.lines body)).filterMap fun (number, place, line) =>
    if place = .plain then some (number, line) else none

end Notebook.Markdown
