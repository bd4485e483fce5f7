import Notebook.Execution.Result
import Notebook.Text.Trim

/-!
# Results as Markdown

A table, a list of links or a list of boxes to check, by the form of the query; a sentence in
italics when there are no rows. In a table a bar is written with a backslash before it and a line
feed as a line break, so that neither ends a cell or a row.

A result that does not have the shape of its query has no rendering, and is shown as if it had no
rows.
-/

namespace Notebook.Report

open Execution

/-- What stands in place of no rows. -/
def emptyText : String := "_No results._"

/-- A character inside a cell. -/
def cellCharacter (c : Char) : List Char :=
  match c with
  | '|' => ['\\', '|']
  | '\n' => ['<', 'b', 'r', '>']
  | _ => [c]

/-- **A text inside a cell.** -/
def cell (s : String) : String := String.ofList (s.toList.flatMap cellCharacter)

/-- A line of cells. -/
def cellLine (cells : List String) : String :=
  "|" ++ String.join (cells.map fun text => " " ++ text ++ " |") ++ "\n"

/-- The lines of a table, unless a row has another count of cells than there are headers. -/
def tableText? (headers : List String) (rows : List TableRow) : Option String :=
  if rows.any (·.values.length != headers.length) then none
  else some (cellLine ("File" :: headers.map cell) ++
    cellLine (List.replicate (headers.length + 1) "---") ++
    String.join (rows.map fun row => cellLine (cell row.link :: row.values.map (cell ·.text))))

/-- The line of a row of a list. -/
def listLine (row : ListRow) : String := "- " ++ row.link ++ "\n"

/-- The line of a task, with a link to its note or without. -/
def taskLine (links : Bool) (row : TaskRow) : String :=
  "- [" ++ row.task.status.toString ++ "] " ++ row.task.text ++
    (if links then " (" ++ row.link ++ ")" else "") ++ "\n"

/-- A text without white space at its end. -/
def trimmed (s : String) : String := String.ofList (Text.trimEnd s.toList)

/-- The rendering of rows for a query of a form, if they have its shape. -/
def render? (links : Bool) (form : Query.Form) (rows : Rows) : Option String :=
  match rows, form with
  | .table headers rows, .table => (tableText? headers rows).map trimmed
  | .list rows, .list => some (trimmed (String.join (rows.map listLine)))
  | .task rows, .task => some (trimmed (String.join (rows.map (taskLine links))))
  | _, _ => none

/-- **The rendering of rows** for a query of a form. -/
def render (links : Bool) (form : Query.Form) (rows : Rows) : String :=
  if rows.count = 0 then emptyText else (render? links form rows).getD emptyText

end Notebook.Report
