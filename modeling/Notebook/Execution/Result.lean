import Notebook.Evaluation.Error
import Notebook.Query.Basic
import Notebook.Query.Problem
import Notebook.Task.Basic

/-!
# Results

What a query gives: rows of the shape that its form asks for, the identities of the notes behind
them in the order of their first rows, and the candidates that were skipped because of an error.

A query as a whole fails with a `Notebook.Execution.QueryError`: its text is no query, a call or a
sort key is in error, or something broke down, a function of the host or the sorting.
-/

namespace Notebook.Execution

open Query (Form SyntaxError)
open Evaluation (EvaluationError)

/-! ### Rows -/

/-- **A row of a table.** -/
structure TableRow where
  /-- The identity of the note. -/
  identity : String
  /-- The link to the note. -/
  link : String
  /-- The values of the columns. -/
  values : List Value

/-- **A row of a list.** -/
structure ListRow where
  /-- The identity of the note. -/
  identity : String
  /-- The link to the note. -/
  link : String

/-- **A row of a list of tasks.** -/
structure TaskRow where
  /-- The task. -/
  task : Task
  /-- The link to its note. -/
  link : String

/-- **The rows of a result.** -/
inductive Rows
  /-- Those of a table, with the headers of its columns. -/
  | table (headers : List String) (rows : List TableRow)
  /-- Those of a list. -/
  | list (rows : List ListRow)
  /-- Those of a list of tasks. -/
  | task (rows : List TaskRow)

/-- How many rows there are. -/
def Rows.count : Rows → Nat
  | table _ rows => rows.length
  | list rows => rows.length
  | task rows => rows.length

/-- The word for the shape of rows. -/
def Rows.kindName : Rows → String
  | table .. => "table"
  | list _ => "list"
  | task _ => "task"

/-! ### Results -/

/-- **A candidate that was skipped.** -/
structure Skipped where
  /-- The path of the note. -/
  path : String
  /-- The line of the task, for a task. -/
  line : Option Nat
  /-- The error. -/
  error : EvaluationError

/-- **The result of a query.** -/
structure Result where
  /-- The form of the query. -/
  form : Form
  /-- The rows. -/
  rows : Rows
  /-- The identities of the notes behind the rows. -/
  discoveredLinks : List String
  /-- The candidates that were skipped. -/
  skipped : List Skipped

/-- How many rows a result has. -/
def Result.count (result : Result) : Nat := result.rows.count

/-! ### Errors -/

/-- **Why a query fails.** -/
inductive QueryError
  /-- Its text is no query. -/
  | syntaxError (e : SyntaxError)
  /-- A call or a sort key is in error. -/
  | execution (e : EvaluationError)
  /-- Something broke down: a function of the host, or the sorting. -/
  | unexpected (message : String)

namespace QueryError

/-- The word for the kind of an error. -/
def kindName : QueryError → String
  | syntaxError _ => "syntax"
  | execution _ => "execution"
  | unexpected _ => "unexpected"

/-- The wording of an error without its kind. -/
def detail : QueryError → String
  | syntaxError e => e.message
  | execution e => e.message
  | unexpected message => message

/-- **The wording of an error.** -/
def message : QueryError → String
  | syntaxError e => "Syntax error: " ++ e.message
  | execution e => "Execution error: " ++ e.message
  | unexpected message => "Unexpected error: " ++ message

/-- The error of a query for a stop of evaluation. -/
def ofStop : Evaluation.Stop → QueryError
  | .error e => execution e
  | .breakdown message => unexpected message

end QueryError

/-! ### Documents -/

/-- The document of a row of a table. -/
def TableRow.toJson (row : TableRow) : Json :=
  .object [("identity", .string row.identity), ("link", .string row.link),
    ("values", .array (row.values.map Value.toJson))]

/-- The document of a row of a list. -/
def ListRow.toJson (row : ListRow) : Json :=
  .object [("identity", .string row.identity), ("link", .string row.link)]

/-- The document of a row of a list of tasks. -/
def TaskRow.toJson (row : TaskRow) : Json :=
  .object [("task", row.task.toJson), ("link", .string row.link)]

/-- The document of the rows alone. -/
def Rows.content : Rows → Json
  | table headers rows =>
    .object [("headers", .ofStrings headers), ("rows", .array (rows.map TableRow.toJson))]
  | list rows => .array (rows.map ListRow.toJson)
  | task rows => .array (rows.map TaskRow.toJson)

/-- The members that rows add to a document: their shape and themselves. -/
def Rows.members (rows : Rows) : List (String × Json) :=
  [("type", .string rows.kindName), ("rows", rows.content)]

/-- **The document of rows.** -/
def Rows.toJson (rows : Rows) : Json := .object rows.members

/-- **The document of a result**: its form, its rows and their count, the links, how many candidates
were skipped, and the time it took, which is zero where nobody measures it. -/
def Result.toJson (result : Result) : Json :=
  .object ([("query_type", .string result.form.text), ("result_count", .integer result.count)] ++
    result.rows.members ++
    [("discovered_links", .ofStrings result.discoveredLinks),
     ("skipped", .integer result.skipped.length),
     ("execution_time_ms", .number (.zero false))])

end Notebook.Execution
