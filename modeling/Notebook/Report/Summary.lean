import Notebook.Execution.Result

/-!
# Summaries

The state of one query block in short: what it is called, its form, whether it succeeded, how many
rows it has, how long it took, and its error. `Notebook.Report.Summary.line` puts this on one line.
-/

namespace Notebook.Report

open Execution Number

/-- Whether a block succeeded. -/
inductive Status
  /-- It did. -/
  | success
  /-- It did not. -/
  | error
  deriving DecidableEq, Repr

/-- The word for a status. -/
def Status.text : Status → String
  | success => "success"
  | error => "error"

/-- **The error of a block** in short. -/
structure Failure where
  /-- The word for its kind. -/
  kind : String
  /-- Its wording without the kind. -/
  message : String
  deriving DecidableEq, Repr

/-- An error in short. -/
def Failure.of (e : QueryError) : Failure := ⟨e.kindName, e.detail⟩

/-- A text with its line feeds made blanks. -/
def onOneLine (s : String) : String :=
  String.ofList (s.toList.map fun c => if c = '\n' then ' ' else c)

/-- **What is shown in place of results** after an error. -/
def Failure.markdown (failure : Failure) : String :=
  "> **Query error** (" ++ failure.kind ++ "): " ++ onOneLine failure.message

/-- **The document of an error.** -/
def Failure.toJson (failure : Failure) : Json :=
  .object [("kind", .string failure.kind), ("message", .string failure.message)]

/-- The member of a document for an error, if there is one. -/
def failureMember : Option Failure → List (String × Json)
  | some failure => [("error", failure.toJson)]
  | none => []

/-- The document of the form of a query, null when it is not known. -/
def formToJson (form : Option Query.Form) : Json := Json.ofOption (fun f => .string f.text) form

/-- **The document of a query**: its form and its canonical text. -/
def queryToJson (query : Query) : Json :=
  .object [("query_type", .string query.form.text), ("canonical", .string query.text)]

/-- **A summary** of a query block. -/
structure Summary where
  /-- What the block is called. -/
  id : String
  /-- The form of its query; unknown when its text is no query. -/
  form : Option Query.Form
  /-- Whether it succeeded. -/
  status : Status
  /-- How many rows it has. -/
  count : Nat
  /-- How long it took, in milliseconds. -/
  milliseconds : Binary64
  /-- Its error. -/
  error : Option Failure

namespace Summary

/-- **A summary on one line.** -/
def line (s : Summary) : String :=
  let form := (s.form.map Query.Form.text).getD "?"
  match s.status, s.error with
  | .error, some failure =>
    s.id ++ " " ++ form ++ " error (" ++ failure.kind ++ "): " ++ failure.message
  | _, _ =>
    s.id ++ " " ++ form ++ " success: " ++ digitsOf s.count ++ " result" ++
      (if s.count = 1 then "" else "s") ++ " in " ++ hundredthsText s.milliseconds ++ "ms"

/-- **The document of a summary.** -/
def toJson (s : Summary) : Json :=
  .object ([("id", .string s.id), ("query_type", formToJson s.form),
    ("status", .string s.status.text), ("result_count", .integer s.count),
    ("execution_time_ms", .number s.milliseconds)] ++ failureMember s.error)

end Summary

end Notebook.Report
