import Notebook.Report.Summary
import Notebook.Text.Trim

/-!
# Documents with results

The outcome of each query block of a document, and the document with a section of results after it:
one heading for each block, with the results of the block or its error below. A document without
blocks stays as it is.
-/

namespace Notebook.Report

open Number

/-- **The outcome of a query block.** -/
structure Outcome where
  /-- What the block is called. -/
  id : String
  /-- The form of its query; unknown when its text is no query. -/
  form : Option Query.Form
  /-- The text of its query. -/
  source : String
  /-- Its first line in the document. -/
  line : Nat
  /-- Whether it succeeded. -/
  status : Status
  /-- Its results. -/
  results : Option String
  /-- Its error. -/
  error : Option Failure
  /-- How many rows it has. -/
  count : Nat
  /-- The identities of the notes behind the rows. -/
  discoveredLinks : List String
  /-- How long it took, in milliseconds; zero where nobody measures it. -/
  milliseconds : Binary64

namespace Outcome

/-- Whether a block succeeded. -/
def isSuccess (outcome : Outcome) : Bool := outcome.status == .success

/-- The summary of an outcome. -/
def summary (o : Outcome) : Summary := ⟨o.id, o.form, o.status, o.count, o.milliseconds, o.error⟩

/-- **What is shown for a block**: its results, else its error. -/
def markdown (outcome : Outcome) : String :=
  match outcome.results, outcome.error with
  | some results, _ => results
  | none, some failure => failure.markdown
  | none, none => ""

/-- The member of a document for results, if there are any. -/
def resultsMember : Option String → List (String × Json)
  | some results => [("result_markdown", .string results)]
  | none => []

/-- **The document of an outcome.** -/
def toJson (o : Outcome) : Json :=
  .object ([("id", .string o.id), ("query_type", formToJson o.form),
    ("source_text", .string o.source), ("line_number", .integer o.line),
    ("status", .string o.status.text)] ++ resultsMember o.results ++ failureMember o.error ++
    [("result_count", .integer o.count), ("discovered_links", .ofStrings o.discoveredLinks),
     ("execution_time_ms", .number o.milliseconds)])

/-- The part of the results section for a block. -/
def sectionText (outcome : Outcome) : String :=
  "\n### " ++ outcome.id ++ " (line " ++ digitsOf outcome.line ++ ")\n\n" ++ outcome.markdown ++
    "\n"

end Outcome

/-- The heading of the results section, with the rule before it. -/
def resultsHeading : String := "\n\n---\n\n## Query Results\n"

/-- **A document with the results of its blocks.** -/
def withResults (document : String) (outcomes : List Outcome) : String :=
  if outcomes.isEmpty then document
  else String.ofList (Text.trimEnd document.toList) ++ resultsHeading ++
    String.join (outcomes.map Outcome.sectionText)

end Notebook.Report
