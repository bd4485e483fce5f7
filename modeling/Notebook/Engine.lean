import Notebook.Block
import Notebook.Evaluation.Builtin
import Notebook.Execution.Basic
import Notebook.Note.Collection
import Notebook.Report.Document
import Notebook.Report.Markdown

/-!
# The engine

A configuration and the functions that queries may call, put to work on single queries, on query
blocks and on whole documents. A query block never fails: whatever goes wrong in it, a breakdown
included, becomes its outcome, and the other blocks of the document are not concerned.
-/

namespace Notebook

open Execution Query Report

/-- **An engine.** -/
structure Engine where
  /-- The configuration. -/
  configuration : Configuration
  /-- The functions that queries may call. -/
  functions : Evaluation.Registry

namespace Engine

/-- The engine with a configuration and the built-in functions. -/
def ofConfiguration (configuration : Configuration) : Engine :=
  ⟨configuration, Evaluation.builtins⟩

/-- The notes of a collection that a query looks at. -/
def bounded (engine : Engine) (collection : Collection) : List Note :=
  match engine.configuration.maxNotes with
  | some count => collection.notes.take count
  | none => collection.notes

/-- **Runs a query** over a collection. -/
def execute (engine : Engine) (query : Query) (collection : Collection) :
    Except QueryError Result :=
  Execution.execute engine.functions query (engine.bounded collection)

/-- Runs the query that a text spells. -/
def run (engine : Engine) (source : String) (collection : Collection) :
    Except QueryError Result := do
  let query ← (parse source).mapError .syntaxError
  engine.execute query collection

/-- **Checks the query** that a text spells without running it, and its calls too if they are asked
for. -/
def check (engine : Engine) (calls : Bool) (source : String) : Except QueryError Query := do
  let query ← (parse source).mapError .syntaxError
  if calls then checkQuery engine.functions query
  return query

/-- The rendering of a result of a query. -/
def render (engine : Engine) (query : Query) (result : Result) : String :=
  Report.render engine.configuration.taskLinks query.form result.rows

/-! ### Blocks -/

/-- The outcome of a block that succeeds. -/
def succeed (block : Block) (form : Form) (result : Result) (markdown : String) : Outcome where
  id := block.id
  form := some form
  source := block.source
  line := block.startLine
  status := .success
  results := some markdown
  error := none
  count := result.count
  discoveredLinks := result.discoveredLinks
  milliseconds := .zero false

/-- The outcome of a block that fails. -/
def fail (block : Block) (form : Option Form) (e : QueryError) : Outcome where
  id := block.id
  form := form
  source := block.source
  line := block.startLine
  status := .error
  results := none
  error := some (Failure.of e)
  count := 0
  discoveredLinks := []
  milliseconds := .zero false

/-- **Processes a query block.** -/
def processBlock (engine : Engine) (block : Block) (collection : Collection) : Outcome :=
  match block.query with
  | .error e => fail block none (.syntaxError e)
  | .ok query =>
    match engine.execute query collection with
    | .error e => fail block (some query.form) e
    | .ok result => succeed block query.form result (engine.render query result)

/-! ### Documents -/

/-- **The report on a document.** -/
structure DocumentReport where
  /-- The outcomes of its query blocks. -/
  blocks : List Outcome
  /-- The document with their results. -/
  rendered : String

/-- How many blocks failed. -/
def DocumentReport.failed (report : DocumentReport) : Nat :=
  (report.blocks.filter (!·.isSuccess)).length

/-- The query blocks of a document. -/
def detect (engine : Engine) (document : String) : List Block :=
  (Block.Detector.ofConfiguration engine.configuration).detect document

/-- **Processes a document**: every query block in it. -/
def processDocument (engine : Engine) (document : String) (collection : Collection) :
    DocumentReport :=
  let blocks := (engine.detect document).map (engine.processBlock · collection)
  ⟨blocks, withResults document blocks⟩

end Engine

end Notebook
