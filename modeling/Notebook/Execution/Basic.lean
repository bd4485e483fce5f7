import Notebook.Evaluation.Basic
import Notebook.Execution.Result
import Notebook.Execution.Source
import Notebook.Sorting.Basic

/-!
# Execution

Running a query over notes, in stages. The source picks the notes; a query for tasks takes the tasks
of these notes as its candidates, the others take the notes. The condition is evaluated for each
candidate; those that are kept are sorted, cut at the limit, and only then given their columns.

A candidate whose condition or column is in error is skipped, and the query goes on. A sort key in
error fails the query, and so does a call that names no function or has a wrong count of arguments,
whether a candidate would reach it or not. And where not-a-number is among the values of the sort
keys, candidates are compared by what is no order, and sorting them may break down.
-/

namespace Notebook.Execution

open Evaluation Query

/-! ### Candidates -/

/-- **A candidate** for a row. -/
inductive Candidate
  /-- A note. -/
  | note (note : Note)
  /-- A task of a note. -/
  | task (task : Task) (note : Note)

namespace Candidate

/-- The note of a candidate. -/
def owner : Candidate → Note
  | note n => n
  | task _ n => n

/-- The line of a task. -/
def line? : Candidate → Option Nat
  | note _ => none
  | task t _ => some t.line

/-- The fields of a candidate. -/
def environment : Candidate → Environment
  | note n => n.environment
  | task t n => t.environment n

/-- The record of a candidate that is skipped. -/
def skip (c : Candidate) (e : EvaluationError) : Skipped := ⟨c.owner.path, c.line?, e⟩

end Candidate

/-- **The candidates** of a query among notes. -/
def candidates (query : Query) (notes : List Note) : List Candidate :=
  let asked := notes.filter fun note => query.source.all (·.has note)
  match query.form with
  | .task =>
    asked.flatMap fun note => (Task.extract note.path note.body).map (Candidate.task · note)
  | _ => asked.map Candidate.note

/-! ### Stages -/

/-- Runs a stage on candidates in turn: what it gives for those that it does not skip, and the
records of those that it does. A breakdown ends it. -/
def stage {α : Type} (step : Candidate → Except Stop α) :
    List Candidate → Except QueryError (List α × List Skipped)
  | [] => .ok ([], [])
  | c :: cs => do
    match step c with
    | .ok a =>
      let (done, skipped) ← stage step cs
      return (a :: done, skipped)
    | .error (.error e) =>
      let (done, skipped) ← stage step cs
      return (done, c.skip e :: skipped)
    | .error (.breakdown message) => .error (.unexpected message)

/-- Whether a candidate meets the condition of a query. -/
def meets (functions : Registry) (query : Query) (c : Candidate) : Except Stop Bool :=
  match query.condition with
  | none => .ok true
  | some condition => holds functions c.environment condition

/-- **The candidates that are kept** by the condition, and those that are skipped. -/
def filterStage (functions : Registry) (query : Query) (cs : List Candidate) :
    Except QueryError (List Candidate × List Skipped) := do
  let (judged, skipped) ← stage (fun c => (meets functions query c).map (c, ·)) cs
  return (judged.filterMap fun (c, kept) => if kept then some c else none, skipped)

/-- The values of the sort keys of candidates. -/
def sortValues (functions : Registry) (query : Query) :
    List Candidate → Except QueryError (List (List Value × Candidate))
  | [] => .ok []
  | c :: cs => do
    let values ← (evaluateAll functions c.environment
      (query.sort.map SortKey.expression)).mapError QueryError.ofStop
    return (values, c) :: (← sortValues functions query cs)

/-- The order of two values in a direction. -/
def directed (direction : Direction) (a b : Value) : Ordering :=
  match direction with
  | .ascending => a.sortOrder b
  | .descending => b.sortOrder a

/-- The order of two lists of values of sort keys: that of the first key on which they differ. -/
def keyOrder : List SortKey → List Value → List Value → Ordering
  | key :: keys, a :: as, b :: bs =>
    (directed key.direction a b).then (keyOrder keys as bs)
  | _, _, _ => .eq

/-- The order of two lines of tasks; no line comes before any. -/
def lineOrder : Option Nat → Option Nat → Ordering
  | none, none => .eq
  | none, some _ => .lt
  | some _, none => .gt
  | some m, some n => compare m n

/-- **The order of two candidates** with the values of their sort keys; candidates that the keys
leave equal are ordered by path and line. -/
def candidateOrder (keys : List SortKey) (a b : List Value × Candidate) : Ordering :=
  (keyOrder keys a.1 b.1).then
    ((compare a.2.owner.path b.2.owner.path).then (lineOrder a.2.line? b.2.line?))

/-- The wording of the breakdown of sorting. -/
def disorderText : String :=
  "user-provided comparison function does not correctly implement a total order"

/-- Candidates with the values of their sort keys in order. Sorting breaks down where the comparison
stands in its way. -/
def sortKeyed (keys : List SortKey) (keyed : List (List Value × Candidate)) :
    Except QueryError (List (List Value × Candidate)) :=
  match Sorting.sort? (fun a b => candidateOrder keys a b == .lt) keyed with
  | some sorted => .ok sorted
  | none => .error (.unexpected disorderText)

/-- **The candidates in order.** Without sort keys they stay as they are. -/
def sortStage (functions : Registry) (query : Query) (cs : List Candidate) :
    Except QueryError (List Candidate) :=
  if query.sort.isEmpty then .ok cs
  else do
    let keyed ← sortValues functions query cs
    return (← sortKeyed query.sort keyed).map Prod.snd

/-- The candidates up to the limit. -/
def limitStage (query : Query) (cs : List Candidate) : List Candidate :=
  match query.limit with
  | some limit => cs.take limit
  | none => cs

/-- **The candidates with the values of their columns**, and those that are skipped. -/
def columnStage (functions : Registry) (query : Query) (cs : List Candidate) :
    Except QueryError (List (Candidate × List Value) × List Skipped) :=
  stage (fun c =>
    (evaluateAll functions c.environment (query.columns.map Column.expression)).map (c, ·)) cs

/-! ### Results -/

/-- Items in order, each once. -/
def distinctStrings (items : List String) : List String :=
  items.foldl (fun seen item => if seen.contains item then seen else seen ++ [item]) []

/-- **The rows** of a query from the candidates that are left. -/
def rowsOf (query : Query) (survivors : List (Candidate × List Value)) : Rows :=
  match query.form with
  | .table =>
    .table (query.columns.map Column.header) (survivors.map fun (c, values) =>
      ⟨c.owner.identity, c.owner.link, values⟩)
  | .list => .list (survivors.map fun (c, _) => ⟨c.owner.identity, c.owner.link⟩)
  | .task => .task (survivors.filterMap fun (c, _) =>
      match c with
      | .task t n => some ⟨t, n.link⟩
      | .note _ => none)

/-- Checks the calls of all expressions of a query. -/
def checkQuery (functions : Registry) (query : Query) : Except QueryError Unit :=
  (checkAllCalls functions query.expressions).mapError .execution

/-- **Runs a query** over notes in the given order. -/
def execute (functions : Registry) (query : Query) (notes : List Note) :
    Except QueryError Result := do
  checkQuery functions query
  let (kept, skipped) ← filterStage functions query (candidates query notes)
  let sorted ← sortStage functions query kept
  let (survivors, dropped) ← columnStage functions query (limitStage query sorted)
  return {
    form := query.form
    rows := rowsOf query survivors
    discoveredLinks := distinctStrings (survivors.map fun (c, _) => c.owner.identity)
    skipped := skipped ++ dropped }

end Notebook.Execution
