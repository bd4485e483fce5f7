import Notebook.Proofs.Execution.Run
import Notebook.Proofs.Task.Rereading

/-!
# The shape of rows

The rows of a result have the shape that the form of the query asks for. Each row of a table has one
value for each column (`Notebook.Execution.exists_table_rows`): a candidate is shown with the values
of all columns or not at all. The other rows show links to notes, or tasks that were read on lines
(`Notebook.Execution.listed_of_execute`).
-/

namespace Notebook.Execution

open Evaluation Query

/-- **The links of rows** to their notes. -/
def Rows.links : Rows → List String
  | table _ rows => rows.map TableRow.link
  | list rows => rows.map ListRow.link
  | task rows => rows.map TaskRow.link

variable {functions : Registry} {query : Query} {notes : List Note} {result : Result}

/-- A task among the candidates was read on a line. -/
theorem legible_of_mem_candidates {task : Task} {note : Note}
    (h : .task task note ∈ candidates query notes) : task.Legible :=
  Task.legible_of_mem_extract (mem_extract_of_mem_candidates h)

/-- A result is written from candidates, each with a value for each column. -/
theorem exists_shown (h : execute functions query notes = .ok result) :
    ∃ shown, result.rows = rowsOf query shown ∧
      ∀ p ∈ shown, p.1 ∈ candidates query notes ∧ p.2.length = query.columns.length := by
  obtain ⟨r, hrun, rfl⟩ := execute_eq_ok_iff.mp h
  have hruns := run_eq_ok_iff.mp hrun
  refine ⟨r.shown, rfl, fun p hp => ⟨hruns.mem_candidates_of_mem_shown hp, ?_⟩⟩
  exact (List.Forall₂.length_eq (hruns.mem_shown.mp hp).2).symm

/-- **The rows of a table** have a value under each header, and the headers are those of the
columns.
-/
theorem exists_table_rows (hform : query.form = .table)
    (h : execute functions query notes = .ok result) :
    ∃ rows, result.rows = .table (query.columns.map Column.header) rows ∧
      ∀ row ∈ rows, row.values.length = query.columns.length := by
  obtain ⟨shown, hrows, hshown⟩ := exists_shown h
  rw [hrows, rowsOf, hform]
  refine ⟨_, rfl, fun row hrow => ?_⟩
  obtain ⟨p, hp, rfl⟩ := List.mem_map.mp hrow
  exact (hshown p hp).2

/-- **The rows of a query for tasks** have tasks that were read on lines. -/
theorem exists_legible_rows (hform : query.form = .task)
    (h : execute functions query notes = .ok result) :
    ∃ rows, result.rows = .task rows ∧ ∀ row ∈ rows, row.task.Legible := by
  obtain ⟨shown, hrows, hshown⟩ := exists_shown h
  rw [hrows, rowsOf, hform]
  refine ⟨_, rfl, fun row hrow => ?_⟩
  obtain ⟨⟨c, values⟩, hp, hsome⟩ := List.mem_filterMap.mp hrow
  have hc := (hshown _ hp).1
  cases c with
  | note note => cases hsome
  | task task note =>
    cases hsome
    exact legible_of_mem_candidates hc

/-- **The shape of rows that are no table**: a list shows links to notes, and a list of tasks shows
tasks that were read on lines. -/
inductive Listed : Form → Rows → Prop
  | list {rows : List ListRow} (h : ∀ row ∈ rows, ∃ note : Note, row.link = note.link) :
      Listed .list (.list rows)
  | task {rows : List TaskRow} (h : ∀ row ∈ rows, row.task.Legible) : Listed .task (.task rows)

/-- **A query for a list or for tasks gives rows of its shape.** -/
theorem listed_of_execute (hform : query.form ≠ .table)
    (h : execute functions query notes = .ok result) : Listed query.form result.rows := by
  cases hquery : query.form with
  | table => exact absurd hquery hform
  | list =>
    obtain ⟨shown, hrows, -⟩ := exists_shown h
    rw [hrows, rowsOf, hquery]
    refine .list fun row hrow => ?_
    obtain ⟨p, -, rfl⟩ := List.mem_map.mp hrow
    exact ⟨p.1.owner, rfl⟩
  | task =>
    obtain ⟨rows, hrows, hlegible⟩ := exists_legible_rows hquery h
    rw [hrows]
    exact .task hlegible

end Notebook.Execution
