import Notebook.Proofs.Execution.Shape
import Notebook.Report.Markdown

/-!
# Checklists are read again

The rows of a query for tasks are rendered as a list of boxes to check, one line for each. This text
is itself a body with tasks, and without links to the notes these are the tasks of the rows
(`Notebook.Report.extract_render`): what is in a box and the text after it come back, and with them
the rest of the task.

The last line loses the white space at its end with the end of the rendering. A task without a text
has such white space; its line shows it all the same.
-/

namespace Notebook.Report

open Execution Notebook.Task Text

theorem toList_taskLine (row : TaskRow) : (taskLine false row).toList =
    boxed row.task.status (' ' :: row.task.text.toList) ++ ['\n'] := by
  simp [taskLine, boxed]

/-- **The lines of a checklist show its tasks.** -/
theorem forall₂_shows {rows : List TaskRow} (hrows : ∀ row ∈ rows, row.task.Legible) :
    List.Forall₂ Shows (rows.map TaskRow.task)
      (lines (trimEnd (rows.flatMap fun row => (taskLine false row).toList))) := by
  induction rows with
  | nil => exact .nil
  | cons row rows ih =>
    obtain ⟨hrow, hrows⟩ := List.forall_mem_cons.mp hrows
    rw [List.map_cons, List.flatMap_cons, toList_taskLine]
    rcases rows with _ | ⟨next, rows⟩
    · -- the last line, which loses the white space at its end
      have htrimmed : trimEnd (boxed row.task.status (' ' :: row.task.text.toList) ++ ['\n']) =
          boxed row.task.status (trimEnd (' ' :: row.task.text.toList)) := by
        rw [trimEnd_append_of_isBlank (by decide), trimEnd_boxed]
      have hline : '\n' ∉ boxed row.task.status (trimEnd (' ' :: row.task.text.toList)) := by
        rw [← trimEnd_boxed]
        exact fun hmem => hrow.not_mem_boxed ((isPrefix_dropEndWhile _ _).mem hmem)
      rw [List.flatMap_nil, List.append_nil, htrimmed, lines_of_not_mem hline]
      refine .cons ⟨_, rfl, ?_⟩ .nil
      rw [trim_trimEnd, hrow.trim_blank]
    · have hnext :
          isBlank ((next :: rows).flatMap fun row => (taskLine false row).toList) = false := by
        rw [List.flatMap_cons, toList_taskLine, isBlank_append, isBlank_append]
        rfl
      rw [trimEnd_append_of_not_isBlank hnext, List.append_assoc, List.singleton_append,
        lines_append_lineFeed hrow.not_mem_boxed, dropCarriageReturn_boxed]
      refine .cons ⟨_, rfl, ?_⟩ (ih hrows)
      rw [trim_dropCarriageReturn, hrow.trim_blank]

/-- **A rendered checklist is read as its rows**: rendering the rows of a query for tasks without
links, and looking for the tasks in the text, gives for each row its task, in the order of the rows
and on the lines from 1 on. Only the path and the line are those of the new text; the character in
the box, the text, the annotations and whether the task is done are those of the row. -/
theorem extract_render {functions : Evaluation.Registry} {query : Query} {notes : List Note}
    {result : Result} (hform : query.form = .task)
    (h : execute functions query notes = .ok result) (hsome : 0 < result.count) (path : String) :
    ∃ rows, result.rows = .task rows ∧ extract path (render false query.form result.rows) =
      (rows.map TaskRow.task).mapIdx fun index task =>
        { task with path := path, line := index + 1 } := by
  obtain ⟨rows, hrows, hlegible⟩ := exists_legible_rows hform h
  have hcount : ¬(Rows.task rows).count = 0 := by
    rw [← hrows]
    exact Nat.pos_iff_ne_zero.mp hsome
  have hrendered : (render false .task (.task rows)).toList =
      trimEnd (rows.flatMap fun row => (taskLine false row).toList) := by
    rw [render, if_neg hcount, render?, Option.getD_some, trimmed, String.toList_ofList,
      String.toList_join, List.flatMap_map]
  have htasks : ∀ task ∈ rows.map TaskRow.task, task.Legible := List.forall_mem_map.mpr hlegible
  have hshown := forall₂_shows hlegible
  rw [← hrendered] at hshown
  refine ⟨rows, hrows, ?_⟩
  rw [hform, hrows, extract_of_shows htasks hshown]

/-! ### A note with odd tasks -/

/-- A note with a bracket in a box, a box in a text, and a task without a text. -/
def oddNote : Note :=
  Note.ofBody "odd.md" "* []] - [x] a  [due:: soon]\n12) [X]\n~~~\n- [ ] code"

/-- All tasks. -/
def taskQuery : Query := ⟨.task, [], none, none, [], none⟩

theorem extract_render_oddNote :
    ∃ result, execute Evaluation.builtins taskQuery [oddNote] = .ok result ∧ 0 < result.count ∧
      render false taskQuery.form result.rows = "- []] - [x] a  [due:: soon]\n- [X]" ∧
      ∃ rows, result.rows = .task rows ∧
        extract "list.md" (render false taskQuery.form result.rows) =
          (rows.map TaskRow.task).mapIdx fun index task =>
            { task with path := "list.md", line := index + 1 } := by
  have hrendered : ((execute Evaluation.builtins taskQuery [oddNote]).toOption.map fun result =>
      render false taskQuery.form result.rows) = some "- []] - [x] a  [due:: soon]\n- [X]" := by
    decide +kernel
  obtain ⟨result, hresult, htext⟩ := Option.map_eq_some_iff.mp hrendered
  have hexecute := toOption_eq_some_iff.mp hresult
  have hsome : 0 < result.count := by
    by_contra hnot
    have hnone : result.rows.count = 0 := Nat.eq_zero_of_not_pos hnot
    rw [render, if_pos hnone] at htext
    exact absurd htext (by decide)
  exact ⟨result, hexecute, hsome, htext, extract_render rfl hexecute hsome "list.md"⟩

end Notebook.Report
