import Notebook.Proofs.Execution.Shape
import Notebook.Proofs.Text.Written
import Notebook.Report.Markdown

/-!
# The lines of lists

Rows of a list and rows of a list of tasks are rendered one after another, each with a line feed at
its end (`Notebook.Report.rowLines`), and the text of a task is on one line. But a link is written
as it is, and the title of a note may have line feeds in it, which only a table writes as line
breaks. So there is a line for each row if and only if no link that is shown has a line feed in it
(`Notebook.Report.render_lines_iff`). A list shows all links, and a list of tasks shows them when it
is asked to.

White space at the end of the rendering is taken off. A line that shows a link ends in a bracket,
and the text of a task is on one line, so no line feed of a row is lost there.
-/

namespace Notebook.Report

open Execution Notebook.Task Text

/-- What is after the text of a task: the link to its note, if it is shown. -/
def linkMark (links : Bool) (link : String) : List Char :=
  if links then ' ' :: '(' :: (link.toList ++ [')']) else []

/-- **The lines of rows** that are no table, without their line feeds. -/
def rowLines (links : Bool) : Rows → List (List Char)
  | .table .. => []
  | .list rows => rows.map fun row => '-' :: ' ' :: row.link.toList
  | .task rows => rows.map fun row =>
      boxed row.task.status (' ' :: (row.task.text.toList ++ linkMark links row.link))

/-- No line of a row is blank: there is a hyphen at its start. -/
theorem isBlank_of_mem_rowLines {links : Bool} {rows : Rows} {line : List Char}
    (h : line ∈ rowLines links rows) : isBlank line = false := by
  cases rows with
  | table headers rows => cases h
  | list rows =>
    obtain ⟨row, -, rfl⟩ := List.mem_map.mp h
    rfl
  | task rows =>
    obtain ⟨row, -, rfl⟩ := List.mem_map.mp h
    rfl

/-! ### Line feeds in a line -/

/-- The line of a task that is on one line has the line feeds of its link, if that is shown. -/
theorem lineFeed_mem_boxed_iff {task : Task} (htask : task.Legible) (links : Bool) (link : String) :
    '\n' ∈ boxed task.status (' ' :: (task.text.toList ++ linkMark links link)) ↔
      links = true ∧ '\n' ∈ link.toList := by
  have hstatus := htask.status.symm
  cases links <;> simp [boxed, linkMark, hstatus, htask.oneLine]

section Listed

variable {form : Query.Form} {rows : Rows}

/-- **No line has a line feed in it** if and only if no link that is shown has one. -/
theorem rowLines_oneLine_iff (h : Listed form rows) (links : Bool) :
    (∀ line ∈ rowLines links rows, '\n' ∉ line) ↔
      (form = .task ∧ links = false) ∨ ∀ link ∈ rows.links, '\n' ∉ link.toList := by
  cases h with
  | list => simp [rowLines, Rows.links]
  | task hlegible =>
    rw [rowLines, Rows.links, List.forall_mem_map, List.forall_mem_map,
      forall₂_congr fun row hrow =>
        not_congr (lineFeed_mem_boxed_iff (hlegible row hrow) links row.link)]
    cases links <;> simp

/-- **A line with line feeds ends in its link**, and is not trimmed. -/
theorem trimEnd_of_mem_rowLines (h : Listed form rows) {links : Bool} {line : List Char}
    (hline : line ∈ rowLines links rows) (hfeed : '\n' ∈ line) : trimEnd line = line := by
  cases h with
  | list hlinks =>
    obtain ⟨row, hrow, rfl⟩ := List.mem_map.mp hline
    obtain ⟨note, hnote⟩ := hlinks row hrow
    have hend : '-' :: ' ' :: row.link.toList =
        ('-' :: ' ' :: '[' :: '[' :: note.shownTitle.toList) ++ [']', ']'] := by
      simp [hnote, Note.link]
    rw [hend]
    exact trimEnd_append_of_not_isBlank rfl
  | task hlegible =>
    obtain ⟨row, hrow, rfl⟩ := List.mem_map.mp hline
    obtain ⟨rfl, -⟩ := (lineFeed_mem_boxed_iff (hlegible row hrow) links row.link).mp hfeed
    have hend : boxed row.task.status (' ' :: (row.task.text.toList ++ linkMark true row.link)) =
        boxed row.task.status (' ' :: (row.task.text.toList ++ ' ' :: '(' :: row.link.toList)) ++
          [')'] := by
      simp [boxed, linkMark]
    rw [hend]
    exact trimEnd_append_of_not_isBlank rfl

theorem length_rowLines (h : Listed form rows) (links : Bool) :
    (rowLines links rows).length = rows.count := by
  cases h with
  | list => exact List.length_map ..
  | task => exact List.length_map ..

/-- **Rows are rendered as their lines**, one after another. -/
theorem toList_render (h : Listed form rows) (hsome : 0 < rows.count) (links : Bool) :
    (render links form rows).toList = trimEnd (written (rowLines links rows)) := by
  rw [render, if_neg (Nat.pos_iff_ne_zero.mp hsome)]
  cases h with
  | list =>
    simp [render?, trimmed, rowLines, written, listLine, String.toList_join, List.flatMap_map]
  | task =>
    have hline : ∀ row, (taskLine links row).toList =
        boxed row.task.status (' ' :: (row.task.text.toList ++ linkMark links row.link)) ++
          ['\n'] := by
      intro row
      cases links <;> simp [taskLine, boxed, linkMark]
    simp only [render?, Option.getD_some, trimmed, String.toList_ofList, String.toList_join,
      rowLines, written, List.flatMap_map, hline]

end Listed

/-! ### Rendered results -/

/-- **There is a line for each row** of a query for a list or for tasks, if and only if no link that
is shown has a line feed in it; and then the lines are those of the rows, in their order, the last
one without the white space at its end. -/
theorem render_lines_iff {functions : Evaluation.Registry} {query : Query} {notes : List Note}
    {result : Result} (hform : query.form ≠ .table)
    (h : execute functions query notes = .ok result) (hsome : 0 < result.count) (links : Bool) :
    let parts := splitWhere (· == '\n') (render links query.form result.rows).toList
    let oneLine := (query.form = .task ∧ links = false) ∨
      ∀ link ∈ result.rows.links, '\n' ∉ link.toList
    (parts.length = result.count ↔ oneLine) ∧
      (oneLine → parts = (rowLines links result.rows).modifyLast trimEnd) := by
  intro parts oneLine
  have hlisted := listed_of_execute hform h
  have hlength : (rowLines links result.rows).length = result.count := length_rowLines hlisted links
  have hnonempty : rowLines links result.rows ≠ [] := List.length_pos_iff.mp (hlength ▸ hsome)
  have hblank : ∀ line ∈ rowLines links result.rows, isBlank line = false :=
    fun line hline => isBlank_of_mem_rowLines hline
  have hparts : parts = splitWhere (· == '\n') (trimEnd (written (rowLines links result.rows))) :=
    congrArg _ (toList_render hlisted hsome links)
  have hone : (∀ line ∈ rowLines links result.rows, '\n' ∉ line) ↔ oneLine :=
    rowLines_oneLine_iff hlisted links
  rw [hparts, ← hone]
  constructor
  · rw [← hlength]
    refine length_splitWhere_trimEnd_written_iff hnonempty hblank fun line hline hfeed => ?_
    rwa [trimEnd_of_mem_rowLines hlisted hline hfeed]
  · exact splitWhere_trimEnd_written hnonempty hblank

/-! ### A note with a line feed in its title -/

/-- A note with a line feed in its title, and with tasks. -/
def brokenNote : Note := { Note.ofBody "a.md" "- [ ] x\n- [x]" with title := some "a\nb" }

/-- A query of a form for all there is. -/
def everyQuery (form : Query.Form) : Query := ⟨form, [], none, none, [], none⟩

/-- Without links, the tasks have a line each. -/
theorem render_lines_iff_brokenNote :
    ∃ result, execute Evaluation.builtins (everyQuery .task) [brokenNote] = .ok result ∧
      0 < result.count ∧
      let parts := splitWhere (· == '\n') (render false (everyQuery .task).form result.rows).toList
      parts = ["- [ ] x".toList, "- [x]".toList] ∧ parts.length = result.count ∧
        parts = (rowLines false result.rows).modifyLast trimEnd := by
  have hrendered : ((execute Evaluation.builtins (everyQuery .task) [brokenNote]).toOption.map
      fun result => (result.count,
        splitWhere (· == '\n') (render false (everyQuery .task).form result.rows).toList)) =
      some (2, ["- [ ] x".toList, "- [x]".toList]) := by
    decide +kernel
  obtain ⟨result, hexecute, hshown⟩ := exists_ok_of_toOption_map hrendered
  obtain ⟨hcount, hparts⟩ := Prod.mk.inj hshown
  have hsome : 0 < result.count := hcount ▸ Nat.two_pos
  obtain ⟨hlength, hlines⟩ := render_lines_iff (by decide) hexecute hsome false
  exact ⟨result, hexecute, hsome, hparts, hlength.mpr (.inl ⟨rfl, rfl⟩), hlines (.inl ⟨rfl, rfl⟩)⟩

/-- **One row on two lines**: the title of the note is broken where its line feed is. -/
theorem render_list_brokenNote :
    ∃ result, execute Evaluation.builtins (everyQuery .list) [brokenNote] = .ok result ∧
      result.count = 1 ∧
      splitWhere (· == '\n') (render true (everyQuery .list).form result.rows).toList =
        ["- [[a".toList, "b]]".toList] := by
  have hrendered : ((execute Evaluation.builtins (everyQuery .list) [brokenNote]).toOption.map
      fun result => (result.count,
        splitWhere (· == '\n') (render true (everyQuery .list).form result.rows).toList)) =
      some (1, ["- [[a".toList, "b]]".toList]) := by
    decide +kernel
  obtain ⟨result, hexecute, hshown⟩ := exists_ok_of_toOption_map hrendered
  exact ⟨result, hexecute, Prod.mk.inj hshown⟩

end Notebook.Report
