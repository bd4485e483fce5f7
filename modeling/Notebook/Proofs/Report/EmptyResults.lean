import Notebook.Engine
import Notebook.Proofs.Execution.Shape
import Notebook.Proofs.Text.Trim

/-!
# The sentence for no rows

Two things make a rendering say that there are no results: there are no rows, or the rows do not
have the shape of the query and cannot be rendered at all. The second one would hide rows behind a
sentence that looks like an ordinary answer (`Notebook.Report.render_eq_emptyText_iff`).

It never comes to that. Rows can be rendered exactly when they have the shape of a form
(`Notebook.Report.exists_render?_iff`), the rows that a query gives have the shape of its form
(`Notebook.Report.hasShape_of_execute`), and what is rendered is never the sentence itself, as it
starts with another character (`Notebook.Report.render?_ne_emptyText`).
-/

namespace Notebook.Report

open Execution Text

/-! ### Rows that can be rendered -/

/-- **Rows have the shape of a form**: they are of its kind, and each row of a table has a value for
each header. -/
inductive HasShape : Query.Form → Rows → Prop
  /-- A table whose rows have as many values as there are headers. -/
  | table {headers : List String} {rows : List TableRow}
      (h : ∀ row ∈ rows, row.values.length = headers.length) : HasShape .table (.table headers rows)
  /-- Rows of a list. -/
  | list (rows : List ListRow) : HasShape .list (.list rows)
  /-- Rows of tasks. -/
  | task (rows : List TaskRow) : HasShape .task (.task rows)

variable {links : Bool} {form : Query.Form} {rows : Rows}

theorem tableText?_isSome_iff {headers : List String} {rows : List TableRow} :
    (tableText? headers rows).isSome ↔ ∀ row ∈ rows, row.values.length = headers.length := by
  unfold tableText?
  split
  · next hsome =>
    obtain ⟨row, hrow, hlength⟩ := List.any_eq_true.mp hsome
    exact iff_of_false nofun fun h => by simp [h row hrow] at hlength
  · next hnone => exact iff_of_true rfl (by simpa using hnone)

/-- **Rows can be rendered** for a form exactly when they have its shape. -/
theorem exists_render?_iff :
    (∃ text, render? links form rows = some text) ↔ HasShape form rows := by
  rw [← Option.isSome_iff_exists]
  constructor
  · intro h
    cases rows <;> cases form
    case table.table headers rows =>
      exact .table (tableText?_isSome_iff.mp (Option.isSome_map.symm.trans h))
    case list.list rows => exact .list rows
    case task.task rows => exact .task rows
    all_goals cases h
  · intro h
    cases h with
    | table h => exact Option.isSome_map.trans (tableText?_isSome_iff.mpr h)
    | list rows => rfl
    | task rows => rfl

/-! ### What is rendered is not the sentence -/

/-- A text is not trimmed to the sentence unless it starts with its first character. -/
theorem trimmed_ne_emptyText {s : String} (h : s.toList.head? ≠ some '_') :
    trimmed s ≠ emptyText := by
  intro htrimmed
  have hprefix : (trimmed s).toList <+: s.toList := by
    rw [trimmed, String.toList_ofList]
    exact isPrefix_dropEndWhile _ _
  obtain ⟨more, hmore⟩ := htrimmed ▸ hprefix
  rw [← hmore] at h
  exact h rfl

theorem head?_tableText? {headers : List String} {rows : List TableRow} {text : String}
    (h : tableText? headers rows = some text) : text.toList.head? = some '|' := by
  unfold tableText? at h
  split at h
  · cases h
  · obtain rfl := Option.some.inj h
    simp [cellLine]

/-- **What rows are rendered as is never the sentence**: a table starts with a bar, and the other
rows start with a hyphen or are not there. -/
theorem render?_ne_emptyText : render? links form rows ≠ some emptyText := by
  intro h
  cases exists_render?_iff.mp ⟨_, h⟩ with
  | table hvalues =>
    obtain ⟨text, htext, htrimmed⟩ := Option.map_eq_some_iff.mp h
    exact trimmed_ne_emptyText (by simp [head?_tableText? htext]) htrimmed
  | list rows =>
    refine trimmed_ne_emptyText ?_ (Option.some.inj h)
    cases rows <;> simp [String.toList_join, listLine]
  | task rows =>
    refine trimmed_ne_emptyText ?_ (Option.some.inj h)
    cases rows <;> simp [String.toList_join, taskLine]

/-- **When a rendering says that there are no results**: when there are no rows, or when they do not
have the shape of the form. -/
theorem render_eq_emptyText_iff :
    render links form rows = emptyText ↔ rows.count = 0 ∨ ¬HasShape form rows := by
  rw [render, ← exists_render?_iff]
  split
  · next hcount => simp [hcount]
  · next hcount =>
    cases htext : render? links form rows with
    | none => simp
    | some text =>
      have hne : text ≠ emptyText := fun heq => render?_ne_emptyText (heq ▸ htext)
      simp [hcount, hne]

/-! ### What a query gives -/

variable {functions : Evaluation.Registry} {query : Query} {notes : List Note} {result : Result}

/-- **The rows that a query gives have the shape of its form.** -/
theorem hasShape_of_execute (h : execute functions query notes = .ok result) :
    HasShape query.form result.rows := by
  obtain ⟨shown, hrows, hshown⟩ := exists_shown h
  rw [hrows, rowsOf]
  cases query.form with
  | table =>
    refine .table (List.forall_mem_map.mpr fun p hp => ?_)
    rw [List.length_map, (hshown p hp).2]
  | list => exact .list _
  | task => exact .task _

/-- **Results are never hidden**: what a query gives can be rendered as rows of its form, and it is
rendered so when there are rows. The sentence for no rows is shown exactly when there are none. -/
theorem render_of_execute (h : execute functions query notes = .ok result) (links : Bool) :
    ∃ text, render? links query.form result.rows = some text ∧
      (render links query.form result.rows = emptyText ↔ result.count = 0) ∧
      (result.count ≠ 0 → render links query.form result.rows = text) := by
  have hshape : HasShape query.form result.rows := hasShape_of_execute h
  obtain ⟨text, htext⟩ := exists_render?_iff.mpr hshape
  refine ⟨text, htext, ?_, fun hcount => ?_⟩
  · rw [render_eq_emptyText_iff]
    exact or_iff_left fun hnot => hnot hshape
  · rw [render, if_neg (show ¬result.rows.count = 0 from hcount), htext, Option.getD_some]

/-- Notes with ranks, the first one with the sentence as its title. -/
def sentenceNotes : List Note :=
  [{ rankedNote "a" (.integer 3) with title := some emptyText }, rankedNote "b" (.string "high")]

/-- A row that shows the sentence in a cell is rendered, and the sentence does not stand for it. -/
theorem render_of_execute_sentenceNotes :
    ∃ result text, execute Evaluation.builtins rankQuery sentenceNotes = .ok result ∧
      result.count = 1 ∧ result.skipped.length = 1 ∧
      text = "| File | rank | lower(unit) |\n| --- | --- | --- |\n| [[_No results._]] | 3 |  |" ∧
      render? true rankQuery.form result.rows = some text ∧
      (render true rankQuery.form result.rows = emptyText ↔ result.count = 0) ∧
      (result.count ≠ 0 → render true rankQuery.form result.rows = text) := by
  have hseen : ((execute Evaluation.builtins rankQuery sentenceNotes).toOption.map fun result =>
      (result.count, result.skipped.length, render? true rankQuery.form result.rows)) =
      some (1, 1, some
        "| File | rank | lower(unit) |\n| --- | --- | --- |\n| [[_No results._]] | 3 |  |") := by
    decide +kernel
  obtain ⟨result, hexecute, hshown⟩ := exists_ok_of_toOption_map hseen
  simp only [Prod.mk.injEq] at hshown
  obtain ⟨hcount, hskipped, hrendered⟩ := hshown
  obtain ⟨text, htext, hsentence, hrows⟩ := render_of_execute hexecute true
  have heq := Option.some.inj (htext.symm.trans hrendered)
  exact ⟨result, text, hexecute, hcount, hskipped, heq, htext, hsentence, hrows⟩

end Notebook.Report

namespace Notebook.Engine

open Report

/-- **A block shows the sentence for no rows** exactly when its query succeeds and gives none. -/
theorem results_eq_emptyText_iff (engine : Engine) (block : Block) (collection : Collection) :
    let outcome := engine.processBlock block collection
    outcome.results = some emptyText ↔ outcome.isSuccess = true ∧ outcome.count = 0 := by
  intro outcome
  cases hquery : block.query with
  | error e => simp [outcome, processBlock, hquery, fail, Outcome.isSuccess]
  | ok query =>
    cases hresult : engine.execute query collection with
    | error e => simp [outcome, processBlock, hquery, hresult, fail, Outcome.isSuccess]
    | ok result =>
      have hshape : HasShape query.form result.rows := hasShape_of_execute hresult
      have hsentence : engine.render query result = emptyText ↔ result.count = 0 :=
        render_eq_emptyText_iff.trans (or_iff_left fun hnot => hnot hshape)
      simp [outcome, processBlock, hquery, hresult, succeed, Outcome.isSuccess, hsentence]

end Notebook.Engine
