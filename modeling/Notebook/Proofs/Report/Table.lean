import Notebook.Proofs.Execution.Shape
import Notebook.Proofs.Text.Written
import Notebook.Report.Markdown

/-!
# The lines of a table

A table is rendered as a line of headers, a line that separates them from the rows, and a line for
each row. What is in a cell may have bars and line feeds in it, but in the cell a backslash is right
before each bar, and there is no line feed (`Notebook.Report.fitsCell_cell`). The bars between cells
have a blank before them, whatever is at the end of the cell. So the bars without a backslash right
before them are those around the cells: on each line one more than there are cells
(`Notebook.Report.bareBars_tableLine`).
-/

namespace Notebook.Report

open Execution Text

/-! ### Bars -/

/-- How many bars of a text are **bare**, with no backslash right before them. The character before
the text is given, if there is one. -/
def bareBars (previous : Option Char) : List Char → Nat
  | [] => 0
  | c :: rest => (if c = '|' ∧ previous ≠ some '\\' then 1 else 0) + bareBars (some c) rest

theorem bareBars_append (previous : Option Char) (s t : List Char) :
    bareBars previous (s ++ t) = bareBars previous s + bareBars (s.getLast?.or previous) t := by
  induction s generalizing previous with
  | nil => exact (Nat.zero_add _).symm
  | cons c s ih =>
    have hlast : (c :: s).getLast?.or previous = s.getLast?.or (some c) := by
      rw [List.getLast?_cons]
      cases s.getLast? <;> rfl
    rw [List.cons_append, bareBars, bareBars, ih, hlast, Nat.add_assoc]

/-- That a text **fits into a cell**: it is on one line, and no bar of it is bare, whatever is
before it. -/
structure FitsCell (s : List Char) : Prop where
  /-- No bar of it is bare. -/
  bars : ∀ previous, bareBars previous s = 0
  /-- No line feed is in it. -/
  oneLine : '\n' ∉ s

theorem fitsCell_cellCharacter (c : Char) : FitsCell (cellCharacter c) := by
  fun_cases cellCharacter c with
  | case1 => exact ⟨fun _ => rfl, by decide⟩
  | case2 => exact ⟨fun _ => rfl, by decide⟩
  | case3 c hbar hfeed =>
    refine ⟨fun previous => ?_, fun hmem => hfeed (List.mem_singleton.mp hmem).symm⟩
    rw [bareBars, if_neg fun h => hbar h.1, bareBars]

theorem FitsCell.append {s t : List Char} (hs : FitsCell s) (ht : FitsCell t) :
    FitsCell (s ++ t) where
  bars previous := by rw [bareBars_append, hs.bars, ht.bars]
  oneLine := List.not_mem_append hs.oneLine ht.oneLine

/-- **A text is written so that it fits into a cell.** -/
theorem fitsCell_cell (s : String) : FitsCell (cell s).toList := by
  rw [cell, String.toList_ofList]
  induction s.toList with
  | nil => exact ⟨fun _ => rfl, List.not_mem_nil⟩
  | cons c cs ih =>
    rw [List.flatMap_cons]
    exact (fitsCell_cellCharacter c).append ih

/-! ### Lines of cells -/

/-- A line of cells, without its line feed. -/
def tableLine (cells : List String) : List Char :=
  '|' :: cells.flatMap fun text => ' ' :: (text.toList ++ [' ', '|'])

theorem toList_cellLine (cells : List String) :
    (cellLine cells).toList = tableLine cells ++ ['\n'] := by
  simp [cellLine, tableLine, String.toList_join, List.flatMap_map]

section Cells

variable {cells : List String}

/-- **The bare bars of a line are those around its cells.** -/
theorem bareBars_tableLine (h : ∀ text ∈ cells, FitsCell text.toList) :
    bareBars none (tableLine cells) = cells.length + 1 := by
  have hcells : ∀ previous, bareBars previous
      (cells.flatMap fun text => ' ' :: (text.toList ++ [' ', '|'])) = cells.length := by
    induction cells with
    | nil => exact fun _ => rfl
    | cons text cells ih =>
      obtain ⟨htext, hcells⟩ := List.forall_mem_cons.mp h
      intro previous
      -- the bar after the text has a blank before it
      have hclosed : bareBars previous (' ' :: (text.toList ++ [' ', '|'])) = 1 := by
        rw [bareBars, bareBars_append, htext.bars]
        rfl
      rw [List.flatMap_cons, bareBars_append, hclosed, ih hcells, List.length_cons, Nat.add_comm]
  rw [tableLine, bareBars, hcells, if_pos ⟨rfl, nofun⟩, Nat.add_comm]

theorem not_mem_tableLine (h : ∀ text ∈ cells, FitsCell text.toList) : '\n' ∉ tableLine cells := by
  intro hmem
  rcases List.mem_cons.mp hmem with hbar | hmem
  · exact absurd hbar (by decide)
  · obtain ⟨text, htext, hmem⟩ := List.mem_flatMap.mp hmem
    have hline := (h text htext).oneLine
    simp [hline] at hmem

/-- A line of cells ends in a bar. -/
theorem exists_tableLine_eq_concat (cells : List String) : ∃ s, tableLine cells = s ++ ['|'] := by
  rcases List.eq_nil_or_concat cells with rfl | ⟨others, text, rfl⟩
  · exact ⟨[], rfl⟩
  · refine ⟨'|' :: (others.flatMap fun text => ' ' :: (text.toList ++ [' ', '|'])) ++
      (' ' :: (text.toList ++ [' '])), ?_⟩
    simp [tableLine]

theorem isBlank_tableLine (cells : List String) : isBlank (tableLine cells) = false := rfl

theorem trimEnd_tableLine (cells : List String) : trimEnd (tableLine cells) = tableLine cells := by
  obtain ⟨s, hs⟩ := exists_tableLine_eq_concat cells
  rw [hs]
  exact trimEnd_append_of_not_isBlank rfl

end Cells

/-! ### Tables -/

/-- The cells of the lines of a table. -/
def tableCells (headers : List String) (rows : List TableRow) : List (List String) :=
  ("File" :: headers.map cell) :: List.replicate (headers.length + 1) "---" ::
    rows.map fun row => cell row.link :: row.values.map (cell ·.text)

theorem tableText?_eq {headers : List String} {rows : List TableRow}
    (h : ∀ row ∈ rows, row.values.length = headers.length) :
    (tableText? headers rows).map String.toList =
      some (written ((tableCells headers rows).map tableLine)) := by
  have hall : rows.any (·.values.length != headers.length) = false := by
    refine List.any_eq_false.mpr fun row hrow => ?_
    simp [h row hrow]
  rw [tableText?, hall, if_neg Bool.false_ne_true]
  simp [tableCells, written, toList_cellLine, String.toList_join, List.flatMap_map]

theorem fitsCell_of_mem_tableCells {headers : List String} {rows : List TableRow}
    {cells : List String} (h : cells ∈ tableCells headers rows) :
    ∀ text ∈ cells, FitsCell text.toList := by
  intro text htext
  rcases List.mem_cons.mp h with rfl | h
  · rcases List.mem_cons.mp htext with rfl | htext
    · exact ⟨fun _ => rfl, by decide⟩
    · obtain ⟨header, -, rfl⟩ := List.mem_map.mp htext
      exact fitsCell_cell header
  · rcases List.mem_cons.mp h with rfl | h
    · obtain rfl := List.eq_of_mem_replicate htext
      exact ⟨fun _ => rfl, by decide⟩
    · obtain ⟨row, -, rfl⟩ := List.mem_map.mp h
      rcases List.mem_cons.mp htext with rfl | htext
      · exact fitsCell_cell row.link
      · obtain ⟨value, -, rfl⟩ := List.mem_map.mp htext
        exact fitsCell_cell value.text

theorem length_of_mem_tableCells {headers : List String} {rows : List TableRow}
    {cells : List String} (hrows : ∀ row ∈ rows, row.values.length = headers.length)
    (h : cells ∈ tableCells headers rows) : cells.length = headers.length + 1 := by
  rcases List.mem_cons.mp h with rfl | h
  · rw [List.length_cons, List.length_map]
  · rcases List.mem_cons.mp h with rfl | h
    · exact List.length_replicate
    · obtain ⟨row, hrow, rfl⟩ := List.mem_map.mp h
      rw [List.length_cons, List.length_map, hrows row hrow]

/-- **A table is rendered as its lines**, when it has rows. -/
theorem splitWhere_render_table {headers : List String} {rows : List TableRow} (links : Bool)
    (hsome : rows ≠ []) (h : ∀ row ∈ rows, row.values.length = headers.length) :
    splitWhere (· == '\n') (render links .table (.table headers rows)).toList =
      (tableCells headers rows).map tableLine := by
  obtain ⟨text, htext, hwritten⟩ := Option.map_eq_some_iff.mp (tableText?_eq h)
  have hcount : ¬(Rows.table headers rows).count = 0 := List.length_eq_zero_iff.not.mpr hsome
  have hrender : (render links .table (.table headers rows)).toList =
      trimEnd (written ((tableCells headers rows).map tableLine)) := by
    rw [render, if_neg hcount, render?, htext, Option.map_some, Option.getD_some, trimmed,
      String.toList_ofList, hwritten]
  have hlines : ∀ cells ∈ tableCells headers rows, '\n' ∉ tableLine cells :=
    fun cells hcells => not_mem_tableLine (fitsCell_of_mem_tableCells hcells)
  have htrimmed : ((tableCells headers rows).map tableLine).modifyLast trimEnd =
      (tableCells headers rows).map tableLine :=
    modifyLast_eq_self (List.forall_mem_map.mpr fun cells _ => trimEnd_tableLine cells)
  have hnonempty : (tableCells headers rows).map tableLine ≠ [] := List.cons_ne_nil _ _
  rw [hrender, splitWhere_trimEnd_written hnonempty, htrimmed]
  · exact List.forall_mem_map.mpr fun cells _ => isBlank_tableLine cells
  · exact List.forall_mem_map.mpr hlines

/-- **A table has its grid**: the rendering of a query for a table that has rows is made of two
lines and a line for each row, and on each of them there are two bare bars more than the query has
columns. What is in the titles, the headers and the values does not matter. -/
theorem render_table_grid {functions : Evaluation.Registry} {query : Query} {notes : List Note}
    {result : Result} (hform : query.form = .table)
    (h : execute functions query notes = .ok result) (hsome : 0 < result.count) (links : Bool) :
    let parts := splitWhere (· == '\n') (render links query.form result.rows).toList
    parts.length = result.count + 2 ∧
      ∀ part ∈ parts, bareBars none part = query.columns.length + 2 := by
  intro parts
  obtain ⟨rows, hrows, hvalues⟩ := exists_table_rows hform h
  have hcount : result.count = rows.length := congrArg Rows.count hrows
  have hne : rows ≠ [] := List.length_pos_iff.mp (hcount ▸ hsome)
  rw [← List.length_map (f := Query.Column.header)] at hvalues
  have hparts :
      parts = (tableCells (query.columns.map Query.Column.header) rows).map tableLine := by
    rw [← splitWhere_render_table links hne hvalues, ← hform, ← hrows]
  rw [hparts]
  constructor
  · rw [hcount, List.length_map, tableCells, List.length_cons, List.length_cons, List.length_map]
  · refine List.forall_mem_map.mpr fun cells hcells => ?_
    rw [bareBars_tableLine (fitsCell_of_mem_tableCells hcells),
      length_of_mem_tableCells hvalues hcells, List.length_map]

/-! ### A note with bars -/

/-- A note with bars, backslashes and line feeds in its title and in a list that is its field. -/
def barredNote : Note :=
  { Note.ofBody "b.md" "" with title := some "a|b\\\n" }.withField "x"
    (.list [.string "|\\", .list [.string "\n|"], .null])

/-- A query for a table with bars in its headers. -/
def barredQuery : Query where
  form := .table
  columns := [⟨.field ⟨["x"]⟩, some "p|\\\nq"⟩, ⟨.literal (.string "|"), none⟩]
  source := none
  condition := none
  sort := []
  limit := none

theorem render_table_grid_barredNote :
    ∃ result, execute Evaluation.builtins barredQuery [barredNote] = .ok result ∧
      0 < result.count ∧
      let parts := splitWhere (· == '\n') (render true barredQuery.form result.rows).toList
      parts = ["| File | p\\|\\<br>q | \"\\|\" |".toList, "| --- | --- | --- |".toList,
          "| [[a\\|b\\<br>]] | \\|\\, <br>\\|,  | \\| |".toList] ∧
        parts.length = result.count + 2 ∧
        ∀ part ∈ parts, bareBars none part = barredQuery.columns.length + 2 := by
  have hrendered :
      ((execute Evaluation.builtins barredQuery [barredNote]).toOption.map fun result =>
      (result.count, splitWhere (· == '\n') (render true barredQuery.form result.rows).toList)) =
      some (1, ["| File | p\\|\\<br>q | \"\\|\" |".toList, "| --- | --- | --- |".toList,
        "| [[a\\|b\\<br>]] | \\|\\, <br>\\|,  | \\| |".toList]) := by
    decide +kernel
  obtain ⟨result, hexecute, hshown⟩ := exists_ok_of_toOption_map hrendered
  obtain ⟨hcount, hparts⟩ := Prod.mk.inj hshown
  have hsome : 0 < result.count := hcount ▸ Nat.one_pos
  exact ⟨result, hexecute, hsome, hparts, render_table_grid rfl hexecute hsome true⟩

end Notebook.Report
