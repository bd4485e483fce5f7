import Mathlib.Data.List.Infix
import Notebook.Proofs.Markdown.Places
import Notebook.Proofs.Text.Lines
import Notebook.Proofs.Text.Trim
import Notebook.Task.Basic

/-!
# Tasks that are read again

A task that was read can be written as a line of its own: a hyphen, the box with its status and its
text (`Notebook.Task.boxed`). Such a line is read as the same task
(`Notebook.Task.Legible.ofLine?_of_shows`), whatever white space is around the text. This takes that
the text of a task is trimmed and on one line, and that all else that a task has is told by its
status and its text (`Notebook.Task.Legible`); every task of a body is like that
(`Notebook.Task.legible_of_mem_extract`).

A body of such lines alone has no fenced code, as none of them starts with the mark of a fence; its
tasks are those of its lines, one for each (`Notebook.Task.extract_of_shows`).
-/

namespace Notebook.Task

open Markdown Text

/-! ### What was read -/

/-- **That a task is one that a line says.** -/
structure Legible (task : Task) : Prop where
  /-- No line feed is in the box. -/
  status : task.status ≠ '\n'
  /-- The text is on one line. -/
  oneLine : '\n' ∉ task.text.toList
  /-- No white space is around the text. -/
  trimmed : trim task.text.toList = task.text.toList
  /-- The status tells whether the task is done. -/
  completed : task.completed = (task.status == 'x' || task.status == 'X')
  /-- The annotations are those in the text. -/
  annotations : task.annotations = annotationsOf task.text.toList

variable {path body : String} {number : Nat} {line cs rest text : List Char} {status : Char}
  {task : Task}

theorem suffix_of_afterMark? (h : afterMark? cs = some rest) : rest <:+ cs := by
  unfold afterMark? at h
  split at h
  · cases h
  · next c others =>
    split at h
    · obtain rfl := Option.some.inj h
      exact List.suffix_cons _ _
    · split at h
      · next d after _ hdrop =>
        split at h
        · obtain rfl := Option.some.inj h
          calc after <:+ d :: after := List.suffix_cons _ _
            _ <:+ c :: others := hdrop ▸ List.dropWhile_suffix _
        · cases h
      · cases h

/-- **What a task line says** stands on the line. -/
theorem mem_of_taskLine? (h : taskLine? line = some (status, text)) :
    status ≠ '\n' ∧ ∃ tail, tail <:+ line ∧ text = trim tail := by
  unfold taskLine? at h
  obtain ⟨rest, hmark, h⟩ := Option.bind_eq_some_iff.mp h
  have hrest : rest <:+ line := (suffix_of_afterMark? hmark).trans (List.dropWhile_suffix _)
  split at h
  · cases h
  next c others =>
  obtain ⟨-, -, h⟩ := Option.bind_eq_some_iff.mp h
  split at h
  · next box tail hbox =>
    split at h
    · cases h
    · next hstatus =>
      cases h
      refine ⟨hstatus, tail, ?_, rfl⟩
      calc tail <:+ '[' :: status :: ']' :: tail := ⟨['[', status, ']'], rfl⟩
        _ <:+ c :: others := hbox ▸ List.dropWhile_suffix _
        _ <:+ line := hrest
  · cases h

/-- A task that was read on a line is one that a line says. -/
theorem legible_of_ofLine? (hline : '\n' ∉ line) (h : ofLine? path number line = some task) :
    task.Legible := by
  obtain ⟨⟨status, text⟩, hread, rfl⟩ := Option.map_eq_some_iff.mp h
  obtain ⟨hstatus, tail, htail, rfl⟩ := mem_of_taskLine? hread
  constructor
  case status => exact hstatus
  case oneLine =>
    rw [String.toList_ofList]
    exact fun hmem => hline (htail.mem ((isInfix_trim tail).mem hmem))
  case trimmed => rw [String.toList_ofList, trim_trim]
  case completed => rfl
  case annotations => rw [String.toList_ofList]

/-- **The tasks of a body** are such that a line says them. -/
theorem legible_of_mem_extract (h : task ∈ extract path body) : task.Legible := by
  obtain ⟨⟨number, line⟩, hplain, hread⟩ := List.mem_filterMap.mp h
  exact legible_of_ofLine? (not_mem_of_mem_lines (mem_lines_of_mem_plainLines hplain)) hread

/-! ### Lines with a box -/

/-- **A line with a box** that has a status in it, and with a text after the box. -/
def boxed (status : Char) (tail : List Char) : List Char :=
  '-' :: ' ' :: '[' :: status :: ']' :: tail

theorem fence?_boxed (status : Char) (tail : List Char) : fence? (boxed status tail) = none := by
  simp [fence?, boxed]

theorem taskLine?_boxed (hstatus : status ≠ '\n') (tail : List Char) :
    taskLine? (boxed status tail) = some (status, trim tail) := by
  have hstart : trimStart (boxed status tail) = boxed status tail := rfl
  have hmark : afterMark? (boxed status tail) = some (' ' :: '[' :: status :: ']' :: tail) := rfl
  rw [taskLine?, hstart, hmark, Option.bind_eq_bind, Option.bind_some]
  -- the box is after one blank
  change (if status = '\n' then none else some (status, trim tail)) = some (status, trim tail)
  rw [if_neg hstatus]

/-- The box is not trimmed. -/
theorem trimEnd_boxed (status : Char) (tail : List Char) :
    trimEnd (boxed status tail) = boxed status (trimEnd tail) := by
  have hbox : trimEnd ['-', ' ', '[', status, ']'] = ['-', ' ', '[', status, ']'] := rfl
  exact trimEnd_append hbox tail

theorem dropCarriageReturn_boxed (status : Char) (tail : List Char) :
    dropCarriageReturn (boxed status tail) = boxed status (dropCarriageReturn tail) := by
  cases tail with
  | nil => rfl
  | cons c tail =>
    simp only [dropCarriageReturn, boxed, List.getLast?_cons_cons, List.dropLast_cons_cons]
    split <;> rfl

/-- That a line **shows a task**: its box has the status in it, and after it comes the text, perhaps
with white space around it. -/
def Shows (task : Task) (line : List Char) : Prop :=
  ∃ tail, line = boxed task.status tail ∧ trim tail = task.text.toList

/-- **A line that shows a task is read as the task**, with its own number. -/
theorem Legible.ofLine?_of_shows (htask : task.Legible) (h : task.Shows line) :
    ofLine? path number line = some { task with path := path, line := number } := by
  obtain ⟨tail, rfl, htail⟩ := h
  rw [ofLine?, taskLine?_boxed htask.status, htail, Option.map_some]
  dsimp only
  rw [← htask.completed, ← htask.annotations, String.ofList_toList]

theorem Legible.not_mem_boxed (htask : task.Legible) :
    '\n' ∉ boxed task.status (' ' :: task.text.toList) := by
  simp [boxed, htask.oneLine, htask.status.symm]

/-- One blank between the box and the text is white space enough. -/
theorem Legible.trim_blank (htask : task.Legible) :
    trim (' ' :: task.text.toList) = task.text.toList := htask.trimmed

theorem Shows.fence? (h : task.Shows line) : Markdown.fence? line = none := by
  obtain ⟨tail, rfl, -⟩ := h
  exact fence?_boxed task.status tail

/-- The task on a line in its place, if the line is plain and a task line. -/
def ofPlaced? (path : String) : Nat × Place × List Char → Option Task
  | (number, .plain, line) => ofLine? path number line
  | _ => none

theorem extract_eq_filterMap (path body : String) :
    extract path body = (placeLines 1 none (lines body.toList)).filterMap (ofPlaced? path) := by
  rw [extract, plainLines, List.filterMap_filterMap]
  refine congrArg (List.filterMap · _) (funext fun entry => ?_)
  obtain ⟨number, place, line⟩ := entry
  cases place <;> rfl

theorem filterMap_placeLines_of_shows {tasks : List Task} {ls : List (List Char)}
    (htasks : ∀ task ∈ tasks, task.Legible) (h : List.Forall₂ Shows tasks ls) (number : Nat) :
    (placeLines number none ls).filterMap (ofPlaced? path) =
      tasks.mapIdx fun index task => { task with path := path, line := number + index } := by
  induction h generalizing number with
  | nil => rfl
  | @cons task line tasks ls hshows _ ih =>
    obtain ⟨htask, htasks⟩ := List.forall_mem_cons.mp htasks
    have hread : ofPlaced? path (number, .plain, line) =
        some { task with path := path, line := number } := htask.ofLine?_of_shows hshows
    rw [placeLines_of_no_fence hshows.fence?, List.filterMap_cons_some hread, ih htasks,
      List.mapIdx_cons]
    simp only [Nat.add_zero, Nat.add_assoc, Nat.add_comm 1]

/-- **Lines that show tasks are read as the tasks**, one for each, in their order and with the
numbers of the lines. -/
theorem extract_of_shows {tasks : List Task} (htasks : ∀ task ∈ tasks, task.Legible)
    (h : List.Forall₂ Shows tasks (lines body.toList)) :
    extract path body =
      tasks.mapIdx fun index task => { task with path := path, line := index + 1 } := by
  rw [extract_eq_filterMap, filterMap_placeLines_of_shows htasks h]
  simp only [Nat.add_comm 1]

end Notebook.Task
