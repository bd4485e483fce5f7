import Notebook.Proofs.Execution.Run

/-!
# What becomes of each candidate

A query without a limit accounts for all of its candidates: each has a row, or a record among those
that are skipped, or was rejected by the condition, and each as often as it is a candidate
(`Notebook.Execution.execute_accounts`).
-/

namespace Notebook.Execution

open Evaluation Query

/-- **An account** of a result: which candidates are shown, with what columns, which are dropped,
with what error, and which are rejected. -/
structure Accounts (functions : Registry) (query : Query) (notes : List Note) (result : Result)
    (shown : List (Candidate × List Value)) (dropped : List (Candidate × EvaluationError))
    (rejected : List Candidate) : Prop where
  /-- Each candidate is in one of the three, as often as it is a candidate, and nothing else is. -/
  complete : (shown.map Prod.fst ++ dropped.map Prod.fst ++ rejected).Perm (candidates query notes)
  /-- Those that the condition accepts and that have their columns are shown. -/
  mem_shown : ∀ p, p ∈ shown ↔ p.1 ∈ candidates query notes ∧ Accepts functions query p.1 ∧
    HasColumns functions query p.1 p.2
  /-- Those for which the condition fails are dropped, and those that it accepts when a column
  fails. -/
  mem_dropped : ∀ p, p ∈ dropped ↔ p.1 ∈ candidates query notes ∧
    (ConditionFails functions query p.1 p.2 ∨
      Accepts functions query p.1 ∧ ColumnFails functions query p.1 p.2)
  /-- Those that the condition rejects are rejected. -/
  mem_rejected : ∀ c, c ∈ rejected ↔ c ∈ candidates query notes ∧ Rejects functions query c
  /-- The rows are those of the candidates that are shown. -/
  rows : result.rows = rowsOf query shown
  /-- There is one row for each of them. -/
  count : result.count = shown.length
  /-- The records are those of the candidates that are dropped: path, line and error. -/
  skipped : result.skipped = dropped.map fun p => ⟨p.1.owner.path, p.1.line?, p.2⟩

variable {functions : Registry} {query : Query} {notes : List Note} {result : Result}

/-- **Nothing is lost, invented or doubled** by a query without a limit. -/
theorem execute_accounts (hlimit : query.limit = none)
    (h : execute functions query notes = .ok result) :
    ∃ shown dropped rejected, Accounts functions query notes result shown dropped rejected := by
  obtain ⟨r, hrun, rfl⟩ := execute_eq_ok_iff.mp h
  have hruns := run_eq_ok_iff.mp hrun
  obtain ⟨skipped, harranged, hskipped⟩ := hruns.arranged
  have hcut : limitStage query r.kept = r.kept := limitStage_of_none hlimit _
  have hcolumns := hruns.columns
  rw [hcut] at hskipped hcolumns
  obtain ⟨rejected, hrejected, hperm⟩ := exists_perm_filter harranged.conditions
  refine ⟨r.shown, failed (meets functions query) (candidates query notes) ++
    failed (columnValues functions query) r.kept, rejected, ?_⟩
  have hshown : r.shown = passed (columnValues functions query) r.kept :=
    hruns.shown.trans (by rw [hcut])
  let undecided := (failed (meets functions query) (candidates query notes)).map Prod.fst
  let columnless := (failed (columnValues functions query) r.kept).map Prod.fst
  constructor
  case complete =>
    -- A candidate with a failing column was kept, so it goes back to those that are shown first.
    rw [List.map_append]
    calc (r.shown.map Prod.fst ++ (undecided ++ columnless) ++ rejected).Perm
          (r.shown.map Prod.fst ++ columnless ++ undecided ++ rejected) := by
          rw [List.append_assoc _ columnless]
          exact (List.perm_append_comm.append_left _).append_right _
      _ |>.Perm (r.kept ++ undecided ++ rejected) := by
          rw [hshown]
          exact ((perm_passed_failed hcolumns).append_right _).append_right _
      _ |>.Perm ((candidates query notes).filter (keeps functions query) ++ undecided ++
            rejected) := (harranged.perm_kept.append_right _).append_right _
      _ |>.Perm (candidates query notes) := hperm
  case mem_shown =>
    intro p
    rw [hruns.mem_shown, hcut, hruns.mem_kept, and_assoc]
  case mem_dropped =>
    intro p
    rw [List.mem_append, mem_failed, meets_eq_error_iff, mem_failed, columnValues_eq_error_iff,
      hruns.mem_kept, and_assoc, and_or_left]
  case mem_rejected => exact hrejected
  case rows => rfl
  case count => exact count_rowsOf fun p hp => hruns.mem_candidates_of_mem_shown hp
  case skipped =>
    rw [List.map_append]
    exact hskipped.trans (congrArg (· ++ _) harranged.skipped)

/-- Of the five notes two are shown, two are dropped and one is rejected. -/
theorem execute_accounts_rankedNotes : ∃ result shown dropped rejected,
    execute builtins rankQuery rankedNotes = .ok result ∧ shown.length = 2 ∧ dropped.length = 2 ∧
      rejected.length = 1 ∧
      Accounts builtins rankQuery rankedNotes result shown dropped rejected := by
  obtain ⟨result, h⟩ := exists_result_rankedNotes
  have hcounts : (execute builtins rankQuery rankedNotes).toOption.map
      (fun result => (result.count, result.skipped.length)) = some (2, 2) := by decide
  rw [h] at hcounts
  obtain ⟨hcount, hskipped⟩ := Prod.mk.inj (Option.some.inj hcounts)
  obtain ⟨shown, dropped, rejected, haccounts⟩ := execute_accounts rfl h
  have hshown : shown.length = 2 := haccounts.count.symm.trans hcount
  have hdropped : dropped.length = 2 := by
    rw [← List.length_map, ← haccounts.skipped]
    exact hskipped
  have hall := haccounts.complete.length_eq
  rw [List.length_append, List.length_append, List.length_map, List.length_map, hshown,
    hdropped] at hall
  have hcandidates : (candidates rankQuery rankedNotes).length = 5 := by decide
  exact ⟨result, shown, dropped, rejected, h, hshown, hdropped, by omega, haccounts⟩

end Notebook.Execution
