import Notebook.Evaluation.Builtin
import Notebook.Proofs.Execution.Precedence
import Notebook.Proofs.Execution.Stages

/-!
# Runs

The result of a query is written from its rows, and a row does not tell which candidate it comes
from. **A run** (`Notebook.Execution.Run`) is what a query comes to before that: the candidates that
the condition keeps, in order; those of them that are shown, with the values of their columns; and
the records of those that are skipped. A query gives the result of its run
(`Notebook.Execution.execute_eq_run`), and what makes a run that of a query is in
`Notebook.Execution.Runs`.

Everything up to the limit is apart in `Notebook.Execution.arrange`, as it is the same for every
limit.
-/

namespace Notebook.Execution

open Evaluation Query

/-- **A run** of a query. -/
structure Run where
  /-- The candidates that are kept, in order. -/
  kept : List Candidate
  /-- The candidates that are shown, with the values of their columns. -/
  shown : List (Candidate × List Value)
  /-- The records of the candidates that are skipped. -/
  skipped : List Skipped

/-- **The result of a run.** -/
def Run.result (query : Query) (r : Run) : Result where
  form := query.form
  rows := rowsOf query r.shown
  discoveredLinks := distinctStrings (r.shown.map fun p => p.1.owner.identity)
  skipped := r.skipped

/-- The candidates that are kept, in order, and the records of those for which the condition
fails. -/
def arrange (functions : Registry) (query : Query) (notes : List Note) :
    Except QueryError (List Candidate × List Skipped) := do
  checkQuery functions query
  let (kept, skipped) ← filterStage functions query (candidates query notes)
  return (← sortStage functions query kept, skipped)

/-- **The run of a query** over notes. -/
def run (functions : Registry) (query : Query) (notes : List Note) : Except QueryError Run := do
  let (kept, skipped) ← arrange functions query notes
  let (shown, dropped) ← columnStage functions query (limitStage query kept)
  return ⟨kept, shown, skipped ++ dropped⟩

variable {functions : Registry} {query : Query} {notes : List Note}

/-- **A query gives the result of its run.** -/
theorem execute_eq_run (functions : Registry) (query : Query) (notes : List Note) :
    execute functions query notes = (run functions query notes).map (Run.result query) := by
  unfold execute run arrange
  cases checkQuery functions query with
  | error e => rfl
  | ok calls =>
    cases filterStage functions query (candidates query notes) with
    | error e => rfl
    | ok filtered =>
      simp only [bind, Except.bind]
      cases sortStage functions query filtered.1 with
      | error e => rfl
      | ok kept =>
        simp only [pure, Except.pure]
        cases columnStage functions query (limitStage query kept) <;> rfl

theorem execute_eq_ok_iff {result : Result} : execute functions query notes = .ok result ↔
    ∃ r, run functions query notes = .ok r ∧ r.result query = result := by
  rw [execute_eq_run]
  cases run functions query notes <;> simp [Except.map]

/-! ### What makes a run -/

/-- The candidates that are kept and the records of the failures, **as a query arranges them**. -/
structure Arranges (functions : Registry) (query : Query) (notes : List Note)
    (kept : List Candidate) (skipped : List Skipped) : Prop where
  /-- All calls are in order. -/
  calls : checkQuery functions query = .ok ()
  /-- The condition is answered by all candidates. -/
  conditions : Answered (meets functions query) (candidates query notes)
  /-- Those that are kept are sorted. -/
  sorted : sortStage functions query
    ((candidates query notes).filter (keeps functions query)) = .ok kept
  /-- Those for which the condition fails are recorded. -/
  skipped : skipped = records (failed (meets functions query) (candidates query notes))

theorem arrange_eq_ok_iff {kept : List Candidate} {skipped : List Skipped} :
    arrange functions query notes = .ok (kept, skipped) ↔
      Arranges functions query notes kept skipped := by
  unfold arrange
  simp only [bind_eq_ok_iff, Prod.exists, pure, Except.pure, Except.ok.injEq, Prod.mk.injEq,
    filterStage_eq_ok_iff]
  constructor
  · rintro ⟨_, hcalls, _, _, ⟨hconditions, rfl, rfl⟩, _, hsorted, rfl, rfl⟩
    exact ⟨hcalls, hconditions, hsorted, rfl⟩
  · rintro ⟨hcalls, hconditions, hsorted, rfl⟩
    exact ⟨(), hcalls, _, _, ⟨hconditions, rfl, rfl⟩, _, hsorted, rfl, rfl⟩

/-- **What makes a run** that of a query. -/
structure Runs (functions : Registry) (query : Query) (notes : List Note) (r : Run) : Prop where
  /-- The candidates are arranged, and there are records of the failures of the condition and of
  those of the columns. -/
  arranged : ∃ skipped, Arranges functions query notes r.kept skipped ∧ r.skipped = skipped ++
    records (failed (columnValues functions query) (limitStage query r.kept))
  /-- The columns are answered by all candidates up to the limit. -/
  columns : Answered (columnValues functions query) (limitStage query r.kept)
  /-- Those that have columns are shown. -/
  shown : r.shown = passed (columnValues functions query) (limitStage query r.kept)

theorem run_eq_ok_iff {r : Run} :
    run functions query notes = .ok r ↔ Runs functions query notes r := by
  unfold run
  simp only [bind_eq_ok_iff, Prod.exists, pure, Except.pure, Except.ok.injEq, arrange_eq_ok_iff,
    columnStage_eq_ok_iff]
  constructor
  · rintro ⟨kept, skipped, harranged, _, _, ⟨hcolumns, rfl, rfl⟩, rfl⟩
    exact ⟨⟨skipped, harranged, rfl⟩, hcolumns, rfl⟩
  · rintro ⟨⟨skipped, harranged, hskipped⟩, hcolumns, hshown⟩
    refine ⟨r.kept, skipped, harranged, _, _, ⟨hcolumns, rfl, rfl⟩, ?_⟩
    rw [← hskipped, ← hshown]

/-! ### What is in a run -/

theorem limitStage_of_none (hlimit : query.limit = none) (cs : List Candidate) :
    limitStage query cs = cs := by
  rw [limitStage, hlimit]

theorem limitStage_sublist (query : Query) (cs : List Candidate) :
    (limitStage query cs).Sublist cs := by
  unfold limitStage
  split
  · exact List.take_sublist ..
  · exact .refl _

section

variable {r : Run} {c : Candidate} {p : Candidate × List Value}

/-- The candidates that the condition accepts are kept, each as often as it is a candidate. -/
theorem Arranges.perm_kept {kept : List Candidate} {skipped : List Skipped}
    (h : Arranges functions query notes kept skipped) :
    kept.Perm ((candidates query notes).filter (keeps functions query)) :=
  perm_sortStage h.sorted

theorem Arranges.mem_kept {kept : List Candidate} {skipped : List Skipped}
    (h : Arranges functions query notes kept skipped) :
    c ∈ kept ↔ c ∈ candidates query notes ∧ Accepts functions query c := by
  rw [h.perm_kept.mem_iff, List.mem_filter, keeps_iff]

theorem Runs.mem_kept (h : Runs functions query notes r) :
    c ∈ r.kept ↔ c ∈ candidates query notes ∧ Accepts functions query c :=
  h.arranged.elim fun _ harranged => harranged.1.mem_kept

/-- Those up to the limit that have columns are shown. -/
theorem Runs.mem_shown (h : Runs functions query notes r) :
    p ∈ r.shown ↔ p.1 ∈ limitStage query r.kept ∧ HasColumns functions query p.1 p.2 := by
  rw [h.shown, mem_passed, columnValues_eq_ok_iff]

/-- The candidates that are shown are kept, and in the same order. -/
theorem Runs.shown_sublist (h : Runs functions query notes r) :
    (r.shown.map Prod.fst).Sublist r.kept := by
  rw [h.shown, passed, paired_map_fst]
  exact List.filter_sublist.trans (limitStage_sublist query r.kept)

theorem Runs.mem_candidates_of_mem_shown (h : Runs functions query notes r) (hp : p ∈ r.shown) :
    p.1 ∈ candidates query notes :=
  (h.mem_kept.mp (h.shown_sublist.subset (List.mem_map_of_mem hp))).1

/-- **Each candidate that is shown has a row.** -/
theorem count_rowsOf {shown : List (Candidate × List Value)}
    (h : ∀ p ∈ shown, p.1 ∈ candidates query notes) :
    (rowsOf query shown).count = shown.length := by
  unfold rowsOf
  cases hform : query.form with
  | table => exact List.length_map ..
  | list => exact List.length_map ..
  | task =>
    simp only [Rows.count]
    induction shown with
    | nil => rfl
    | cons p shown ih =>
      obtain ⟨hp, hshown⟩ := List.forall_mem_cons.mp h
      obtain ⟨task, note, htask⟩ := exists_task hform hp
      rw [List.filterMap_cons_some (by rw [htask]), List.length_cons, List.length_cons, ih hshown]

end

/-! ### A small collection -/

/-- A note of a collection with ranks. -/
def rankedNote (path : String) (rank : Value) : Note :=
  Note.withField ⟨path, none, none, none, .empty, "", none, none, none⟩ "rank" rank

/-- Notes with ranks, one of them no number; the unit of another one is no text. -/
def rankedNotes : List Note :=
  [rankedNote "a" (.integer 3), rankedNote "b" (.string "high"), rankedNote "c" (.integer 1),
   rankedNote "d" (.integer 0), (rankedNote "e" (.integer 2)).withField "unit" (.integer 5)]

/-- The field of the ranks. -/
def rankField : Expression := .field ⟨["rank"]⟩

/-- The ranks above zero with their units, the least one first. -/
def rankQuery : Query where
  form := .table
  columns := [⟨rankField, none⟩, ⟨.call "lower" [.field ⟨["unit"]⟩], none⟩]
  source := none
  condition := some (.comparison .greater rankField (.literal (.integer 0)))
  sort := [⟨rankField, .ascending⟩]
  limit := none

/-- The ranks are evaluated without a failure of the whole query. -/
theorem exists_result_rankedNotes :
    ∃ result, execute builtins rankQuery rankedNotes = .ok result := by
  have hsome : (execute builtins rankQuery rankedNotes).toOption.isSome := by decide
  obtain ⟨result, hresult⟩ := Option.isSome_iff_exists.mp hsome
  exact ⟨result, toOption_eq_some_iff.mp hresult⟩

theorem keysOrdered_rankedNotes :
    ∀ c ∈ candidates rankQuery rankedNotes, KeysOrdered builtins rankQuery c := by
  decide

end Notebook.Execution
