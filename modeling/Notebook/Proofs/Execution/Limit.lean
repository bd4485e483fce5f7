import Notebook.Proofs.Execution.Failing

/-!
# Limits

The limit of a query cuts the candidates that are kept after they were sorted and before they are
given their columns. So all limits agree on everything up to there, and a greater limit only adds at
the end: the outcomes under two limits and under none are one failure, or results of which each is a
beginning of the next one (`Notebook.Execution.Limited`, `Notebook.Execution.execute_limits`). A
candidate whose columns fail takes its place among the first ones all the same.

A column of a later candidate is only asked when the limit lets it be, so that a function of the
host that breaks down may break down there and nowhere before; where the run without a limit breaks
down, it has to do so before the columns. The built-in functions never break down
(`Notebook.Execution.limited_builtins`).
-/

namespace Notebook.Execution

open Evaluation Query

/-! ### Beginnings -/

/-- Rows that are **a beginning** of others: they have the same shape, and come first among them. -/
def Rows.Begin : Rows → Rows → Prop
  | .table headers rows, .table headers' rows' => headers = headers' ∧ rows <+: rows'
  | .list rows, .list rows' => rows <+: rows'
  | .task rows, .task rows' => rows <+: rows'
  | _, _ => False

/-- A result that is **a beginning** of another one, in all that it lists. -/
structure Result.Begins (short long : Result) : Prop where
  /-- Its form is the same. -/
  form : short.form = long.form
  /-- Its rows come first. -/
  rows : short.rows.Begin long.rows
  /-- Its records of skipped candidates come first. -/
  skipped : short.skipped <+: long.skipped
  /-- Its links come first. -/
  discoveredLinks : short.discoveredLinks <+: long.discoveredLinks

theorem paired_begins {β : Type} (give : Candidate → Option β) {cs ds : List Candidate}
    (h : cs <+: ds) : paired give cs <+: paired give ds := by
  obtain ⟨rest, rfl⟩ := h
  exact ⟨paired give rest, (paired_append cs rest).symm⟩

theorem rowsOf_begin (query : Query) {shown longer : List (Candidate × List Value)}
    (h : shown <+: longer) : (rowsOf query shown).Begin (rowsOf query longer) := by
  unfold rowsOf
  cases query.form with
  | table => exact ⟨rfl, h.map _⟩
  | list => exact h.map _
  | task => exact h.filterMap _

/-- What was found stays first when more is looked at. -/
theorem distinctStrings_begins {items longer : List String} (h : items <+: longer) :
    distinctStrings items <+: distinctStrings longer := by
  obtain ⟨rest, rfl⟩ := h
  unfold distinctStrings
  rw [List.foldl_append]
  generalize items.foldl _ [] = seen
  induction rest generalizing seen with
  | nil => exact ⟨[], List.append_nil _⟩
  | cons item rest ih =>
    refine List.IsPrefix.trans ?_ (ih _)
    simp only
    split
    · exact ⟨[], List.append_nil _⟩
    · exact ⟨[item], rfl⟩

theorem Run.result_begins (query : Query) {r s : Run} (hshown : r.shown <+: s.shown)
    (hskipped : r.skipped <+: s.skipped) : (r.result query).Begins (s.result query) where
  form := rfl
  rows := rowsOf_begin query hshown
  skipped := hskipped
  discoveredLinks := distinctStrings_begins (hshown.map _)

/-! ### Runs under a limit -/

variable {functions : Registry} {query : Query} {notes : List Note} {kept : List Candidate}
  {skipped : List Skipped}

theorem sortValues_limit (functions : Registry) (query : Query) (limit : Option Nat)
    (cs : List Candidate) :
    sortValues functions { query with limit := limit } cs = sortValues functions query cs := by
  induction cs with
  | nil => rfl
  | cons c cs ih => rw [sortValues, sortValues, ih]

/-- **Candidates are arranged before the limit.** -/
theorem arrange_limit (functions : Registry) (query : Query) (notes : List Note)
    (limit : Option Nat) :
    arrange functions { query with limit := limit } notes = arrange functions query notes := by
  have hsort : sortStage functions { query with limit := limit } = sortStage functions query := by
    funext cs
    unfold sortStage
    rw [sortValues_limit]
  unfold arrange
  rw [hsort]
  rfl

/-- The run that asks the columns of some of the candidates that are kept. -/
def cutRun (functions : Registry) (query : Query) (kept : List Candidate) (skipped : List Skipped)
    (cs : List Candidate) : Run where
  kept := kept
  shown := passed (columnValues functions query) cs
  skipped := skipped ++ records (failed (columnValues functions query) cs)

theorem cutRun_begins {cs ds : List Candidate} (h : cs <+: ds) :
    ((cutRun functions query kept skipped cs).result query).Begins
      ((cutRun functions query kept skipped ds).result query) :=
  Run.result_begins query (paired_begins _ h)
    ((List.prefix_append_right_inj _).mpr ((paired_begins _ h).map _))

/-- The run under a limit asks the columns of the candidates up to it. -/
theorem run_limit (harrange : arrange functions query notes = .ok (kept, skipped))
    (limit : Option Nat) : run functions { query with limit := limit } notes =
      (columnStage functions query (limitStage { query with limit := limit } kept)).map fun asked =>
        ⟨kept, asked.1, skipped ++ asked.2⟩ := by
  unfold run
  rw [arrange_limit, harrange]
  change (columnStage functions query _ >>= _) = _
  cases columnStage functions query (limitStage { query with limit := limit } kept) <;> rfl

theorem run_limit_of_answered (harrange : arrange functions query notes = .ok (kept, skipped))
    (limit : Option Nat)
    (hcolumns : Answered (columnValues functions query)
      (limitStage { query with limit := limit } kept)) :
    run functions { query with limit := limit } notes =
      .ok (cutRun functions query kept skipped
        (limitStage { query with limit := limit } kept)) := by
  rw [run_limit harrange, columnStage_eq_ok_iff.mpr ⟨hcolumns, rfl, rfl⟩]
  rfl

/-- A run without a limit that does not break down in a column has asked all candidates that are
kept. -/
theorem answered_of_execute (harrange : arrange functions query notes = .ok (kept, skipped))
    (hreturns : ∀ message, execute functions { query with limit := none } notes =
      .error (.unexpected message) → arrange functions query notes = .error (.unexpected message)) :
    Answered (columnValues functions query) kept := by
  by_contra hcolumns
  obtain ⟨message, hstage⟩ := stage_of_not_answered hcolumns
  have hbreaks : columnStage functions query kept = .error (.unexpected message) := hstage
  have hrun : run functions { query with limit := none } notes = .error (.unexpected message) := by
    rw [run_limit harrange]
    exact congrArg _ hbreaks
  cases harrange.symm.trans (hreturns message (by rw [execute_eq_run, hrun]; rfl))

/-! ### Three runs -/

/-- A result that **comes from the first ones** of the candidates that are kept. -/
structure Result.ComesFromFirst (result : Result) (functions : Registry) (query : Query) (n : Nat)
    (kept : List Candidate) : Prop where
  /-- Its rows are those of the first candidates that have their columns. -/
  rows : result.rows = rowsOf query (passed (columnValues functions query) (kept.take n))
  /-- There are fewer rows only when fewer candidates are kept, or when a column of one of these
  fails. -/
  fewer : result.count < n →
    kept.length < n ∨ ∃ c ∈ kept.take n, ∃ e, ColumnFails functions query c e

theorem cutRun_comesFromFirst {n : Nat} (hkept : ∀ c ∈ kept, c ∈ candidates query notes)
    (hcolumns : Answered (columnValues functions query) (kept.take n)) :
    ((cutRun functions query kept skipped (kept.take n)).result query).ComesFromFirst
      functions query n kept where
  rows := rfl
  fewer hfewer := by
    have hcount : (rowsOf query (passed (columnValues functions query) (kept.take n))).count =
        (passed (columnValues functions query) (kept.take n)).length :=
      count_rowsOf fun p hp => hkept _ (List.mem_of_mem_take (mem_passed.mp hp).1)
    have hsplit := (perm_passed_failed hcolumns).length_eq
    rw [List.length_append, List.length_map, List.length_map, List.length_take] at hsplit
    cases hfailed : failed (columnValues functions query) (kept.take n) with
    | nil =>
      rw [hfailed, List.length_nil] at hsplit
      have hfewer :
          (rowsOf query (passed (columnValues functions query) (kept.take n))).count < n := hfewer
      exact .inl (by omega)
    | cons p rest =>
      have hp := mem_failed.mp (hfailed ▸ List.mem_cons_self ..)
      exact .inr ⟨p.1, hp.1, p.2, columnValues_eq_error_iff.mp hp.2⟩

/-- The outcomes of a query **under two limits and under none**. -/
inductive Limited (functions : Registry) (query : Query) (notes : List Note) (n m : Nat) : Prop
  /-- The query fails with the same error under all of them. -/
  | fails (e : QueryError)
    (hsmall : execute functions { query with limit := some n } notes = .error e)
    (hlarge : execute functions { query with limit := some m } notes = .error e)
    (hwhole : execute functions { query with limit := none } notes = .error e)
  /-- There are results under all of them, each a beginning of the next one, and that under the
  first limit comes from the first ones of the candidates that are kept. -/
  | succeeds (small large : Result) (r : Run)
    (hsmall : execute functions { query with limit := some n } notes = .ok small)
    (hlarge : execute functions { query with limit := some m } notes = .ok large)
    (hwhole : execute functions { query with limit := none } notes = .ok (r.result query))
    (hrun : run functions { query with limit := none } notes = .ok r)
    (hkept : r.kept.Perm ((candidates query notes).filter (keeps functions query)))
    (hbegins : small.Begins large) (hbegins' : large.Begins (r.result query))
    (hfirst : small.ComesFromFirst functions query n r.kept)

section

variable {n m : Nat} (hnm : n ≤ m)

include hnm

theorem limited_of_answered (hcolumns : ∀ {kept skipped},
      arrange functions query notes = .ok (kept, skipped) →
        Answered (columnValues functions query) kept) :
    Limited functions query notes n m := by
  cases harrange : arrange functions query notes with
  | error e =>
    have hfails : ∀ limit, execute functions { query with limit := limit } notes = .error e := by
      intro limit
      rw [execute_eq_run, run, arrange_limit, harrange]
      rfl
    exact .fails e (hfails _) (hfails _) (hfails _)
  | ok arranged =>
    obtain ⟨kept, skipped⟩ := arranged
    have hcolumns := hcolumns harrange
    have htake : ∀ k, Answered (columnValues functions query) (kept.take k) :=
      fun k c hc => hcolumns c (List.mem_of_mem_take hc)
    have harranged := arrange_eq_ok_iff.mp harrange
    have hkept : ∀ c ∈ kept, c ∈ candidates query notes :=
      fun c hc => (harranged.mem_kept.mp hc).1
    have hsmall := run_limit_of_answered harrange (some n) (htake n)
    have hlarge := run_limit_of_answered harrange (some m) (htake m)
    have hwhole := run_limit_of_answered harrange none hcolumns
    exact .succeeds _ _ (cutRun functions query kept skipped kept)
      (execute_eq_ok_iff.mpr ⟨_, hsmall, rfl⟩) (execute_eq_ok_iff.mpr ⟨_, hlarge, rfl⟩)
      (execute_eq_ok_iff.mpr ⟨_, hwhole, rfl⟩) hwhole harranged.perm_kept
      (cutRun_begins (List.take_prefix_take_left hnm)) (cutRun_begins (List.take_prefix m kept))
      (cutRun_comesFromFirst hkept (htake n))

/-- Functions that fail only on values do not break down in a column, nor anywhere else. -/
theorem limited_of_failsOnValues (hfunctions : functions.FailsOnValues) :
    Limited functions query notes n m :=
  limited_of_answered hnm fun harrange =>
    answered_of_failsOnValues
      (failsOnValues_columnValues hfunctions (arrange_eq_ok_iff.mp harrange).calls)

/-- **With the built-in functions** a greater limit only adds at the end. -/
theorem limited_builtins : Limited builtins query notes n m :=
  limited_of_failsOnValues hnm failsOnValues_builtins

end

/-- **A greater limit only adds at the end**: under two limits and under none a query fails with the
same error, or the results are each a beginning of the next one. A breakdown in a column is no error
of the query: where the run without a limit breaks down, it is to do so before the columns. -/
theorem execute_limits {n m : Nat} (hnm : n ≤ m) (hreturns : ∀ message,
      execute functions { query with limit := none } notes = .error (.unexpected message) →
        arrange functions query notes = .error (.unexpected message)) :
    Limited functions query notes n m :=
  limited_of_answered hnm fun harrange => answered_of_execute harrange hreturns

/-- Of the ranks up to two there is one row, as the second candidate drops out and the third one
does not take its place. -/
theorem execute_limits_rankedNotes : ∃ small large, ∃ r : Run,
    execute builtins { rankQuery with limit := some 2 } rankedNotes = .ok small ∧
    execute builtins { rankQuery with limit := some 3 } rankedNotes = .ok large ∧
    execute builtins { rankQuery with limit := none } rankedNotes = .ok (r.result rankQuery) ∧
    small.count = 1 ∧ small.Begins large ∧ large.Begins (r.result rankQuery) ∧
    small.ComesFromFirst builtins rankQuery 2 r.kept := by
  have hreturns : ∀ message, execute builtins { rankQuery with limit := none } rankedNotes =
      .error (.unexpected message) →
      arrange builtins rankQuery rankedNotes = .error (.unexpected message) := by
    intro message hbreaks
    obtain ⟨result, h⟩ := exists_result_rankedNotes
    cases h.symm.trans hbreaks
  have hcount : (execute builtins { rankQuery with limit := some 2 } rankedNotes).toOption.map
      Result.count = some 1 := by decide
  cases execute_limits (show 2 ≤ 3 by decide) hreturns with
  | fails e hsmall =>
    rw [hsmall] at hcount
    cases hcount
  | succeeds small large r hsmall hlarge hwhole _ _ hbegins hbegins' hfirst =>
    rw [hsmall] at hcount
    exact ⟨small, large, r, hsmall, hlarge, hwhole, Option.some.inj hcount, hbegins, hbegins',
      hfirst⟩

end Notebook.Execution
