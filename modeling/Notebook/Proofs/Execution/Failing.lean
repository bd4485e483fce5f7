import Notebook.Proofs.Evaluation.Checked
import Notebook.Proofs.Execution.Run

/-!
# What makes a query fail

What can be foreseen of a query whose calls are in order is that it gives a result, or fails in a
sort key of a candidate that the condition accepts (`Notebook.Execution.Foreseen`). A condition or a
column in error leaves a record and no more, and all these errors concern values, as the calls have
been looked at before the first candidate.

One thing is not foreseen. Sorting may give up on the values of the keys
(`Notebook.Execution.SortGivesUp`), and then the query breaks down although each of its expressions
has a value. That takes more than twenty candidates, and not-a-number in a key of one of them; what
is foreseen comes about exactly when it does not happen (`Notebook.Execution.foreseen_execute_iff`).
-/

namespace Notebook.Execution

open Evaluation Query

variable {functions : Registry} {query : Query} {notes : List Note} {cs : List Candidate}
  {c : Candidate}

/-! ### Sort keys in error -/

/-- **A sort key fails** for a candidate with an error. -/
def KeyFails (functions : Registry) (query : Query) (c : Candidate) (e : EvaluationError) : Prop :=
  ∃ key ∈ query.sort, evaluate functions c.environment key.expression = .error (.error e)

theorem keyFails_of_keyValues {e : EvaluationError}
    (h : keyValues functions query c = .error (.error e)) : KeyFails functions query c e := by
  obtain ⟨before, expression, after, hsplit, -, hfails⟩ := evaluateAll_eq_error_iff.mp h
  have hmem : expression ∈ query.sort.map SortKey.expression := by simp [hsplit]
  obtain ⟨key, hkey, rfl⟩ := List.mem_map.mp hmem
  exact ⟨key, hkey, hfails⟩

/-- Sorting fails with one of the candidates, whose keys have no values. -/
theorem exists_of_sortValues_eq_error {error : QueryError}
    (h : sortValues functions query cs = .error error) :
    ∃ c ∈ cs, ∃ stop, keyValues functions query c = .error stop ∧ error = .ofStop stop := by
  induction cs with
  | nil => cases h
  | cons c cs ih =>
    rw [sortValues] at h
    rcases bind_eq_error_iff.mp h with hkeys | ⟨values, -, hrest⟩
    · obtain ⟨stop, hstop, rfl⟩ := mapError_eq_error_iff.mp hkeys
      exact ⟨c, List.mem_cons_self .., stop, hstop, rfl⟩
    · rcases bind_eq_error_iff.mp hrest with hvalues | ⟨keyed, -, hpure⟩
      · obtain ⟨d, hd, hfails⟩ := ih hvalues
        exact ⟨d, List.mem_cons_of_mem _ hd, hfails⟩
      · cases hpure

/-! ### Sorting that gives up -/

/-- **Sorting gives up** on the candidates that the condition accepts: their keys have values, and
there is no answer to sorting by them. -/
structure SortGivesUp (functions : Registry) (query : Query) (notes : List Note) : Prop where
  /-- There are sort keys. -/
  sort_ne_nil : query.sort ≠ []
  /-- All of them have values. -/
  hasKeys : ∀ c ∈ candidates query notes, Accepts functions query c →
    ∃ values, HasKeys functions query c values
  /-- Sorting has no answer. -/
  sort?_eq_none : Sorting.sort? (fun a b => candidateOrder query.sort a b == .lt)
    (((candidates query notes).filter (keeps functions query)).map
      (withKeys functions query)) = none

theorem hasKeys_of_mem_filter (h : ∀ c ∈ candidates query notes, Accepts functions query c →
      ∃ values, HasKeys functions query c values) :
    ∀ c ∈ (candidates query notes).filter (keeps functions query),
      ∃ values, HasKeys functions query c values := by
  intro c hc
  obtain ⟨hc, hkeeps⟩ := List.mem_filter.mp hc
  exact h c hc (keeps_iff.mp hkeeps)

/-- Sorting fails with a key of one of the candidates, or gives up. -/
theorem sortStage_eq_error_cases {error : QueryError}
    (h : sortStage functions query ((candidates query notes).filter (keeps functions query)) =
      .error error) :
    (∃ c ∈ (candidates query notes).filter (keeps functions query), ∃ stop,
      keyValues functions query c = .error stop ∧ error = .ofStop stop) ∨
    SortGivesUp functions query notes ∧ error = .unexpected disorderText := by
  unfold sortStage at h
  split at h
  · cases h
  · next hsort =>
    rcases bind_eq_error_iff.mp h with hvalues | ⟨keyed, hvalues, hrest⟩
    · exact .inl (exists_of_sortValues_eq_error hvalues)
    · obtain ⟨hkeys, rfl⟩ := sortValues_eq_ok_iff.mp hvalues
      rcases bind_eq_error_iff.mp hrest with hgivesUp | ⟨sorted, -, hpure⟩
      · unfold sortKeyed at hgivesUp
        split at hgivesUp
        · cases hgivesUp
        · next hnone =>
          refine .inr ⟨⟨by simpa using hsort, fun c hc haccepts => ?_, hnone⟩, ?_⟩
          · exact hkeys c (List.mem_filter.mpr ⟨hc, keeps_iff.mpr haccepts⟩)
          · exact (Except.error.inj hgivesUp).symm
      · cases hpure

namespace SortGivesUp

variable (h : SortGivesUp functions query notes)

include h

theorem sortStage_eq :
    sortStage functions query ((candidates query notes).filter (keeps functions query)) =
      .error (.unexpected disorderText) := by
  have hvalues := sortValues_eq_ok_iff.mpr ⟨hasKeys_of_mem_filter h.hasKeys, rfl⟩
  unfold sortStage
  rw [if_neg (by simpa using h.sort_ne_nil), hvalues]
  change (sortKeyed _ _ >>= _) = _
  rw [sortKeyed, h.sort?_eq_none]
  rfl

/-- Sorting does not give up on twenty candidates or fewer. -/
theorem lt_length : 20 < ((candidates query notes).filter (keeps functions query)).length := by
  simpa using Sorting.lt_length_of_sort?_eq_none h.sort?_eq_none

/-- **Sorting gives up only next to not-a-number.** -/
theorem exists_not_keysOrdered :
    ∃ c ∈ candidates query notes, Accepts functions query c ∧ ¬KeysOrdered functions query c := by
  by_contra hnone
  have hordered : ∀ c ∈ (candidates query notes).filter (keeps functions query),
      KeysOrdered functions query c := by
    intro c hc
    obtain ⟨hc, hkeeps⟩ := List.mem_filter.mp hc
    by_contra hnot
    exact hnone ⟨c, hc, keeps_iff.mp hkeeps, hnot⟩
  have hkeys := hasKeys_of_mem_filter h.hasKeys
  have hsorted := (sortStage_eq_ok_iff_of_keysOrdered h.sort_ne_nil hordered).mpr
    ⟨fun c hc => ⟨hkeys c hc, hordered c hc⟩, rfl⟩
  exact nomatch h.sortStage_eq.symm.trans hsorted

end SortGivesUp

/-! ### Stages that fail only on values -/

section

variable {α : Type} {ask : Candidate → Except Stop α}

/-- A question that fails only on values is answered by all candidates. -/
theorem answered_of_failsOnValues (h : ∀ c, FailsOnValues (ask c)) : Answered ask cs := by
  intro c _ message hbreaks
  obtain ⟨e, he, -⟩ := h c _ hbreaks
  exact nomatch he

theorem concernsValues_of_mem_records (h : ∀ c, FailsOnValues (ask c)) :
    ∀ record ∈ records (failed ask cs), record.error.ConcernsValues := by
  intro record hrecord
  obtain ⟨⟨c, e⟩, hfailed, rfl⟩ := List.mem_map.mp hrecord
  obtain ⟨e', he, hvalues⟩ := h c _ (mem_failed.mp hfailed).2
  obtain rfl := Stop.error.inj he
  exact hvalues

end

/-! ### Queries whose calls are in order -/

theorem checkQuery_eq_ok_iff : checkQuery functions query = .ok () ↔
    ∀ e ∈ query.expressions, checkCalls functions e = .ok () := by
  rw [checkQuery, mapError_eq_ok_iff, checkAllCalls_eq_ok_iff]

/-- Where the condition is answered, arranging the candidates is sorting those that are kept. -/
theorem arrange_of_answered (hcalls : checkQuery functions query = .ok ())
    (hconditions : Answered (meets functions query) (candidates query notes)) :
    arrange functions query notes =
      (sortStage functions query ((candidates query notes).filter (keeps functions query))).map
        (·, records (failed (meets functions query) (candidates query notes))) := by
  rw [arrange, hcalls, filterStage_eq_ok_iff.mpr ⟨hconditions, rfl, rfl⟩]
  simp only [bind, Except.bind, pure, Except.pure]
  cases sortStage functions query ((candidates query notes).filter (keeps functions query)) <;> rfl

section

variable (hfunctions : functions.FailsOnValues) (hcalls : checkQuery functions query = .ok ())

include hfunctions hcalls

theorem failsOnValues_meets (c : Candidate) : FailsOnValues (meets functions query c) := by
  unfold meets
  split
  · exact failsOnValues_ok _
  · next condition hcondition =>
    have hchecked : checkCalls functions condition = .ok () :=
      checkQuery_eq_ok_iff.mp hcalls condition (mem_expressions_of_condition hcondition)
    have hvalue : FailsOnValues (evaluate functions c.environment condition) :=
      failsOnValues_evaluate hfunctions hchecked
    exact fun stop hstop => hvalue stop (map_eq_error_iff.mp hstop)

theorem failsOnValues_columnValues (c : Candidate) :
    FailsOnValues (columnValues functions query c) := by
  refine failsOnValues_evaluateAll fun e he => failsOnValues_evaluate hfunctions ?_
  obtain ⟨column, hcolumn, rfl⟩ := List.mem_map.mp he
  exact checkQuery_eq_ok_iff.mp hcalls _ (mem_expressions_of_column hcolumn)

theorem failsOnValues_keyValues (c : Candidate) :
    FailsOnValues (keyValues functions query c) := by
  refine failsOnValues_evaluateAll fun e he => failsOnValues_evaluate hfunctions ?_
  obtain ⟨key, hkey, rfl⟩ := List.mem_map.mp he
  exact checkQuery_eq_ok_iff.mp hcalls _ (mem_expressions_of_sort hkey)

/-- **A query whose calls are in order** runs, or fails in a sort key of a candidate that the
condition accepts, or breaks down when sorting gives up. In the first two cases all errors concern
values. -/
theorem run_of_checked :
    (∃ r, run functions query notes = .ok r ∧ ∀ record ∈ r.skipped, record.error.ConcernsValues) ∨
    (∃ c ∈ candidates query notes, Accepts functions query c ∧ ∃ e,
      KeyFails functions query c e ∧ e.ConcernsValues ∧
      run functions query notes = .error (.execution e)) ∨
    SortGivesUp functions query notes ∧
      run functions query notes = .error (.unexpected disorderText) := by
  have hmeets := failsOnValues_meets hfunctions hcalls
  have hcolumns := failsOnValues_columnValues hfunctions hcalls
  have hconditions : Answered (meets functions query) (candidates query notes) :=
    answered_of_failsOnValues hmeets
  cases hsort : sortStage functions query
      ((candidates query notes).filter (keeps functions query)) with
  | ok kept =>
    have hanswered : Answered (columnValues functions query) (limitStage query kept) :=
      answered_of_failsOnValues hcolumns
    have hruns : Runs functions query notes ⟨kept,
        passed (columnValues functions query) (limitStage query kept),
        records (failed (meets functions query) (candidates query notes)) ++
          records (failed (columnValues functions query) (limitStage query kept))⟩ :=
      ⟨⟨_, ⟨hcalls, hconditions, hsort, rfl⟩, rfl⟩, hanswered, rfl⟩
    refine .inl ⟨_, run_eq_ok_iff.mpr hruns, fun record hrecord => ?_⟩
    rcases List.mem_append.mp hrecord with hrecord | hrecord
    · exact concernsValues_of_mem_records hmeets record hrecord
    · exact concernsValues_of_mem_records hcolumns record hrecord
  | error error =>
    have hrun : run functions query notes = .error error := by
      rw [run, arrange_of_answered hcalls hconditions, hsort]
      rfl
    rcases sortStage_eq_error_cases hsort with ⟨c, hc, stop, hkeys, rfl⟩ | ⟨hgivesUp, rfl⟩
    · obtain ⟨hcandidate, hkeeps⟩ := List.mem_filter.mp hc
      obtain ⟨e, rfl, hvalues⟩ := failsOnValues_keyValues hfunctions hcalls c stop hkeys
      exact .inr (.inl ⟨c, hcandidate, keeps_iff.mp hkeeps, e, keyFails_of_keyValues hkeys, hvalues,
        hrun⟩)
    · exact .inr (.inr ⟨hgivesUp, hrun⟩)

end

/-! ### What is foreseen -/

/-- An outcome of a query that is **foreseen**. -/
inductive Foreseen (functions : Registry) (query : Query) (notes : List Note) :
    Except QueryError Result → Prop
  /-- A result, in which all records are of errors that concern values. -/
  | result (result : Result) (hvalues : ∀ record ∈ result.skipped, record.error.ConcernsValues) :
    Foreseen functions query notes (.ok result)
  /-- The error of a sort key for a candidate that the condition accepts, which concerns values. -/
  | keyFails (c : Candidate) (hc : c ∈ candidates query notes)
    (haccepts : Accepts functions query c) (e : EvaluationError)
    (hfails : KeyFails functions query c e) (hvalues : e.ConcernsValues) :
    Foreseen functions query notes (.error (.execution e))

/-- When sorting gives up, the query breaks down. -/
theorem execute_of_sortGivesUp (hfunctions : functions.FailsOnValues)
    (hcalls : checkQuery functions query = .ok ()) (h : SortGivesUp functions query notes) :
    execute functions query notes = .error (.unexpected disorderText) := by
  have hconditions : Answered (meets functions query) (candidates query notes) :=
    answered_of_failsOnValues (failsOnValues_meets hfunctions hcalls)
  rw [execute_eq_run, run, arrange_of_answered hcalls hconditions, h.sortStage_eq]
  rfl

/-- **What is foreseen comes about** exactly when sorting does not give up. -/
theorem foreseen_execute_iff (hfunctions : functions.FailsOnValues)
    (hcalls : checkQuery functions query = .ok ()) :
    Foreseen functions query notes (execute functions query notes) ↔
      ¬SortGivesUp functions query notes := by
  constructor
  · intro hforeseen hgivesUp
    rw [execute_of_sortGivesUp hfunctions hcalls hgivesUp] at hforeseen
    cases hforeseen
  · intro hanswer
    rw [execute_eq_run]
    rcases @run_of_checked _ _ notes hfunctions hcalls with
      ⟨r, hr, hskipped⟩ | ⟨c, hc, haccepts, e, hfails, hvalues, hr⟩ | ⟨hgivesUp, -⟩
    · rw [hr]
      exact .result (r.result query) hskipped
    · rw [hr]
      exact .keyFails c hc haccepts e hfails hvalues
    · exact absurd hgivesUp hanswer

end Notebook.Execution
