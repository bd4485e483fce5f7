import Notebook.Engine
import Notebook.Proofs.Execution.Failing
import Notebook.Proofs.Query.QueryText

/-!
# Checking a query before running it

Checking a text with its calls tells what running it will come to on every collection and under
every configuration: what the check refuses is refused by the run with the same error, and what it
accepts either runs or fails because of the values of a sort key. There is one exception, and no
other one: sorting gives up next to not-a-number (`Notebook.Engine.run_of_check`). That does happen
(`Notebook.Engine.run_disorderedNotes`).
-/

namespace Notebook.Engine

open Evaluation Execution Query

variable {engine : Engine} {source : String} {collection : Collection}

/-- **What the check refuses is refused by the run**, with the same error, if both know the same
functions. -/
theorem run_of_check_eq_error {checker : Engine} {error : QueryError}
    (hfunctions : checker.functions = engine.functions)
    (h : checker.check true source = .error error) :
    engine.run source collection = .error error := by
  rw [check] at h
  rw [run]
  rcases bind_eq_error_iff.mp h with hparse | ⟨query, hparse, hrest⟩
  · exact bind_eq_error_iff.mpr (.inl hparse)
  · refine bind_eq_error_iff.mpr (.inr ⟨query, hparse, ?_⟩)
    rw [if_pos rfl, hfunctions] at hrest
    rcases bind_eq_error_iff.mp hrest with hcalls | ⟨_, -, hpure⟩
    · exact bind_eq_error_iff.mpr (.inl hcalls)
    · exact nomatch hpure

/-- What the check accepts is a query whose calls are in order. -/
theorem check_eq_ok_iff {query : Query} : engine.check true source = .ok query ↔
    parse source = .ok query ∧ checkQuery engine.functions query = .ok () := by
  rw [check]
  simp only [bind_eq_ok_iff, mapError_eq_ok_iff, reduceIte, pure, Except.pure, Except.ok.injEq]
  constructor
  · rintro ⟨_, hparse, _, hcalls, rfl⟩
    exact ⟨hparse, hcalls⟩
  · rintro ⟨hparse, hcalls⟩
    exact ⟨query, hparse, (), hcalls, rfl⟩

/-- A text that is a query is run as the query. -/
theorem run_of_parse {query : Query} (h : parse source = .ok query) :
    engine.run source collection = engine.execute query collection := by
  rw [run, h]
  rfl

/-- **A run after a check.** What the check refuses, the run refuses with the same error. What it
accepts fails only on values, whatever part of an expression is evaluated and whatever the fields
hold; and the run gives a result whose records are of errors that concern values, or a sort key of a
candidate that the condition accepts is in error, unless sorting gives up. Then the run breaks down;
more than twenty candidates are sorted, and a key of one of them has not-a-number in its value. -/
theorem run_of_check (configuration : Configuration) (source : String) (collection : Collection) :
    let engine := Engine.ofConfiguration configuration
    let notes := engine.bounded collection
    (∃ error, (Engine.ofConfiguration {}).check true source = .error error ∧
      engine.run source collection = .error error) ∨
    ∃ query, (Engine.ofConfiguration {}).check true source = .ok query ∧
      (∀ e ∈ query.expressions, ∀ part ∈ e.parts, ∀ environment,
        FailsOnValues (evaluate builtins environment part)) ∧
      (Foreseen builtins query notes (engine.run source collection) ↔
        ¬SortGivesUp builtins query notes) ∧
      (SortGivesUp builtins query notes →
        engine.run source collection = .error (.unexpected disorderText) ∧
        20 < ((candidates query notes).filter (keeps builtins query)).length ∧
        ∃ c ∈ candidates query notes,
          Accepts builtins query c ∧ ¬KeysOrdered builtins query c) := by
  intro engine notes
  cases hcheck : (Engine.ofConfiguration {}).check true source with
  | error error => exact .inl ⟨error, rfl, run_of_check_eq_error rfl hcheck⟩
  | ok query =>
    obtain ⟨hparse, hcalls⟩ := check_eq_ok_iff.mp hcheck
    have hrun : engine.run source collection = Execution.execute builtins query notes :=
      run_of_parse hparse
    refine .inr ⟨query, rfl, fun e he part hpart environment => ?_, ?_, fun hgivesUp => ?_⟩
    · have hchecked := checkCalls_of_mem_parts (checkQuery_eq_ok_iff.mp hcalls e he) part hpart
      exact failsOnValues_evaluate failsOnValues_builtins hchecked
    · rw [hrun]
      exact foreseen_execute_iff failsOnValues_builtins hcalls
    · rw [hrun]
      exact ⟨execute_of_sortGivesUp failsOnValues_builtins hcalls hgivesUp, hgivesUp.lt_length,
        hgivesUp.exists_not_keysOrdered⟩

/-! ### Sorting that gives up -/

/-- The lines of twenty-one tasks, whose fields `k` are 1, not-a-number and 2 in turn. -/
def disorderedLines : List (List Char) :=
  (List.replicate 7
    ["- [ ] [k:: 1]".toList, "- [ ] [k:: -nan]".toList, "- [ ] [k:: 2]".toList]).flatten

/-- A note with these tasks. -/
def disorderedNote : Note := Note.ofBody "a.md" (String.ofList (['\n'].intercalate disorderedLines))

/-- All tasks, sorted by `k`. -/
def disorderedQuery : Query := ⟨.task, [], none, none, [⟨.field ⟨["k"]⟩, .ascending⟩], none⟩

theorem candidates_disorderedQuery : candidates disorderedQuery [disorderedNote] =
    ((Markdown.plainLines (['\n'].intercalate disorderedLines)).filterMap fun (number, line) =>
      Task.ofLine? "a.md" number line).map (Candidate.task · disorderedNote) := by
  have hbody : disorderedNote.body.toList = ['\n'].intercalate disorderedLines :=
    String.toList_ofList
  have hpath : disorderedNote.path = "a.md" := by decide +kernel
  simp only [candidates, disorderedQuery, Option.all_none, List.filter_true, List.flatMap_cons,
    List.flatMap_nil, List.append_nil, Task.extract, hbody, hpath]

theorem checkQuery_disorderedQuery : checkQuery builtins disorderedQuery = .ok () := by rfl

theorem sortGivesUp_disorderedQuery : SortGivesUp builtins disorderedQuery [disorderedNote] := by
  have hfails : (sortStage builtins disorderedQuery ((candidates disorderedQuery
      [disorderedNote]).filter (keeps builtins disorderedQuery))).isOk = false := by
    rw [candidates_disorderedQuery]
    decide +kernel
  cases hsort : sortStage builtins disorderedQuery
      ((candidates disorderedQuery [disorderedNote]).filter (keeps builtins disorderedQuery)) with
  | ok sorted =>
    rw [hsort] at hfails
    cases hfails
  | error error =>
    -- the key is a field, which has a value for every candidate
    rcases sortStage_eq_error_cases hsort with ⟨c, -, stop, hkeys, -⟩ | ⟨hgivesUp, -⟩
    · cases hkeys
    · exact hgivesUp

theorem unambiguous_disorderedQuery : disorderedQuery.Unambiguous where
  columns h := nomatch h
  limit n hn := nomatch hn
  legible := by
    have hname : LexesAs "k" (.identifier "k") := lexesAs_identifier_iff.mpr (by decide)
    simpa [disorderedQuery, expressions, Expression.parts, Expression.IsLegible] using hname
  comparisons := by
    simp [disorderedQuery, expressions, Expression.parts, Expression.ComparesPrimaries]
  source s hs := nomatch hs

/-- **A query that is accepted breaks down**: sorting the tasks by `k` gives up. -/
theorem run_disorderedNotes :
    let engine := Engine.ofConfiguration {}
    let collection := Collection.ofList [disorderedNote]
    ∃ query, engine.check true "TASK SORT k ASC" = .ok query ∧
      engine.run "TASK SORT k ASC" collection = .error (.unexpected disorderText) ∧
      ¬Foreseen builtins query (engine.bounded collection)
        (engine.run "TASK SORT k ASC" collection) := by
  intro engine collection
  have hparse : parse "TASK SORT k ASC" = .ok disorderedQuery :=
    parse_eq_ok_iff.mpr ⟨disorderedQuery.tokens,
      (readAs_text unambiguous_disorderedQuery).tokensOf,
      spelled_tokens unambiguous_disorderedQuery⟩
  have hnotes : engine.bounded collection = [disorderedNote] :=
    List.mergeSort_singleton disorderedNote
  have hrun : engine.run "TASK SORT k ASC" collection = .error (.unexpected disorderText) := by
    rw [run_of_parse hparse, execute, hnotes]
    exact execute_of_sortGivesUp failsOnValues_builtins checkQuery_disorderedQuery
      sortGivesUp_disorderedQuery
  refine ⟨disorderedQuery, check_eq_ok_iff.mpr ⟨hparse, checkQuery_disorderedQuery⟩, hrun, ?_⟩
  rw [hrun]
  exact nofun

end Notebook.Engine
