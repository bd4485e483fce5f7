import Notebook.Proofs.Execution.Run

/-!
# Some of the notes

What a note contributes to a query without a limit does not depend on the other notes: the run over
some of the notes is the run over all of them, with what belongs to the others left out
(`Notebook.Execution.execute_sublist`). Each stage asks one candidate at a time, so that only the
sort could see the others; and it orders candidates by what they are themselves, and those that are
equal to it by how they came. Notes need paths of their own only to be told apart.
-/

namespace Notebook.Execution

open Evaluation Query

/-- **What belongs to some of the notes** in a run: to those whose paths are among theirs. -/
def Run.among (r : Run) (fewer : List Note) : Run where
  kept := r.kept.filter fun c => c.owner.path ∈ fewer.map Note.path
  shown := r.shown.filter fun p => p.1.owner.path ∈ fewer.map Note.path
  skipped := r.skipped.filter fun record => record.path ∈ fewer.map Note.path

variable {functions : Registry} {query : Query} {notes fewer : List Note}

theorem records_filter (f : String → Bool) (failures : List (Candidate × EvaluationError)) :
    records (failures.filter (f ·.1.owner.path)) = (records failures).filter (f ·.path) := by
  rw [records, records, List.filter_map]
  rfl

/-- Arranging some of the notes is arranging all of them and leaving out the others. -/
theorem Arranges.among {kept : List Candidate} {skipped : List Skipped}
    (h : Arranges functions query notes kept skipped)
    (hordered : ∀ c ∈ candidates query notes, Accepts functions query c →
      KeysOrdered functions query c) (f : String → Bool) :
    Arranges functions query (notes.filter (f ·.path)) (kept.filter (f ·.owner.path))
      (skipped.filter (f ·.path)) := by
  have hcandidates := candidates_filter query notes (f ·.path)
  constructor
  case calls => exact h.calls
  case conditions =>
    rw [hcandidates]
    exact fun c hc => h.conditions c (List.mem_filter.mp hc).1
  case sorted =>
    rw [hcandidates, List.filter_comm]
    refine sortStage_filter (f ·.owner.path) (fun c hc => ?_) h.sorted
    obtain ⟨hc, hkeeps⟩ := List.mem_filter.mp hc
    exact hordered c hc (keeps_iff.mp hkeeps)
  case skipped => rw [h.skipped, hcandidates, failed_filter, records_filter]

/-- Running over some of the notes is running over all of them and leaving out what belongs to the
others. -/
theorem Runs.among {r : Run} (h : Runs functions query notes r) (hlimit : query.limit = none)
    (hsub : fewer.Sublist notes) (hpaths : (notes.map Note.path).Nodup)
    (hordered : ∀ c ∈ candidates query notes, Accepts functions query c →
      KeysOrdered functions query c) : Runs functions query fewer (r.among fewer) := by
  obtain ⟨skipped, harranged, hskipped⟩ := h.arranged
  have hcut := limitStage_of_none hlimit
  have hcolumns := h.columns
  have hshown := h.shown
  rw [hcut] at hskipped hcolumns hshown
  let belongs : String → Bool := fun path => path ∈ fewer.map Note.path
  have harrangedFewer := harranged.among hordered belongs
  have hfewer : notes.filter (belongs ·.path) = fewer := (eq_filter_of_sublist hsub hpaths).symm
  rw [hfewer] at harrangedFewer
  constructor
  case arranged =>
    refine ⟨_, harrangedFewer, ?_⟩
    have hfailed : records (failed (columnValues functions query) (r.among fewer).kept) =
        (records (failed (columnValues functions query) r.kept)).filter (belongs ·.path) :=
      (congrArg records (failed_filter (belongs ·.owner.path) r.kept)).trans
        (records_filter belongs _)
    rw [hcut, hfailed, ← List.filter_append, ← hskipped]
    rfl
  case columns =>
    rw [hcut]
    exact fun c hc => hcolumns c (List.mem_filter.mp hc).1
  case shown =>
    rw [hcut]
    exact (congrArg (List.filter _) hshown).trans (passed_filter (belongs ·.owner.path) r.kept).symm

/-- **Other notes do not matter** to what the notes in a sublist contribute. -/
theorem execute_sublist {result : Result} (hlimit : query.limit = none) (hsub : fewer.Sublist notes)
    (hpaths : (notes.map Note.path).Nodup)
    (hordered : ∀ c ∈ candidates query notes, Accepts functions query c →
      KeysOrdered functions query c)
    (h : execute functions query notes = .ok result) :
    ∃ r, run functions query notes = .ok r ∧ r.result query = result ∧
      run functions query fewer = .ok (r.among fewer) ∧
      execute functions query fewer = .ok ((r.among fewer).result query) := by
  obtain ⟨r, hrun, rfl⟩ := execute_eq_ok_iff.mp h
  have hfewer : run functions query fewer = .ok (r.among fewer) :=
    run_eq_ok_iff.mpr ((run_eq_ok_iff.mp hrun).among hlimit hsub hpaths hordered)
  exact ⟨r, hrun, rfl, hfewer, execute_eq_ok_iff.mpr ⟨_, hfewer, rfl⟩⟩

/-- Without the third note the run is that over all five of them, with the third one left out. -/
theorem execute_sublist_rankedNotes : ∃ result r,
    execute builtins rankQuery rankedNotes = .ok result ∧
    (rankedNotes.map Note.path).Nodup ∧ run builtins rankQuery rankedNotes = .ok r ∧
    r.result rankQuery = result ∧
    run builtins rankQuery (rankedNotes.eraseIdx 2) = .ok (r.among (rankedNotes.eraseIdx 2)) ∧
    execute builtins rankQuery (rankedNotes.eraseIdx 2) =
      .ok ((r.among (rankedNotes.eraseIdx 2)).result rankQuery) := by
  obtain ⟨result, h⟩ := exists_result_rankedNotes
  have hpaths : (rankedNotes.map Note.path).Nodup := by decide
  obtain ⟨r, hamong⟩ := execute_sublist rfl (List.eraseIdx_sublist rankedNotes 2) hpaths
    (fun c hc _ => keysOrdered_rankedNotes c hc) h
  exact ⟨result, r, h, hpaths, hamong⟩

end Notebook.Execution
