import Notebook.Proofs.Execution.Run

/-!
# The order of rows

With sort keys, each candidate that is shown precedes all later ones, whatever the limit; without,
the candidates that are shown come in the order of the notes, and those of one note in the order of
their lines (`Notebook.Execution.execute_inOrder`). The limit and the columns only leave out
candidates.
-/

namespace Notebook.Execution

open Evaluation Query

/-- Candidates of notes **in order**: by the sort keys of a query, or by the notes when it has
none. -/
structure InOrder (functions : Registry) (query : Query) (notes : List Note) (cs : List Candidate) :
    Prop where
  /-- With sort keys, each candidate precedes all later ones. -/
  keyed : query.sort ≠ [] → cs.Pairwise (Precedes functions query.sort)
  /-- Without sort keys, the positions of the notes go up, and in one note the lines do. -/
  unkeyed : query.sort = [] → ∃ positions : List (Candidate × Nat), positions.map Prod.fst = cs ∧
    (∀ p ∈ positions, notes[p.2]? = some p.1.owner) ∧
    positions.Pairwise fun p q => p.2 < q.2 ∨ p.2 = q.2 ∧ lineOrder p.1.line? q.1.line? = .lt

variable {functions : Registry} {query : Query} {notes : List Note} {cs ds : List Candidate}

/-- Leaving out candidates leaves the order. -/
theorem InOrder.sublist (h : InOrder functions query notes ds) (hsub : cs.Sublist ds) :
    InOrder functions query notes cs where
  keyed hsort := (h.keyed hsort).sublist hsub
  unkeyed hsort := by
    obtain ⟨positions, rfl, howner, hpairwise⟩ := h.unkeyed hsort
    obtain ⟨fewer, hfewer, rfl⟩ := List.sublist_map_iff.mp hsub
    exact ⟨fewer, rfl, fun p hp => howner p (hfewer.subset hp), hpairwise.sublist hfewer⟩

theorem inOrder_candidates (functions : Registry) (notes : List Note) (hsort : query.sort = []) :
    InOrder functions query notes (candidates query notes) where
  keyed hkeys := absurd hsort hkeys
  unkeyed _ := ⟨positioned query notes, positioned_map_fst query notes,
    fun _ hp => owner_of_mem_positioned hp, pairwise_positioned query notes⟩

/-- **The candidates that are kept are in order.** -/
theorem Arranges.inOrder {kept : List Candidate} {skipped : List Skipped}
    (h : Arranges functions query notes kept skipped)
    (hordered : ∀ c ∈ candidates query notes, Accepts functions query c →
      KeysOrdered functions query c) : InOrder functions query notes kept := by
  by_cases hsort : query.sort = []
  · have hkept : (candidates query notes).filter (keeps functions query) = kept :=
      Except.ok.inj ((sortStage_of_nil hsort _).symm.trans h.sorted)
    rw [← hkept]
    exact (inOrder_candidates functions notes hsort).sublist List.filter_sublist
  · refine ⟨fun _ => pairwise_precedes_of_sortStage hsort (fun c hc => ?_) h.sorted,
      fun hnil => absurd hnil hsort⟩
    obtain ⟨hc, hkeeps⟩ := List.mem_filter.mp hc
    exact hordered c hc (keeps_iff.mp hkeeps)

/-- **Rows are ordered** when no sort key of a candidate that is kept has not-a-number in its
value. -/
theorem execute_inOrder {result : Result} (h : execute functions query notes = .ok result)
    (hordered : ∀ c ∈ candidates query notes, Accepts functions query c →
      KeysOrdered functions query c) :
    ∃ r, run functions query notes = .ok r ∧ r.result query = result ∧
      result.count = r.shown.length ∧ InOrder functions query notes (r.shown.map Prod.fst) := by
  obtain ⟨r, hrun, rfl⟩ := execute_eq_ok_iff.mp h
  have hruns := run_eq_ok_iff.mp hrun
  obtain ⟨skipped, harranged, -⟩ := hruns.arranged
  exact ⟨r, hrun, rfl, count_rowsOf fun p hp => hruns.mem_candidates_of_mem_shown hp,
    (harranged.inOrder hordered).sublist hruns.shown_sublist⟩

/-- The two notes that are shown come in the order of their ranks. -/
theorem execute_inOrder_rankedNotes : ∃ result r,
    execute builtins rankQuery rankedNotes = .ok result ∧
    run builtins rankQuery rankedNotes = .ok r ∧ r.result rankQuery = result ∧
    result.count = r.shown.length ∧
    InOrder builtins rankQuery rankedNotes (r.shown.map Prod.fst) := by
  obtain ⟨result, h⟩ := exists_result_rankedNotes
  obtain ⟨r, hinOrder⟩ := execute_inOrder h fun c hc _ => keysOrdered_rankedNotes c hc
  exact ⟨result, r, h, hinOrder⟩

end Notebook.Execution
