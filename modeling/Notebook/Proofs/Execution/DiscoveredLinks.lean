import Mathlib.Data.List.Forall2
import Notebook.Proofs.Execution.Shape
import Notebook.Proofs.Order.FirstOccurrence

/-!
# The links of a result

A result lists what the notes behind its rows are known by, next to the rows and made apart from
them. A row of a list of tasks does not even say what its note is known by, several rows may belong
to one note, and several notes may be known by the same name.

The list is what it should be (`Notebook.Execution.execute_discovers`): each name is there once, in
the order of the first rows, and no name is there without a row. So a candidate that the condition
rejects, that fails, or that the limit cuts off adds nothing to it.
-/

namespace Notebook.Execution

open Evaluation Query

/-! ### Items in order, each once -/

/-- Texts in order, each once, are the first occurrences among them. -/
theorem firstOccurrences_distinctStrings (items : List String) :
    FirstOccurrences (fun a b => b == a) items (distinctStrings items) := by
  have hsame : Equivalence fun a b : String => (b == a) = true := by
    simp only [beq_iff_eq]
    exact ⟨fun _ => rfl, Eq.symm, fun hab hbc => hbc.trans hab⟩
  have hall : items.filter (fun _ => true) = items := List.filter_eq_self.mpr fun _ _ => rfl
  have hfold : FirstOccurrences (fun a b => b == a) (items.filter fun _ => true)
      (distinctStrings items) := by
    refine firstOccurrences_foldl hsame (fun firsts item => ?_) items
    rw [List.contains_eq_any_beq, Bool.true_and]
    cases firsts.any (item == ·) <;> rfl
  rwa [hall] at hfold

theorem nodup_distinctStrings (items : List String) : (distinctStrings items).Nodup :=
  (firstOccurrences_distinctStrings items).distinct.imp fun h heq => by simp [heq] at h

theorem mem_distinctStrings {items : List String} {item : String} :
    item ∈ distinctStrings items ↔ item ∈ items := by
  have hfirsts := firstOccurrences_distinctStrings items
  refine ⟨hfirsts.mem, fun h => ?_⟩
  obtain ⟨first, hfirst, hsame⟩ := hfirsts.covers item h
  rwa [eq_of_beq hsame]

/-- They are in the order in which they first come. -/
theorem pairwise_idxOf_distinctStrings (items : List String) :
    (distinctStrings items).Pairwise fun a b => items.idxOf a < items.idxOf b :=
  (firstOccurrences_distinctStrings items).inOrder

/-! ### The notes behind rows -/

/-- That rows **belong to** notes, one row to each: a row of a table or of a list says what the note
is known by and links to it, and a row of a list of tasks has a task of the note and links to it. -/
def Rows.BelongTo : Rows → List Note → Prop
  | .table _ rows, notes =>
    List.Forall₂ (fun row note => row.identity = note.identity ∧ row.link = note.link) rows notes
  | .list rows, notes =>
    List.Forall₂ (fun row note => row.identity = note.identity ∧ row.link = note.link) rows notes
  | .task rows, notes =>
    List.Forall₂ (fun row note => row.task ∈ Task.extract note.path note.body ∧
      row.link = note.link) rows notes

variable {functions : Registry} {query : Query} {notes : List Note} {result : Result}

/-- **Rows belong to the notes of the candidates** that they are written from. -/
theorem belongTo_rowsOf {shown : List (Candidate × List Value)}
    (h : ∀ p ∈ shown, p.1 ∈ candidates query notes) :
    (rowsOf query shown).BelongTo (shown.map (·.1.owner)) := by
  unfold rowsOf
  cases hform : query.form with
  | table =>
    refine List.forall₂_map_left_iff.mpr (List.forall₂_map_right_iff.mpr ?_)
    exact List.forall₂_same.mpr fun _ _ => ⟨rfl, rfl⟩
  | list =>
    refine List.forall₂_map_left_iff.mpr (List.forall₂_map_right_iff.mpr ?_)
    exact List.forall₂_same.mpr fun _ _ => ⟨rfl, rfl⟩
  | task =>
    dsimp only [Rows.BelongTo]
    induction shown with
    | nil => exact .nil
    | cons p shown ih =>
      obtain ⟨hp, hshown⟩ := List.forall_mem_cons.mp h
      obtain ⟨task, note, htask⟩ := exists_task hform hp
      rw [htask] at hp
      rw [List.filterMap_cons_some (by rw [htask]), List.map_cons, htask]
      exact .cons ⟨mem_extract_of_mem_candidates hp, rfl⟩ (ih hshown)

/-! ### What is discovered -/

/-- **What a result discovers**: the names of the notes behind the rows of a run. -/
structure Discovers (functions : Registry) (query : Query) (notes : List Note) (r : Run)
    (result : Result) : Prop where
  /-- The candidates that the condition accepts are kept, and no others. -/
  mem_kept : ∀ c, c ∈ r.kept ↔ c ∈ candidates query notes ∧ Accepts functions query c
  /-- Of these, those up to the limit that have their columns are shown, and no others. -/
  mem_shown : ∀ p, p ∈ r.shown ↔
    p.1 ∈ limitStage query r.kept ∧ HasColumns functions query p.1 p.2
  /-- The rows belong to the notes of those that are shown. -/
  rows : result.rows.BelongTo (r.shown.map (·.1.owner))
  /-- No name is listed twice. -/
  nodup : result.discoveredLinks.Nodup
  /-- What is listed is what the notes of those that are shown are known by. -/
  mem_links : ∀ identity, identity ∈ result.discoveredLinks ↔
    ∃ p ∈ r.shown, p.1.owner.identity = identity
  /-- The names are in the order of their first rows. -/
  inOrder : result.discoveredLinks.Pairwise fun a b =>
    (r.shown.map (·.1.owner.identity)).idxOf a < (r.shown.map (·.1.owner.identity)).idxOf b

/-- **The links of a result are those of its rows**: what the notes behind the rows are known by,
each once, in the order of the first rows. -/
theorem execute_discovers (h : execute functions query notes = .ok result) :
    ∃ r, run functions query notes = .ok r ∧ r.result query = result ∧
      Discovers functions query notes r result := by
  obtain ⟨r, hrun, rfl⟩ := execute_eq_ok_iff.mp h
  have hruns := run_eq_ok_iff.mp hrun
  refine ⟨r, hrun, rfl, ?_⟩
  constructor
  case mem_kept => exact fun c => hruns.mem_kept
  case mem_shown => exact fun p => hruns.mem_shown
  case rows => exact belongTo_rowsOf fun p hp => hruns.mem_candidates_of_mem_shown hp
  case nodup => exact nodup_distinctStrings _
  case mem_links => exact fun identity => mem_distinctStrings.trans List.mem_map
  case inOrder => exact pairwise_idxOf_distinctStrings _

/-- Tasks with ranks. The first two notes are known by the same name. -/
def rankedTasks : List Note :=
  [{ Note.ofBody "a.md" "- [ ] one [rank:: 3]\n- [ ] two [rank:: high]" with
       permalink := some "p" },
   { Note.ofBody "b.md" "- [ ] three [rank:: 1]" with permalink := some "p" },
   Note.ofBody "c.md" "- [ ] four [rank:: 2]", Note.ofBody "d.md" "- [ ] five [rank:: 9]",
   Note.ofBody "e.md" "- [ ] six [rank:: 0]"]

/-- The three least ranks above zero belong to two names: one task is rejected, one fails, and one
is cut off. -/
theorem execute_discovers_rankedTasks :
    let query : Query := { rankQuery with form := .task, columns := [], limit := some 3 }
    ∃ result r, execute builtins query rankedTasks = .ok result ∧
      result.count = 3 ∧ result.discoveredLinks = ["p", "c.md"] ∧ result.skipped.length = 1 ∧
      run builtins query rankedTasks = .ok r ∧ r.result query = result ∧
      Discovers builtins query rankedTasks r result := by
  intro query
  have hseen : (execute builtins query rankedTasks).toOption.map
      (fun result => (result.count, result.discoveredLinks, result.skipped.length)) =
        some (3, ["p", "c.md"], 1) := by decide +kernel
  obtain ⟨result, h, heq⟩ := exists_ok_of_toOption_map hseen
  simp only [Prod.mk.injEq] at heq
  obtain ⟨hcount, hlinks, hskipped⟩ := heq
  obtain ⟨r, hdiscovers⟩ := execute_discovers h
  exact ⟨result, r, h, hcount, hlinks, hskipped, hdiscovers⟩

end Notebook.Execution
