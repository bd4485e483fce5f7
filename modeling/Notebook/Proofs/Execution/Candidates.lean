import Mathlib.Data.List.Nodup
import Mathlib.Data.List.Pairwise
import Notebook.Execution.Basic
import Notebook.Proofs.Order.Ranking
import Notebook.Proofs.Task.Extraction

/-!
# The candidates of a query

Each candidate belongs to one note, and the candidates of a note are next to each other
(`Notebook.Execution.candidates_eq_flatMap`), in the order of their lines
(`Notebook.Execution.pairwise_candidatesOf`). So fewer notes have those candidates that are theirs
(`Notebook.Execution.candidates_filter`).
-/

namespace Notebook.Execution

open Query

variable {query : Query} {note : Note} {notes : List Note} {c d : Candidate}

/-- **The candidates of one note.** -/
def candidatesOf (query : Query) (note : Note) : List Candidate :=
  if query.source.all (·.has note) then
    match query.form with
    | .task => (Task.extract note.path note.body).map (Candidate.task · note)
    | _ => [.note note]
  else []

theorem candidates_eq_flatMap (query : Query) (notes : List Note) :
    candidates query notes = notes.flatMap (candidatesOf query) := by
  induction notes with
  | nil =>
    unfold candidates
    cases query.form <;> rfl
  | cons note notes ih =>
    have hcons : candidates query (note :: notes) =
        candidatesOf query note ++ candidates query notes := by
      unfold candidates candidatesOf
      by_cases hasked : query.source.all (·.has note) = true <;> cases query.form <;>
        simp [hasked]
    rw [hcons, ih, List.flatMap_cons]

theorem mem_candidates :
    c ∈ candidates query notes ↔ ∃ note ∈ notes, c ∈ candidatesOf query note := by
  rw [candidates_eq_flatMap, List.mem_flatMap]

/-! ### Whose they are -/

theorem candidatesOf_eq_map (query : Query) (note : Note) : ∃ tasks : List Task,
    (tasks.Pairwise fun s t => s.line < t.line) ∧ (candidatesOf query note = [] ∨
      candidatesOf query note = [.note note] ∨
      candidatesOf query note = tasks.map (Candidate.task · note)) := by
  refine ⟨_, Task.pairwise_extract note.path note.body, ?_⟩
  unfold candidatesOf
  by_cases hasked : query.source.all (·.has note) = true <;> cases query.form <;> simp [hasked]

theorem owner_of_mem_candidatesOf (h : c ∈ candidatesOf query note) : c.owner = note := by
  obtain ⟨tasks, -, hnone | hnote | htasks⟩ := candidatesOf_eq_map query note
  · rw [hnone] at h
    cases h
  · rw [hnote, List.mem_singleton] at h
    rw [h, Candidate.owner]
  · rw [htasks] at h
    obtain ⟨task, -, rfl⟩ := List.mem_map.mp h
    rfl

/-- A query for tasks has tasks for its candidates. -/
theorem exists_task (hform : query.form = .task) (h : c ∈ candidates query notes) :
    ∃ task note, c = .task task note := by
  unfold candidates at h
  rw [hform] at h
  obtain ⟨note, -, hc⟩ := List.mem_flatMap.mp h
  obtain ⟨task, -, rfl⟩ := List.mem_map.mp hc
  exact ⟨task, note, rfl⟩

/-- A task among the candidates is one of its note. -/
theorem mem_extract_of_mem_candidates {task : Task} {note : Note}
    (h : .task task note ∈ candidates query notes) : task ∈ Task.extract note.path note.body := by
  obtain ⟨owner, -, h⟩ := mem_candidates.mp h
  unfold candidatesOf at h
  split at h
  · split at h
    · obtain ⟨read, hread, heq⟩ := List.mem_map.mp h
      cases heq
      exact hread
    · cases List.mem_singleton.mp h
  · cases h

/-! ### Their lines -/

/-- **The candidates of a note come in the order of their lines.** -/
theorem pairwise_candidatesOf (query : Query) (note : Note) :
    (candidatesOf query note).Pairwise fun c d => lineOrder c.line? d.line? = .lt := by
  obtain ⟨tasks, hlines, hnone | hnote | htasks⟩ := candidatesOf_eq_map query note
  · rw [hnone]
    exact .nil
  · rw [hnote]
    exact List.pairwise_singleton ..
  · rw [htasks]
    exact List.pairwise_map.mpr (hlines.imp fun hlt => Nat.compare_eq_lt.mpr hlt)

theorem ranks_lineOrder (S : Option Nat → Prop) : Ranks lineOrder S := by
  have hnumbers : Ranks (fun m n : Nat => compare m n) fun _ => True := .of_compare id
  constructor
  case swap =>
    rintro (_ | m) (_ | n) - - <;> try rfl
    exact hnumbers.swap trivial trivial
  case trans =>
    rintro (_ | m) (_ | n) (_ | k) - - - hmn hnk <;> try first | rfl | cases hmn | cases hnk
    exact hnumbers.trans trivial trivial trivial hmn hnk

/-! ### Where their notes are -/

/-- The candidates, each with the position of its note. -/
def positioned (query : Query) (notes : List Note) : List (Candidate × Nat) :=
  notes.zipIdx.flatMap fun (note, i) => (candidatesOf query note).map (·, i)

theorem positioned_map_fst (query : Query) (notes : List Note) :
    (positioned query notes).map Prod.fst = candidates query notes := by
  rw [positioned, candidates_eq_flatMap, List.map_flatMap]
  calc notes.zipIdx.flatMap
          (fun entry => ((candidatesOf query entry.1).map (·, entry.2)).map Prod.fst)
      _ = notes.zipIdx.flatMap fun entry => candidatesOf query entry.1 := by
        simp only [List.map_map, Function.comp_def, List.map_id']
      _ = (notes.zipIdx.map Prod.fst).flatMap (candidatesOf query) := (List.flatMap_map _ _ _).symm
      _ = notes.flatMap (candidatesOf query) := by rw [List.zipIdx_map_fst]

theorem owner_of_mem_positioned {p : Candidate × Nat} (h : p ∈ positioned query notes) :
    notes[p.2]? = some p.1.owner := by
  obtain ⟨⟨note, i⟩, hentry, hp⟩ := List.mem_flatMap.mp h
  obtain ⟨c, hc, rfl⟩ := List.mem_map.mp hp
  rw [owner_of_mem_candidatesOf hc]
  exact List.mem_zipIdx_iff_getElem?.mp hentry

/-- **Candidates come in the order of their notes**, and those of one note in the order of their
lines. -/
theorem pairwise_positioned (query : Query) (notes : List Note) :
    (positioned query notes).Pairwise fun p q =>
      p.2 < q.2 ∨ p.2 = q.2 ∧ lineOrder p.1.line? q.1.line? = .lt := by
  refine List.pairwise_flatMap.mpr ⟨fun entry _ => ?_, ?_⟩
  · exact List.pairwise_map.mpr ((pairwise_candidatesOf query entry.1).imp fun h => .inr ⟨rfl, h⟩)
  · have hpositions : (notes.zipIdx.map Prod.snd).Pairwise (· < ·) := by
      rw [List.zipIdx_map_snd]
      exact List.pairwise_lt_range'
    refine (List.pairwise_map.mp hpositions).imp fun {entry entry'} hlt p hp q hq => ?_
    obtain ⟨c, -, rfl⟩ := List.mem_map.mp hp
    obtain ⟨d, -, rfl⟩ := List.mem_map.mp hq
    exact .inl hlt

/-! ### Fewer notes -/

/-- **The candidates of some of the notes** are those that belong to them. -/
theorem candidates_filter (query : Query) (notes : List Note) (p : Note → Bool) :
    candidates query (notes.filter p) = (candidates query notes).filter (p ·.owner) := by
  rw [candidates_eq_flatMap, candidates_eq_flatMap]
  induction notes with
  | nil => rfl
  | cons note notes ih =>
    rw [List.flatMap_cons, List.filter_append, ← ih]
    have hown : ∀ c ∈ candidatesOf query note, p c.owner = p note :=
      fun c hc => congrArg p (owner_of_mem_candidatesOf hc)
    cases hp : p note with
    | true =>
      have hall : (candidatesOf query note).filter (p ·.owner) = candidatesOf query note :=
        List.filter_eq_self.mpr fun c hc => (hown c hc).trans hp
      rw [List.filter_cons_of_pos hp, List.flatMap_cons, hall]
    | false =>
      have hnone : (candidatesOf query note).filter (p ·.owner) = [] :=
        List.filter_eq_nil_iff.mpr fun c hc htrue => by
          rw [hown c hc, hp] at htrue
          cases htrue
      rw [List.filter_cons_of_neg (by simp [hp]), hnone, List.nil_append]

/-- Some of the notes in the same order, told by their paths. -/
theorem eq_filter_of_sublist {fewer notes : List Note} (hsub : fewer.Sublist notes)
    (hpaths : (notes.map Note.path).Nodup) :
    fewer = notes.filter fun note => note.path ∈ fewer.map Note.path := by
  induction hsub with
  | slnil => rfl
  | @cons fewer notes note hsub ih =>
    obtain ⟨hnew, hpaths⟩ := List.nodup_cons.mp hpaths
    have hout : note.path ∉ fewer.map Note.path := fun h => hnew ((hsub.map _).subset h)
    rw [List.filter_cons_of_neg (by simpa using hout)]
    exact ih hpaths
  | @cons_cons fewer notes note hsub ih =>
    obtain ⟨hnew, hpaths⟩ := List.nodup_cons.mp hpaths
    -- no other note has the path of the head, so the test of the rest is that of the induction
    have hrest : ∀ other ∈ notes, (other.path ∈ (note :: fewer).map Note.path ↔
        other.path ∈ fewer.map Note.path) := by
      intro other hother
      have hne : other.path ≠ note.path := fun heq => hnew (heq ▸ List.mem_map_of_mem hother)
      rw [List.map_cons, List.mem_cons, or_iff_right hne]
    rw [List.filter_cons_of_pos (by simp), List.filter_congr fun other hother =>
      decide_eq_decide.mpr (hrest other hother), ← ih hpaths]

end Notebook.Execution
