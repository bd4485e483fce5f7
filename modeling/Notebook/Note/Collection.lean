import Notebook.Note.Document

/-!
# Collections of notes

The notes that a query ranges over, in the order of their paths by code point. Notes with the same
path keep the order in which they came.
-/

namespace Notebook

/-- Whether a note may come before another one. -/
def Note.pathLe (a b : Note) : Bool := (compare a.path b.path).isLE

/-- **A collection of notes** in the order of their paths. -/
structure Collection where
  /-- The notes. -/
  notes : List Note
  /-- No note comes before one with a smaller path. -/
  ordered : notes.Pairwise fun a b => a.pathLe b = true

namespace Collection

theorem pathLe_trans (a b c : Note) (hab : a.pathLe b = true) (hbc : b.pathLe c = true) :
    a.pathLe c = true :=
  Std.TransCmp.isLE_trans hab hbc

theorem pathLe_total (a b : Note) : (a.pathLe b || b.pathLe a) = true := by
  have h : compare b.path a.path = (compare a.path b.path).swap := Std.OrientedCmp.eq_swap
  unfold Note.pathLe
  rw [h]
  cases compare a.path b.path <;> rfl

/-- **The collection of a list of notes.** -/
def ofList (notes : List Note) : Collection :=
  ⟨notes.mergeSort Note.pathLe, List.pairwise_mergeSort pathLe_trans pathLe_total notes⟩

/-- The note with a path; of several ones, the last. -/
def get? (collection : Collection) (path : String) : Option Note :=
  (collection.notes.filter (·.path == path)).getLast?

/-- **The collection that a text spells**, an array of notes. -/
def ofText (text : String) : Except Json.Fault Collection :=
  (Json.readAll (Json.readList Note.read Json.maxDepth) text).map ofList

end Collection

end Notebook
