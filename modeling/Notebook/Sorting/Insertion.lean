/-!
# Sorting by insertion

Each item in turn is put in its place among those before it: it moves to the left past the items
that it is less than, and stops at the first one that it is not less than. Items that are equal
keep their order.
-/

namespace Notebook.Sorting

variable {α : Type}

/-- Puts an item in its place among sorted items, the last of which comes first. -/
def insertLast (less : α → α → Bool) (x : α) : List α → List α
  | [] => [x]
  | y :: ys => if less x y then y :: insertLast less x ys else x :: y :: ys

/-- Puts items in their places among sorted ones, one after the other. -/
def insertAll (less : α → α → Bool) (sorted items : List α) : List α :=
  (items.foldl (fun sorted x => insertLast less x sorted) sorted.reverse).reverse

/-- **The items in order.** -/
def byInsertion (less : α → α → Bool) (items : List α) : List α := insertAll less [] items

end Notebook.Sorting
