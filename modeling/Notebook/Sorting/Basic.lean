import Notebook.Sorting.Pivots

/-!
# Sorting

A list of up to twenty items is sorted by insertion, and a longer one by runs. Items that are equal
keep their order. For a long list the comparison has to be an order; otherwise there may be no
answer.
-/

namespace Notebook.Sorting

variable {α : Type}

/-- **The items in order**, if the comparison does not stand in the way. -/
def sort? (less : α → α → Bool) (items : List α) : Option (List α) :=
  if items.length ≤ 20 then some (byInsertion less items)
  else byRuns? less (quickly? less) (decide (items.length ≤ 64)) items

end Notebook.Sorting
