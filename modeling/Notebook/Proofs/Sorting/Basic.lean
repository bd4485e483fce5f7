import Notebook.Proofs.Sorting.Pivots
import Notebook.Sorting.Basic

/-!
# What sorting gives

Sorting never loses an item nor makes a new one (`Notebook.Sorting.perm_of_sort?`). Where the
comparison orders the items, it gives the same as insertion, however long the list is
(`Notebook.Sorting.sort?_eq_byInsertion`); so there is no answer only for more than twenty items and
a comparison that does not order them (`Notebook.Sorting.lt_length_of_sort?_eq_none`,
`Notebook.Sorting.not_orders_of_sort?_eq_none`).
-/

namespace Notebook.Sorting

variable {α : Type} {less : α → α → Bool} {S : α → Prop} {items sorted : List α}

/-- **Sorting** delivers the items sorted. -/
theorem delivers_sort? (hS : ∀ x ∈ items, S x) :
    Delivers (Orders less S) (sort? less items) (Sorts less S items) := by
  unfold sort?
  split
  · exact .some (sorts_byInsertion hS)
  · exact delivers_byRuns? _ (fun _ => delivers_quickly?) hS

/-- **Sorting keeps the items**, whatever the comparison is. -/
theorem perm_of_sort? (h : sort? less items = some sorted) : sorted.Perm items :=
  have hsorts : Sorts less (fun _ => True) items sorted :=
    (delivers_sort? fun _ _ => trivial).good h
  hsorts.perm

/-- **Sorting is sorting by insertion** where the comparison orders the items. -/
theorem sort?_eq_byInsertion (horders : Orders less S) (hS : ∀ x ∈ items, S x) :
    sort? less items = some (byInsertion less items) := by
  obtain ⟨sorted, hsorted⟩ := Option.isSome_iff_exists.mp ((delivers_sort? hS).isSome horders)
  have hsorts : Sorts less S items sorted := (delivers_sort? hS).good hsorted
  rw [hsorted, hsorts.eq horders hS (sorts_byInsertion hS)]

/-- Up to twenty items are sorted by any comparison. -/
theorem lt_length_of_sort?_eq_none (h : sort? less items = none) : 20 < items.length := by
  unfold sort? at h
  split at h
  · cases h
  · omega

/-- Only a comparison that does not order the items stands in the way of sorting. -/
theorem not_orders_of_sort?_eq_none (h : sort? less items = none) (hS : ∀ x ∈ items, S x) :
    ¬Orders less S := fun horders =>
  nomatch h.symm.trans (sort?_eq_byInsertion horders hS)

/-- Twenty-one items are enough, where those without a rank are compared by their places alone. -/
example : sort? (fun a b : Option Nat × Nat =>
      match a.1, b.1 with
      | some m, some n => if m = n then a.2 < b.2 else m < n
      | _, _ => a.2 < b.2)
    (List.replicate 7 [some 1, none, some 2]).flatten.zipIdx = none := by
  decide +kernel

end Notebook.Sorting
