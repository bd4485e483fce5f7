import Notebook.Proofs.Sorting.Order
import Notebook.Sorting.Insertion

/-!
# What sorting by insertion gives

An item that moves to the left passes what it is less than, and nothing that it is tied with. So the
items that are in their places stay sorted when one more is put in its place
(`Notebook.Sorting.sorts_insertAll`), and in the end all are (`Notebook.Sorting.sorts_byInsertion`).
-/

namespace Notebook.Sorting

variable {α : Type} {less : α → α → Bool} {S : α → Prop} {items done sorted : List α}

/-! ### What is compared -/

theorem insertLast_map {β : Type} (f : α → β) (less : β → β → Bool) (x : α) (ys : List α) :
    insertLast less (f x) (ys.map f) = (insertLast (fun a b => less (f a) (f b)) x ys).map f := by
  induction ys with
  | nil => rfl
  | cons y ys ih =>
    rw [List.map_cons, insertLast, insertLast, ih]
    split <;> rfl

/-- It is the same to compare things by a key and to sort the keys. -/
theorem byInsertion_map {β : Type} (f : α → β) (less : β → β → Bool) (items : List α) :
    byInsertion less (items.map f) = (byInsertion (fun a b => less (f a) (f b)) items).map f := by
  have hfold : ∀ sorted : List α,
      (items.map f).foldl (fun sorted x => insertLast less x sorted) (sorted.map f) =
        (items.foldl (fun sorted x => insertLast (fun a b => less (f a) (f b)) x sorted) sorted).map
          f := by
    induction items with
    | nil => exact fun _ => rfl
    | cons x items ih =>
      intro sorted
      rw [List.map_cons, List.foldl_cons, List.foldl_cons, insertLast_map, ih]
  unfold byInsertion insertAll
  rw [List.map_reverse, List.reverse_nil, List.reverse_nil, ← hfold [], List.map_nil]

/-! ### One item -/

theorem perm_insertLast (less : α → α → Bool) (x : α) (ys : List α) :
    (insertLast less x ys).Perm (x :: ys) := by
  induction ys with
  | nil => exact .refl _
  | cons y ys ih =>
    unfold insertLast
    split
    · exact (ih.cons y).trans (.swap x y ys)
    · exact .refl _

/-- The list is held with its last item first, so the order in it goes down. -/
theorem pairwise_insertLast (horders : Orders less S) {x : α} {ys : List α} (hx : S x)
    (hys : ∀ y ∈ ys, S y) (hsorted : ys.Pairwise fun a b => less a b = false) :
    (insertLast less x ys).Pairwise fun a b => less a b = false := by
  induction ys with
  | nil => exact List.pairwise_singleton ..
  | cons y ys ih =>
    obtain ⟨hy, hrest⟩ := List.forall_mem_cons.mp hys
    obtain ⟨hhead, htail⟩ := List.pairwise_cons.mp hsorted
    unfold insertLast
    split
    · next hxy =>
      refine List.pairwise_cons.mpr ⟨fun z hz => ?_, ih hrest htail⟩
      rcases List.mem_cons.mp ((perm_insertLast _ x ys).mem_iff.mp hz) with rfl | hz
      · exact horders.asymm hx hy hxy
      · exact hhead z hz
    · next hxy =>
      have hxy : less x y = false := Bool.eq_false_iff.mpr hxy
      refine List.pairwise_cons.mpr ⟨fun z hz => ?_, hsorted⟩
      rcases List.mem_cons.mp hz with rfl | hz
      · exact hxy
      · exact horders.trans (hrest z hz) hy hx (hhead z hz) hxy

/-- An item does not pass what it is tied with. -/
theorem filter_tied_insertLast (horders : Orders less S) {x z : α} {ys : List α} (hx : S x)
    (hys : ∀ y ∈ ys, S y) (hz : S z) :
    (insertLast less x ys).filter (tied less z) = (x :: ys).filter (tied less z) := by
  induction ys with
  | nil => rfl
  | cons y ys ih =>
    obtain ⟨hy, hrest⟩ := List.forall_mem_cons.mp hys
    unfold insertLast
    split
    · next hxy =>
      rw [List.filter_cons, ih hrest, List.filter_cons, List.filter_cons, List.filter_cons]
      split
      · next hzy =>
        have hzx : ¬tied less z x = true := fun hzx =>
          nomatch hxy.symm.trans (horders.not_less_of_tied hx hy hz hzx hzy)
        rw [if_neg hzx, if_neg hzx]
      · rfl
    · rfl

theorem Sorts.insertLast (h : Sorts less S done sorted) {x : α} (hS : ∀ y ∈ done ++ [x], S y) :
    Sorts less S (done ++ [x]) (insertLast less x sorted.reverse).reverse := by
  obtain ⟨hdone, hx⟩ := List.forall_mem_append.mp hS
  have hx : S x := hx x (List.mem_singleton.mpr rfl)
  have hsorted : ∀ y ∈ sorted.reverse, S y := fun y hy =>
    hdone y (h.mem_iff.mp (List.mem_reverse.mp hy))
  constructor
  case perm =>
    calc (Sorting.insertLast less x sorted.reverse).reverse.Perm (x :: sorted.reverse) :=
          (List.reverse_perm _).trans (perm_insertLast less x _)
      _ |>.Perm (x :: done) := ((List.reverse_perm sorted).trans h.perm).cons x
      _ |>.Perm (done ++ [x]) := (List.perm_append_singleton x done).symm
  case pairwise =>
    intro horders
    exact List.pairwise_reverse.mpr (pairwise_insertLast horders hx hsorted
      (List.pairwise_reverse.mpr (h.pairwise horders)))
  case stable =>
    intro horders z hz
    rw [List.filter_reverse, filter_tied_insertLast horders hx hsorted hz, ← List.filter_reverse,
      List.reverse_cons, List.reverse_reverse, List.filter_append, List.filter_append,
      h.stable horders z hz]

/-! ### All items -/

/-- **Items that are put in their places among sorted ones** are sorted together with them. -/
theorem sorts_insertAll (h : Sorts less S done sorted) (hS : ∀ x ∈ done ++ items, S x) :
    Sorts less S (done ++ items) (insertAll less sorted items) := by
  induction items generalizing done sorted with
  | nil => simpa [insertAll] using h
  | cons x items ih =>
    rw [List.append_cons] at hS ⊢
    have hall := ih (h.insertLast fun y hy => hS y (List.mem_append_left _ hy)) hS
    rw [insertAll, List.reverse_reverse] at hall
    exact hall

/-- **Sorting by insertion sorts.** -/
theorem sorts_byInsertion (hS : ∀ x ∈ items, S x) : Sorts less S items (byInsertion less items) :=
  sorts_insertAll (.of_pairwise fun _ => .nil) hS

end Notebook.Sorting
