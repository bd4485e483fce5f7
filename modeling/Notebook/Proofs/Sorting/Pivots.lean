import Notebook.Proofs.Sorting.Runs
import Notebook.Sorting.Pivots

/-!
# What sorting by pivots gives

The items on the two sides of a pivot are those that are less than it and the others, so that the
sides can be sorted on their own. What carries this from pivot to pivot is that no item is less than
the pivot before (`Notebook.Sorting.IsFloor`): a pivot that is not greater than the one before is
tied with it, and so is everything that is not greater than this pivot. Then there is nothing left
to sort among them.
-/

namespace Notebook.Sorting

variable {α : Type} {less : α → α → Bool} {S : α → Prop} {items before after : List α} {pivot : α}

/-! ### Places -/

theorem middleOfThree_cases (less : Nat → Nat → Bool) (i j k : Nat) :
    middleOfThree less i j k = i ∨ middleOfThree less i j k = j ∨ middleOfThree less i j k = k := by
  unfold middleOfThree
  split
  · split
    · exact .inr (.inl rfl)
    · exact .inr (.inr rfl)
  · exact .inl rfl

/-- **The pivot is one of the items.** -/
theorem pivotPlace_lt (less : Nat → Nat → Bool) {start length : Nat} (hlength : 0 < length) :
    pivotPlace less start length < start + length := by
  fun_induction pivotPlace less start length with
  | case1 start length hshort => omega
  | case2 start length hlong eighth ih₁ ih₂ ih₃ =>
    have heighth : 0 < eighth := by omega
    have h₁ := ih₁ heighth
    have h₂ := ih₂ heighth
    have h₃ := ih₃ heighth
    rcases middleOfThree_cases less (pivotPlace less start eighth)
      (pivotPlace less (start + 4 * eighth) eighth)
      (pivotPlace less (start + 7 * eighth) eighth) with h | h | h <;> omega

/-! ### Sides -/

section

variable (p : α → Bool) (before after : List α) (pivot : α)

/-- Both sides of a pivot have the same items as what is before it, the pivot, and what is after it
have. -/
theorem perm_sides : ((before ++ after).filter p ++ sideWith (!p ·) before pivot after).Perm
    (before ++ pivot :: after) := by
  calc ((before ++ after).filter p ++ sideWith (!p ·) before pivot after).Perm
        (pivot :: ((before ++ after).filter p ++ (before ++ after).filter (!p ·))) := by
        rw [@List.filter_append _ (!p ·), sideWith, ← List.append_assoc, ← List.append_assoc]
        exact List.perm_middle
    _ |>.Perm (pivot :: (before ++ after)) :=
      (List.filter_append_perm p (before ++ after)).cons pivot
    _ |>.Perm (before ++ pivot :: after) := List.perm_middle.symm

variable {p pivot}

theorem filter_eq_side (hpivot : p pivot = false) :
    (before ++ after).filter p = (before ++ pivot :: after).filter p := by
  simp [hpivot]

theorem filter_eq_sideWith (hpivot : p pivot = false) :
    sideWith (!p ·) before pivot after = (before ++ pivot :: after).filter (!p ·) := by
  simp [sideWith, hpivot]

variable {before after}

theorem mem_of_mem_side {x : α} (hx : x ∈ (before ++ after).filter p) :
    x ∈ before ++ pivot :: after :=
  (perm_sides p before after pivot).mem_iff.mp (List.mem_append_left _ hx)

theorem mem_of_mem_sideWith {x : α} (hx : x ∈ sideWith (!p ·) before pivot after) :
    x ∈ before ++ pivot :: after :=
  (perm_sides p before after pivot).mem_iff.mp (List.mem_append_right _ hx)

end

/-- **What is less than a pivot comes first**, and then the others, the pivot among them. -/
theorem sorts_smaller_others {left right : List α} (hS : ∀ x ∈ before ++ pivot :: after, S x)
    (hleft : Sorts less S ((before ++ after).filter (less · pivot)) left)
    (hright : Sorts less S (sideWith (!less · pivot) before pivot after) right) :
    Sorts less S (before ++ pivot :: after) (left ++ right) := by
  have hpivot : S pivot := hS pivot (by simp)
  have hsmaller (horders : Orders less S) := filter_eq_side before after
    (p := (less · pivot)) (horders.irrefl hpivot)
  have hothers (horders : Orders less S) := filter_eq_sideWith before after
    (p := (less · pivot)) (horders.irrefl hpivot)
  refine .append (perm_sides ..) hsmaller hothers hS (fun horders x hx y hy => ?_) hleft hright
  rw [hsmaller horders] at hx
  rw [hothers horders] at hy
  obtain ⟨hx, hless⟩ := List.mem_filter.mp hx
  obtain ⟨hy, hnot⟩ := List.mem_filter.mp hy
  exact horders.less_of_less_of_not_less (hS x hx) hpivot (hS y hy) hless (by simpa using hnot)

/-- **What is tied with a pivot comes first**, as it is, when nothing is less than the pivot. -/
theorem sorts_same_others {right : List α} (hS : ∀ x ∈ before ++ pivot :: after, S x)
    (hleast : Orders less S → ∀ x ∈ before ++ pivot :: after, less x pivot = false)
    (hright : Sorts less S ((before ++ after).filter (less pivot ·)) right) :
    Sorts less S (before ++ pivot :: after)
      (sideWith (!less pivot ·) before pivot after ++ right) := by
  have hpivot : S pivot := hS pivot (by simp)
  have hothers (horders : Orders less S) := filter_eq_side before after
    (p := (less pivot ·)) (horders.irrefl hpivot)
  have hsame (horders : Orders less S) := filter_eq_sideWith before after
    (p := (less pivot ·)) (horders.irrefl hpivot)
  refine .append (p := (!less pivot ·)) (List.perm_append_comm.trans (perm_sides ..)) hsame
    (fun horders => ?_) hS (fun horders x hx y hy => ?_) (.of_pairwise fun horders => ?_) hright
  · simpa using hothers horders
  · rw [hsame horders] at hx
    rw [hothers horders] at hy
    obtain ⟨hx, hnot⟩ := List.mem_filter.mp hx
    obtain ⟨hy, hless⟩ := List.mem_filter.mp hy
    exact horders.less_of_not_less_of_less (hS x hx) hpivot (hS y hy) (by simpa using hnot) hless
  · rw [hsame horders]
    refine List.pairwise_of_forall_mem_list fun x hx y hy => ?_
    obtain ⟨hx, hnot⟩ := List.mem_filter.mp hx
    obtain ⟨hy, -⟩ := List.mem_filter.mp hy
    exact horders.trans (hS x hx) hpivot (hS y hy) (by simpa using hnot) (hleast horders y hy)

/-! ### Ancestors -/

/-- That **no item is less than an ancestor**, if there is one. -/
def IsFloor (less : α → α → Bool) (S : α → Prop) (ancestor : Option α) (items : List α) : Prop :=
  ∀ a ∈ ancestor, S a ∧ (Orders less S → ∀ x ∈ items, less x a = false)

variable {ancestor : Option α}

theorem IsFloor.none : IsFloor less S none items := nofun

theorem IsFloor.of_subset {part : List α} (h : IsFloor less S ancestor items)
    (hpart : ∀ x ∈ part, x ∈ items) : IsFloor less S ancestor part := by
  intro a ha
  obtain ⟨hSa, hleast⟩ := h a ha
  exact ⟨hSa, fun horders x hx => hleast horders x (hpart x hx)⟩

/-- A pivot is an ancestor of what is on its side. -/
theorem isFloor_pivot (hpivot : S pivot) :
    IsFloor less S (some pivot) (sideWith (!less · pivot) before pivot after) := by
  rintro a ⟨⟩
  refine ⟨hpivot, fun horders x hx => ?_⟩
  rw [filter_eq_sideWith before after (p := (less · pivot)) (horders.irrefl hpivot)] at hx
  simpa using (List.mem_filter.mp hx).2

/-- **No item is less than a pivot** that is not greater than the one before, or that nothing is
found to be less than. -/
theorem not_less_pivot (horders : Orders less S) (hS : ∀ x ∈ before ++ pivot :: after, S x)
    (hfloor : IsFloor less S ancestor (before ++ pivot :: after))
    (h : (ancestor.any (!less · pivot) ||
      ((before ++ after).filter (less · pivot)).isEmpty) = true) :
    ∀ x ∈ before ++ pivot :: after, less x pivot = false := by
  intro x hx
  have hpivot : S pivot := hS pivot (by simp)
  rcases Bool.or_eq_true_iff.mp h with hany | hnone
  · obtain ⟨a, rfl, hnot⟩ := (Option.any_eq_true _ _).mp hany
    obtain ⟨hSa, hleast⟩ := hfloor a rfl
    exact horders.trans hpivot hSa (hS x hx) (by simpa using hnot) (hleast horders x hx)
  · rw [List.isEmpty_iff, List.filter_eq_nil_iff] at hnone
    rcases List.mem_append.mp hx with hx | hx
    · exact Bool.eq_false_iff.mpr (hnone x (List.mem_append_left _ hx))
    · rcases List.mem_cons.mp hx with rfl | hx
      · exact horders.irrefl hpivot
      · exact Bool.eq_false_iff.mpr (hnone x (List.mem_append_right _ hx))

/-! ### The whole list -/

/-- **Sorting by pivots** delivers the items sorted, if none is less than the pivot before. -/
theorem delivers_byPivots? (limit : Nat) (hS : ∀ x ∈ items, S x)
    (hfloor : IsFloor less S ancestor items) :
    Delivers (Orders less S) (byPivots? less limit ancestor items) (Sorts less S items) := by
  induction limit generalizing items ancestor with
  | zero =>
    unfold byPivots?
    split
    · exact delivers_byHalves? hS
    · exact delivers_byRuns? true (fun _ => delivers_byHalves?) hS
  | succ limit ih =>
    unfold byPivots?
    split
    · exact delivers_byHalves? hS
    · next hlong =>
      have hplace : pivotPlace (lessAt less items) 0 items.length < 0 + items.length :=
        pivotPlace_lt _ (by omega)
      generalize pivotPlace (lessAt less items) 0 items.length = place at hplace ⊢
      dsimp only
      split
      · next hdrop => exact absurd (List.drop_eq_nil_iff.mp hdrop) (by omega)
      · next pivot after hdrop =>
        have hsplit : items = items.take place ++ pivot :: after := by
          rw [← hdrop, List.take_append_drop]
        generalize items.take place = before at hsplit ⊢
        subst hsplit
        split
        · next hleast =>
          refine (ih (fun x hx => hS x (mem_of_mem_side hx)) .none).map fun right hright => ?_
          exact sorts_same_others hS (not_less_pivot · hS hfloor hleast) hright
        · refine (ih (fun x hx => hS x (mem_of_mem_sideWith hx))
            (isFloor_pivot (hS pivot (by simp)))).bind fun right hright => ?_
          refine (ih (fun x hx => hS x (mem_of_mem_side hx))
            (hfloor.of_subset fun _ => mem_of_mem_side)).bind fun left hleft => ?_
          exact .some (sorts_smaller_others hS hleft hright)

/-- **Sorting by pivots** delivers the items sorted. -/
theorem delivers_quickly? (hS : ∀ x ∈ items, S x) :
    Delivers (Orders less S) (quickly? less items) (Sorts less S items) :=
  delivers_byPivots? _ hS .none

end Notebook.Sorting
