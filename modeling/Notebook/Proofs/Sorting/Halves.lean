import Mathlib.Algebra.Order.Group.Multiset
import Mathlib.Tactic.Abel
import Notebook.Proofs.Sorting.Insertion
import Notebook.Sorting.Halves

/-!
# What sorting by halves gives

Taking items from the front of two sorted lists cuts both of them (`Notebook.Sorting.Cut`): what is
taken from one of them is not greater than what is left of the other
(`Notebook.Sorting.Takes`), and so does taking items from the back. Where the comparison orders the
items the two cuts of a list cannot cross, as an item that both ends take would be both less and not
less than one that both of them leave (`Notebook.Sorting.not_crossing`): there is an answer then,
and it is the merge (`Notebook.Sorting.mergeEnds?_eq_merge`). Where it does not, an answer is still
made of the same items, since the lengths were compared (`Notebook.Sorting.perm_of_mergeEnds?`).
-/

namespace Notebook.Sorting

variable {α : Type} {less : α → α → Bool} {S : α → Prop} {items left right xs ys : List α}

/-! ### Four items -/

theorem sorts_sortTwo (x y : α) (hS : ∀ z ∈ [x, y], S z) :
    Sorts less S [x, y] [(sortTwo less x y).1, (sortTwo less x y).2] := by
  unfold sortTwo
  split
  · next hless =>
    exact .of_descending hS fun _ => List.pairwise_pair.mpr hless
  · next hless =>
    exact .of_pairwise fun _ => List.pairwise_pair.mpr (Bool.eq_false_iff.mpr hless)

theorem perm_sortTwo (less : α → α → Bool) (x y : α) :
    [(sortTwo less x y).1, (sortTwo less x y).2].Perm [x, y] :=
  (sorts_sortTwo x y fun _ _ => trivial : Sorts less (fun _ => True) _ _).perm

theorem perm_joinPairs (less : α → α → Bool) (p q : α × α) :
    (joinPairs less p q).Perm [p.1, p.2, q.1, q.2] := by
  obtain ⟨a, b⟩ := p
  obtain ⟨c, d⟩ := q
  unfold joinPairs
  dsimp only
  split
  · exact ((perm_sortTwo less b c).append_right [d]).cons a
  · exact (((perm_sortTwo less c d).append_right [b]).trans
      (List.perm_append_singleton b [c, d])).cons a
  · exact (((perm_sortTwo less a b).append_right [d]).cons c).trans List.perm_middle.symm
  · calc (c :: [(sortTwo less a d).1, (sortTwo less a d).2] ++ [b]).Perm (c :: ([a, d] ++ [b])) :=
          ((perm_sortTwo less a d).append_right [b]).cons c
      _ |>.Perm (a :: ([c, d] ++ [b])) := .swap a c [d, b]
      _ |>.Perm [a, b, c, d] := (List.perm_append_singleton b [c, d]).cons a

/-- Two pairs in order are merged. -/
theorem joinPairs_eq_merge (horders : Orders less S) {a b c d : α}
    (hS : ∀ x ∈ [a, b] ++ [c, d], S x) (hba : less b a = false) (hdc : less d c = false) :
    joinPairs less (a, b) (c, d) = [a, b].merge [c, d] fun x y => !less y x := by
  obtain ⟨ha, hb, hc, hd⟩ : S a ∧ S b ∧ S c ∧ S d := by simpa using hS
  unfold joinPairs sortTwo
  dsimp only
  split
  · next hca hdb =>
    cases hcb : less c b <;> simp [hca, hdb, hcb]
  · next hca hdb =>
    have hcb : less c b = true := horders.less_of_not_less_of_less hc hd hb hdc hdb
    simp [hca, hdb, hcb, hdc]
  · next hca hdb =>
    have hda : less d a = false := horders.trans ha hb hd hba hdb
    simp [hca, hdb, hba, hda]
  · next hca hdb =>
    cases hda : less d a <;> simp [hca, hdb, hda]

theorem sorts_joinPairs {p q : α × α} (hS : ∀ x ∈ left ++ right, S x)
    (hp : Sorts less S left [p.1, p.2]) (hq : Sorts less S right [q.1, q.2]) :
    Sorts less S (left ++ right) (joinPairs less p q) := by
  refine .of_perm ((perm_joinPairs less p q).trans (hp.perm.append hq.perm)) fun horders => ?_
  have hba : less p.2 p.1 = false := by simpa using hp.pairwise horders
  have hdc : less q.2 q.1 = false := by simpa using hq.pairwise horders
  rw [joinPairs_eq_merge horders (fun x hx => hS x ((hp.perm.append hq.perm).mem_iff.mp hx)) hba
    hdc]
  exact hp.merge hS hq

theorem sorts_sortFour (x₁ x₂ x₃ x₄ : α) (hS : ∀ x ∈ [x₁, x₂] ++ [x₃, x₄], S x) :
    Sorts less S [x₁, x₂, x₃, x₄] (sortFour less x₁ x₂ x₃ x₄) :=
  have hpairs := List.forall_mem_append.mp hS
  sorts_joinPairs hS (sorts_sortTwo x₁ x₂ hpairs.1) (sorts_sortTwo x₃ x₄ hpairs.2)

/-! ### Lists cut in two -/

/-- A list **cut in two**. -/
structure Cut (items : List α) where
  /-- What comes before the cut. -/
  before : List α
  /-- What comes after the cut. -/
  after : List α
  /-- Both of them make up the list. -/
  eq : before ++ after = items

namespace Cut

/-- The cut at the start. -/
def atStart (items : List α) : Cut items := ⟨[], items, rfl⟩

/-- The same cut, with one more item at the start. -/
def cons (x : α) (c : Cut items) : Cut (x :: items) :=
  ⟨x :: c.before, c.after, congrArg (x :: ·) c.eq⟩

/-- What is left **in between** when a list is cut from both ends, by its length. -/
def between (c : Cut items) (d : Cut items.reverse) : List α :=
  c.after.take (c.after.length + d.after.length - items.length)

variable (c : Cut items) (d : Cut items.reverse)

theorem length_eq : c.before.length + c.after.length = items.length := by
  rw [← List.length_append, c.eq]

theorem mem_of_mem_after {x : α} (hx : x ∈ c.after) : x ∈ items :=
  c.eq ▸ List.mem_append_right _ hx

theorem length_eq_of_reverse : d.before.length + d.after.length = items.length := by
  rw [d.length_eq, List.length_reverse]

theorem eq_of_reverse : d.after.reverse ++ d.before.reverse = items := by
  rw [← List.reverse_append, d.eq, List.reverse_reverse]

end Cut

section

variable {a b c d : List α}

/-- A list that is cut twice, the first time before the second time: what is in between. -/
theorem exists_middle (h : a ++ b = c ++ d) (hle : a.length ≤ c.length) :
    ∃ middle, c = a ++ middle ∧ b = middle ++ d := by
  rcases List.append_eq_append_iff.mp h with ⟨middle, rfl, rfl⟩ | ⟨middle, rfl, rfl⟩
  · exact ⟨middle, rfl, rfl⟩
  · rw [List.length_append] at hle
    obtain rfl : middle = [] := List.length_eq_zero_iff.mp (by omega)
    exact ⟨[], by simp, by simp⟩

theorem eq_of_perm_of_length_le_one (h : a.Perm b) (hle : b.length ≤ 1) : a = b := by
  match b with
  | [] => exact h.eq_nil
  | [x] => exact List.perm_singleton.mp h

end

namespace Cut

variable (c : Cut items) (d : Cut items.reverse)

/-- Two cuts that leave a list in between leave this one. -/
theorem eq_between (hle : items.length ≤ c.after.length + d.after.length) :
    c.before ++ (c.between d ++ d.before.reverse) = items := by
  have hc := c.length_eq
  have hd := d.length_eq_of_reverse
  obtain ⟨middle, hback, hafter⟩ := exists_middle (c.eq.trans d.eq_of_reverse.symm)
    (by rw [List.length_reverse]; omega)
  have hcount : c.after.length + d.after.length - items.length = middle.length := by
    have hlength := congrArg List.length hback
    rw [List.length_append, List.length_reverse] at hlength
    omega
  rw [between, hcount, hafter, List.take_left, ← hafter, c.eq]

/-- Two cuts that cross: there is an item before both of them. -/
theorem exists_mem_before (hlt : items.length < c.before.length + d.before.length) :
    ∃ x ∈ c.before, x ∈ d.before := by
  have hd := d.length_eq_of_reverse
  obtain ⟨middle, hbefore, hback⟩ := exists_middle (d.eq_of_reverse.trans c.eq.symm)
    (by rw [List.length_reverse]; omega)
  have hlength := congrArg List.length hbefore
  rw [List.length_append, List.length_reverse] at hlength
  obtain ⟨x, hx⟩ := List.exists_mem_of_length_pos (show 0 < middle.length by omega)
  refine ⟨x, hbefore ▸ List.mem_append_right _ hx, List.mem_reverse.mp ?_⟩
  exact hback ▸ List.mem_append_left _ hx

/-- Two cuts that leave something: there is an item after both of them. -/
theorem exists_mem_after (hlt : c.before.length + d.before.length < items.length) :
    ∃ x ∈ c.after, x ∈ d.after := by
  have hd := d.length_eq_of_reverse
  obtain ⟨middle, hback, hafter⟩ := exists_middle (c.eq.trans d.eq_of_reverse.symm)
    (by rw [List.length_reverse]; omega)
  have hlength := congrArg List.length hback
  rw [List.length_append, List.length_reverse] at hlength
  obtain ⟨x, hx⟩ := List.exists_mem_of_length_pos (show 0 < middle.length by omega)
  refine ⟨x, hafter ▸ List.mem_append_left _ hx, List.mem_reverse.mp ?_⟩
  exact hback ▸ List.mem_append_right _ hx

end Cut

/-! ### Items from one end -/

/-- The first items of two lists that are merged **are taken**: those before a cut of each list. -/
structure Takes (less : α → α → Bool) (S : α → Prop) (front : List α) (c : Cut xs) (d : Cut ys) :
    Prop where
  /-- These items are taken, whatever the comparison is. -/
  perm : front.Perm (c.before ++ d.before)
  /-- What is taken comes first in the merge. -/
  merge : (front ++ c.after.merge d.after fun x y => !less y x) = xs.merge ys fun x y => !less y x
  /-- What is left on the right is not less than what is taken on the left. -/
  left_first : Orders less S → (∀ x ∈ xs, S x) → (∀ y ∈ ys, S y) →
    (ys.Pairwise fun x y => less y x = false) → ∀ x ∈ c.before, ∀ y ∈ d.after, less y x = false
  /-- What is left on the left is greater than what is taken on the right. -/
  right_first : Orders less S → (∀ x ∈ xs, S x) → (∀ y ∈ ys, S y) →
    (xs.Pairwise fun x y => less y x = false) → ∀ y ∈ d.before, ∀ x ∈ c.after, less y x = true

namespace Takes

variable {front : List α} {x y : α}

theorem length_eq {c : Cut xs} {d : Cut ys} (h : Takes less S front c d) :
    front.length = c.before.length + d.before.length := by
  rw [h.perm.length_eq, List.length_append]

theorem nil (less : α → α → Bool) (S : α → Prop) (xs ys : List α) :
    Takes less S [] (.atStart xs) (.atStart ys) where
  perm := .refl _
  merge := rfl
  left_first _ _ _ _ := nofun
  right_first _ _ _ _ := nofun

/-- One more item is taken on the left. -/
theorem fromLeft {c : Cut xs} {d : Cut (y :: ys)} (h : Takes less S front c d)
    (hyx : less y x = false) : Takes less S (x :: front) (c.cons x) d where
  perm := h.perm.cons x
  merge := by
    rw [List.cons_merge_cons, if_pos (by simp [hyx]), ← h.merge]
    rfl
  left_first horders hxs hys hsorted := by
    obtain ⟨hx, hxs⟩ := List.forall_mem_cons.mp hxs
    refine List.forall_mem_cons.mpr ⟨fun z hz => ?_, h.left_first horders hxs hys hsorted⟩
    have hz := d.mem_of_mem_after hz
    rcases List.mem_cons.mp hz with rfl | hrest
    · exact hyx
    · exact horders.trans hx (hys y (List.mem_cons_self ..)) (hys z hz) hyx
        ((List.pairwise_cons.mp hsorted).1 z hrest)
  right_first horders hxs hys hsorted :=
    h.right_first horders (List.forall_mem_cons.mp hxs).2 hys (List.pairwise_cons.mp hsorted).2

/-- One more item is taken on the right. -/
theorem fromRight {c : Cut (x :: xs)} {d : Cut ys} (h : Takes less S front c d)
    (hyx : less y x = true) : Takes less S (y :: front) c (d.cons y) where
  perm := (h.perm.cons y).trans List.perm_middle.symm
  merge := by
    rw [List.cons_merge_cons, if_neg (by simp [hyx]), ← h.merge]
    rfl
  left_first horders hxs hys hsorted :=
    h.left_first horders hxs (List.forall_mem_cons.mp hys).2 (List.pairwise_cons.mp hsorted).2
  right_first horders hxs hys hsorted := by
    obtain ⟨hy, hys⟩ := List.forall_mem_cons.mp hys
    refine List.forall_mem_cons.mpr ⟨fun z hz => ?_, h.right_first horders hxs hys hsorted⟩
    have hz := c.mem_of_mem_after hz
    rcases List.mem_cons.mp hz with rfl | hrest
    · exact hyx
    · exact horders.less_of_less_of_not_less hy (hxs x (List.mem_cons_self ..)) (hxs z hz) hyx
        ((List.pairwise_cons.mp hsorted).1 z hrest)

end Takes

/-- **What is taken** from the front of two lists is what is before a cut of each of them. -/
theorem exists_takes (less : α → α → Bool) (S : α → Prop) (count : Nat) (xs ys : List α) :
    ∃ (front : List α) (c : Cut xs) (d : Cut ys),
      takeMerged less count xs ys = (front, c.after, d.after) ∧ Takes less S front c d := by
  fun_induction takeMerged less count xs ys with
  | case1 xs ys => exact ⟨[], .atStart xs, .atStart ys, rfl, .nil less S xs ys⟩
  | case2 count x xs y ys hyx front rest heq ih =>
    obtain ⟨_, c, d, htaken, htakes⟩ := ih
    cases heq.symm.trans htaken
    exact ⟨y :: front, c, d.cons y, rfl, htakes.fromRight hyx⟩
  | case3 count x xs y ys hyx front rest heq ih =>
    obtain ⟨_, c, d, htaken, htakes⟩ := ih
    cases heq.symm.trans htaken
    exact ⟨x :: front, c.cons x, d, rfl, htakes.fromLeft (Bool.eq_false_iff.mpr hyx)⟩
  | case4 count xs ys => exact ⟨[], .atStart xs, .atStart ys, rfl, .nil less S xs ys⟩

/-- As many items are taken as both lists have. -/
theorem length_takeMerged {count : Nat} (hxs : count ≤ xs.length) (hys : count ≤ ys.length) :
    (takeMerged less count xs ys).1.length = count := by
  fun_induction takeMerged less count xs ys with
  | case1 => rfl
  | case2 count x xs y ys hyx front rest heq ih =>
    rw [heq] at ih
    exact congrArg (· + 1) (ih (Nat.le_of_succ_le hxs) (Nat.le_of_succ_le_succ hys))
  | case3 count x xs y ys hyx front rest heq ih =>
    rw [heq] at ih
    exact congrArg (· + 1) (ih (Nat.le_of_succ_le_succ hxs) (Nat.le_of_succ_le hys))
  | case4 count xs ys hcons =>
    match xs, ys with
    | x :: xs, y :: ys => exact (hcons x xs y ys rfl rfl).elim

/-! ### Items from both ends -/

section

variable {front back : List α} {c : Cut xs} {d : Cut ys} {c' : Cut xs.reverse}
  {d' : Cut ys.reverse}

/-- Two lists are made of what their two ends take and leave. -/
theorem perm_ends (hfront : Takes less S front c d)
    (hback : Takes (fun x y => less y x) S back d' c')
    (hxs : xs.length ≤ c.after.length + c'.after.length)
    (hys : ys.length ≤ d.after.length + d'.after.length) :
    (front ++ (c.between c' ++ d.between d') ++ back.reverse).Perm (xs ++ ys) := by
  have hfront : (front : Multiset α) = c.before + d.before :=
    (Multiset.coe_eq_coe.mpr hfront.perm).trans (Multiset.coe_add ..).symm
  have hback : (back : Multiset α) = d'.before + c'.before :=
    (Multiset.coe_eq_coe.mpr hback.perm).trans (Multiset.coe_add ..).symm
  have hxs : (xs : Multiset α) = c.before + (c.between c' + c'.before) := by
    rw [← Multiset.coe_reverse c'.before, Multiset.coe_add, Multiset.coe_add, c.eq_between c' hxs]
  have hys : (ys : Multiset α) = d.before + (d.between d' + d'.before) := by
    rw [← Multiset.coe_reverse d'.before, Multiset.coe_add, Multiset.coe_add, d.eq_between d' hys]
  refine Multiset.coe_eq_coe.mp ?_
  simp only [← Multiset.coe_add, Multiset.coe_reverse, hfront, hback, hxs, hys]
  abel

variable (horders : Orders less S) (hS : ∀ x ∈ xs ++ ys, S x)
  (hxsorted : xs.Pairwise fun x y => less y x = false)
  (hysorted : ys.Pairwise fun x y => less y x = false)
  (hfront : Takes less S front c d) (hback : Takes (fun x y => less y x) S back d' c')

include horders hS hxsorted hysorted hfront hback

/-- **The two ends do not cross**: an item that both of them take from one list is both less and not
less than an item that both of them leave in the other list. -/
theorem not_crossing (hlength : front.length + back.length ≤ xs.length + ys.length) :
    c.before.length + c'.before.length ≤ xs.length ∧
      d.before.length + d'.before.length ≤ ys.length := by
  obtain ⟨hxs, hys⟩ := List.forall_mem_append.mp hS
  have hxs' : ∀ x ∈ xs.reverse, S x := fun x hx => hxs x (List.mem_reverse.mp hx)
  have hys' : ∀ y ∈ ys.reverse, S y := fun y hy => hys y (List.mem_reverse.mp hy)
  rw [hfront.length_eq, hback.length_eq] at hlength
  by_contra hcross
  rcases Nat.lt_or_ge xs.length (c.before.length + c'.before.length) with hlt | hge
  · obtain ⟨x, hx, hx'⟩ := c.exists_mem_before c' hlt
    obtain ⟨y, hy, hy'⟩ := d.exists_mem_after d' (by omega)
    have hless := hback.right_first horders.backwards hys' hxs'
      (List.pairwise_reverse.mpr hysorted) x hx' y hy'
    cases hless.symm.trans (hfront.left_first horders hxs hys hysorted x hx y hy)
  · obtain ⟨y, hy, hy'⟩ := d.exists_mem_before d' (by omega)
    obtain ⟨x, hx, hx'⟩ := c.exists_mem_after c' (by omega)
    have hless := hback.left_first horders.backwards hys' hxs'
      (List.pairwise_reverse.mpr hxsorted) y hy' x hx'
    cases hless.symm.trans (hfront.right_first horders hxs hys hxsorted y hy x hx)

/-- Where both ends leave at most one item, it is the one in between in the merge. -/
theorem ends_eq_merge (hxs : xs.length ≤ c.after.length + c'.after.length)
    (hys : ys.length ≤ d.after.length + d'.after.length)
    (hle : (c.between c' ++ d.between d').length ≤ 1) :
    front ++ (c.between c' ++ d.between d') ++ back.reverse =
      xs.merge ys fun x y => !less y x := by
  have hbackward : (xs.merge ys fun x y => !less y x) =
      (d'.after.merge c'.after fun x y => !less x y).reverse ++ back.reverse := by
    rw [merge_eq_mergeBackwards horders hS hxsorted hysorted, ← hback.merge, List.reverse_append]
  have hitems := perm_ends hfront hback hxs hys
  have hlength : front.length ≤ (d'.after.merge c'.after fun x y => !less x y).reverse.length := by
    have htotal := congrArg List.length hbackward
    have hends := hitems.length_eq
    simp only [List.length_append, List.length_merge, List.length_reverse] at htotal hends ⊢
    omega
  obtain ⟨middle, -, hmiddle⟩ := exists_middle (hfront.merge.trans hbackward) hlength
  have hperm : (front ++ middle ++ back.reverse).Perm
      (front ++ (c.between c' ++ d.between d') ++ back.reverse) := by
    rw [List.append_assoc, ← hmiddle, hfront.merge]
    exact (List.merge_perm_append _).trans hitems.symm
  have hsame : middle = c.between c' ++ d.between d' := eq_of_perm_of_length_le_one
    ((List.perm_append_left_iff front).mp ((List.perm_append_right_iff _).mp hperm)) hle
  rw [← hfront.merge, hmiddle, hsame, List.append_assoc front]

end

/-- **Merging from both ends** puts together what the ends take and leave, if they meet. -/
theorem exists_ends (less : α → α → Bool) (S : α → Prop) (xs ys : List α) :
    ∃ (front back : List α) (c : Cut xs) (d : Cut ys) (c' : Cut xs.reverse) (d' : Cut ys.reverse),
      Takes less S front c d ∧ Takes (fun x y => less y x) S back d' c' ∧
      front.length = (takeMerged less xs.length xs ys).1.length ∧
      back.length =
        (takeMerged (fun x y => less y x) xs.length ys.reverse xs.reverse).1.length ∧
      mergeEnds? less xs ys =
        if xs.length ≤ c.after.length + c'.after.length ∧
            ys.length ≤ d.after.length + d'.after.length then
          some (front ++ (c.between c' ++ d.between d') ++ back.reverse)
        else none := by
  obtain ⟨front, c, d, hfront, htakes⟩ := exists_takes less S xs.length xs ys
  obtain ⟨back, d', c', hback, htakes'⟩ :=
    exists_takes (fun x y => less y x) S xs.length ys.reverse xs.reverse
  refine ⟨front, back, c, d, c', d', htakes, htakes', by rw [hfront], by rw [hback], ?_⟩
  rw [mergeEnds?, hfront, hback, ← List.append_assoc front]
  rfl

/-- The same items, whatever the comparison is. -/
theorem perm_of_mergeEnds? {merged : List α} (h : mergeEnds? less xs ys = some merged) :
    merged.Perm (xs ++ ys) := by
  obtain ⟨front, back, c, d, c', d', hfront, hback, -, -, hmerge⟩ :=
    exists_ends less (fun _ => True) xs ys
  rw [hmerge] at h
  split at h
  · next hmeet =>
    cases h
    exact perm_ends hfront hback hmeet.1 hmeet.2
  · cases h

/-- **Where the comparison orders the items, both ends give the merge.** -/
theorem mergeEnds?_eq_merge (horders : Orders less S) (hS : ∀ x ∈ xs ++ ys, S x)
    (hxsorted : xs.Pairwise fun x y => less y x = false)
    (hysorted : ys.Pairwise fun x y => less y x = false) (hle : xs.length ≤ ys.length)
    (hlt : ys.length ≤ xs.length + 1) :
    mergeEnds? less xs ys = some (xs.merge ys fun x y => !less y x) := by
  obtain ⟨front, back, c, d, c', d', hfront, hback, hfrontlength, hbacklength, hmerge⟩ :=
    exists_ends less S xs ys
  rw [length_takeMerged le_rfl hle] at hfrontlength
  rw [length_takeMerged (by simpa using hle) (by simp)] at hbacklength
  obtain ⟨hleft, hright⟩ :=
    not_crossing horders hS hxsorted hysorted hfront hback (by omega)
  have hc := c.length_eq
  have hd := d.length_eq
  have hc' := c'.length_eq_of_reverse
  have hd' := d'.length_eq_of_reverse
  have hxs : xs.length ≤ c.after.length + c'.after.length := by omega
  have hys : ys.length ≤ d.after.length + d'.after.length := by omega
  have hbetween : (c.between c' ++ d.between d').length ≤ 1 := by
    have hfronttotal := hfront.length_eq
    have hbacktotal := hback.length_eq
    rw [List.length_append, Cut.between, Cut.between, List.length_take, List.length_take]
    omega
  rw [hmerge, if_pos ⟨hxs, hys⟩,
    ends_eq_merge horders hS hxsorted hysorted hfront hback hxs hys hbetween]

/-- **Merging from both ends** delivers the items of two sorted lists sorted. -/
theorem delivers_mergeEnds? (hS : ∀ x ∈ left ++ right, S x) (hxs : Sorts less S left xs)
    (hys : Sorts less S right ys) (hle : left.length ≤ right.length)
    (hlt : right.length ≤ left.length + 1) :
    Delivers (Orders less S) (mergeEnds? less xs ys) (Sorts less S (left ++ right)) := by
  have hitems := hxs.perm.append hys.perm
  rw [← hxs.perm.length_eq, ← hys.perm.length_eq] at hle hlt
  refine .of_perm (fun h => (perm_of_mergeEnds? h).trans hitems)
    fun horders => ⟨_, ?_, hxs.merge hS hys⟩
  exact mergeEnds?_eq_merge horders (fun x hx => hS x (hitems.mem_iff.mp hx)) (hxs.pairwise horders)
    (hys.pairwise horders) hle hlt

/-! ### Short lists -/

theorem sorts_sortHalf (fours : Bool) (hS : ∀ x ∈ items, S x) :
    Sorts less S items (sortHalf less fours items) := by
  unfold sortHalf
  split
  · next x₁ x₂ x₃ x₄ rest =>
    split
    · have hfours : Sorts less S [x₁, x₂, x₃, x₄] (sortFour less x₁ x₂ x₃ x₄) :=
        sorts_sortFour x₁ x₂ x₃ x₄ fun x hx => hS x (List.mem_append_left rest hx)
      exact sorts_insertAll hfours hS
    · exact sorts_byInsertion hS
  · exact sorts_byInsertion hS

/-- **Sorting by halves** delivers the items of a short list sorted. -/
theorem delivers_byHalves? (hS : ∀ x ∈ items, S x) :
    Delivers (Orders less S) (byHalves? less items) (Sorts less S items) := by
  unfold byHalves?
  split
  · next hshort =>
    refine .some (.of_pairwise fun _ => ?_)
    match items, hshort with
    | [], _ => exact .nil
    | [x], _ => exact List.pairwise_singleton ..
  · have hsplit : items.take (items.length / 2) ++ items.drop (items.length / 2) = items :=
      List.take_append_drop ..
    have hleft : Sorts less S (items.take (items.length / 2)) (sortHalf less _ _) :=
      sorts_sortHalf (decide (8 ≤ items.length)) fun x hx => hS x (List.mem_of_mem_take hx)
    have hright : Sorts less S (items.drop (items.length / 2)) (sortHalf less _ _) :=
      sorts_sortHalf (decide (8 ≤ items.length)) fun x hx => hS x (List.mem_of_mem_drop hx)
    have hdelivers := delivers_mergeEnds? (hsplit.symm ▸ hS) hleft hright
      (by rw [List.length_take, List.length_drop]; omega)
      (by rw [List.length_take, List.length_drop]; omega)
    rwa [hsplit] at hdelivers

end Notebook.Sorting
