import Mathlib.Data.List.Induction

/-!
# First occurrences

Items come in turn, and each one is put at the end of a list unless the list holds it already. Which
items count as one is said by a relation, for texts may be one tag although they differ in the case
of letters. What the list comes to is the first occurrences among the items
(`Notebook.firstOccurrences_foldl`): of all that count as one it has the one that came first, and
those that it has are in the order in which they came.
-/

namespace Notebook

variable {α : Type}

/-- **The first occurrences** among items, where `same` says which items count as one. -/
structure FirstOccurrences (same : α → α → Bool) (items firsts : List α) : Prop where
  /-- No two of them count as one. -/
  distinct : firsts.Pairwise fun a b => same a b = false
  /-- Each item counts as one with one of them. -/
  covers : ∀ item ∈ items, ∃ first ∈ firsts, same first item = true
  /-- Each of them is the first item that counts as one with it. -/
  isFirst : ∀ first ∈ firsts, items.find? (same first) = some first
  /-- They are in the order in which items that count as one with them first come. -/
  inOrder : firsts.Pairwise fun a b => items.findIdx (same a) < items.findIdx (same b)

namespace FirstOccurrences

variable {same : α → α → Bool} {items firsts : List α} {item first : α}

theorem nil (same : α → α → Bool) : FirstOccurrences same [] [] where
  distinct := .nil
  covers := nofun
  isFirst := nofun
  inOrder := .nil

/-- Each of them is an item. -/
theorem mem (h : FirstOccurrences same items firsts) (hfirst : first ∈ firsts) : first ∈ items :=
  List.mem_of_find?_eq_some (h.isFirst first hfirst)

theorem findIdx_lt (h : FirstOccurrences same items firsts) (hfirst : first ∈ firsts) :
    items.findIdx (same first) < items.length :=
  List.findIdx_lt_length_of_exists
    ⟨first, h.mem hfirst, List.find?_some (h.isFirst first hfirst)⟩

/-! ### One more item -/

theorem find?_append (h : FirstOccurrences same items firsts) (hfirst : first ∈ firsts) :
    (items ++ [item]).find? (same first) = some first := by
  rw [List.find?_append, h.isFirst first hfirst, Option.some_or]

theorem findIdx_append (h : FirstOccurrences same items firsts) (hfirst : first ∈ firsts) :
    (items ++ [item]).findIdx (same first) = items.findIdx (same first) := by
  rw [List.findIdx_append, if_pos (h.findIdx_lt hfirst)]

/-- One more item leaves those that were there in their order. -/
theorem inOrder_append (h : FirstOccurrences same items firsts) :
    firsts.Pairwise fun a b =>
      (items ++ [item]).findIdx (same a) < (items ++ [item]).findIdx (same b) := by
  refine h.inOrder.imp_of_mem fun {a b} ha hb hlt => ?_
  rwa [h.findIdx_append ha, h.findIdx_append hb]

/-- An item that counts as one with what is there adds nothing. -/
theorem append_of_seen (h : FirstOccurrences same items firsts)
    (hseen : ∃ first ∈ firsts, same first item = true) :
    FirstOccurrences same (items ++ [item]) firsts where
  distinct := h.distinct
  covers := List.forall_mem_append.mpr ⟨h.covers, List.forall_mem_singleton.mpr hseen⟩
  isFirst _ hfirst := h.find?_append hfirst
  inOrder := h.inOrder_append

/-- An item that counts as one with nothing that is there comes last. -/
theorem append_of_new (h : FirstOccurrences same items firsts)
    (hsame : Equivalence fun a b => same a b = true)
    (hnew : ∀ first ∈ firsts, same first item = false) :
    FirstOccurrences same (items ++ [item]) (firsts ++ [item]) := by
  -- an earlier item that counts as one with it would be covered by what is there
  have hnone : ∀ earlier ∈ items, same item earlier = false := by
    intro earlier hearlier
    obtain ⟨first, hfirst, hone⟩ := h.covers earlier hearlier
    refine Bool.eq_false_iff.mpr fun hitem => ?_
    have hagain : same first item = true := hsame.trans hone (hsame.symm hitem)
    rw [hnew first hfirst] at hagain
    cases hagain
  have hindex : (items ++ [item]).findIdx (same item) = items.length := by
    have hself : [item].findIdx (same item) = 0 := by
      rw [List.findIdx_cons, hsame.refl item, cond_true]
    rw [List.findIdx_append, List.findIdx_eq_length_of_false hnone, if_neg (Nat.lt_irrefl _),
      hself, Nat.zero_add]
  constructor
  case distinct =>
    refine List.pairwise_append.mpr ⟨h.distinct, List.pairwise_singleton .., ?_⟩
    exact fun first hfirst => List.forall_mem_singleton.mpr (hnew first hfirst)
  case covers =>
    refine List.forall_mem_append.mpr ⟨fun earlier hearlier => ?_, ?_⟩
    · obtain ⟨first, hfirst, hone⟩ := h.covers earlier hearlier
      exact ⟨first, List.mem_append_left _ hfirst, hone⟩
    · exact List.forall_mem_singleton.mpr ⟨item, List.mem_concat_self, hsame.refl item⟩
  case isFirst =>
    refine List.forall_mem_append.mpr ⟨fun first hfirst => h.find?_append hfirst, ?_⟩
    rw [List.forall_mem_singleton, List.find?_append,
      List.find?_eq_none.mpr fun earlier hearlier => by simp [hnone earlier hearlier],
      Option.none_or, List.find?_cons_of_pos (hsame.refl item)]
  case inOrder =>
    refine List.pairwise_append.mpr ⟨h.inOrder_append, List.pairwise_singleton .., ?_⟩
    refine fun first hfirst => List.forall_mem_singleton.mpr ?_
    rw [h.findIdx_append hfirst, hindex]
    exact h.findIdx_lt hfirst

end FirstOccurrences

/-! ### All items in turn -/

/-- **Items that are put in turn at the end of a list** that does not hold them come to their first
occurrences. Items that do not count at all are left out. -/
theorem firstOccurrences_foldl {same : α → α → Bool}
    (hsame : Equivalence fun a b => same a b = true) {counts : α → Bool}
    {push : List α → α → List α}
    (hpush : ∀ firsts item, push firsts item =
      if counts item && !firsts.any (same · item) then firsts ++ [item] else firsts)
    (items : List α) : FirstOccurrences same (items.filter counts) (items.foldl push []) := by
  induction items using List.reverseRecOn with
  | nil => exact .nil same
  | append_singleton items item ih =>
    rw [List.foldl_append, List.foldl_cons, List.foldl_nil, hpush, List.filter_append]
    cases hcounts : counts item with
    | false => simpa [hcounts] using ih
    | true =>
      rw [List.filter_cons_of_pos hcounts, List.filter_nil, Bool.true_and]
      cases hseen : (items.foldl push []).any (same · item) with
      | true => exact ih.append_of_seen (List.any_eq_true.mp hseen)
      | false =>
        exact ih.append_of_new hsame fun first hfirst =>
          Bool.eq_false_iff.mpr (List.any_eq_false.mp hseen first hfirst)

end Notebook
