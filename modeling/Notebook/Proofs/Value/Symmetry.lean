import Notebook.Proofs.Value.Agreement

/-!
# Two values turned around

The equality of queries and the order of sorting go through the kinds of two values in one order,
and some of their rules look at the first value before the second one. It does not show: two values
turned around are equal when they were (`Notebook.Value.looselyEquals_comm`), and have the opposite
order (`Notebook.Value.sortOrder_swap`).

Unlike transitivity, this holds of all values. Not-a-number counts as equal to every number in the
order, on whichever side it is, and is equal to none in a query.
-/

namespace Notebook

namespace Number.Binary64

/-- Turned around, two numbers have the opposite order, or again none. -/
theorem compare?_swap (x y : Binary64) : y.compare? x = (x.compare? y).map Ordering.swap := by
  match x, y with
  | nan, nan | nan, infinite _ | nan, finite _ | infinite _, nan | finite _, nan => rfl
  | infinite s, infinite t => cases s <;> cases t <;> rfl
  | infinite s, finite _ => cases s <;> rfl
  | finite _, infinite t => cases t <;> rfl
  | finite x, finite y =>
    exact congrArg some (Std.OrientedCmp.eq_swap : compare y.units x.units = _)

theorem equals_comm (x y : Binary64) : x.equals y = y.equals x := by
  rw [equals, equals, compare?_swap x y]
  rcases x.compare? y with _ | _ | _ | _ <;> rfl

end Number.Binary64

namespace Value

open Number

/-! ### Numbers and dates -/

/-- **Two numbers turned around** have the opposite order. Without a view that both have, they count
as equal on both sides. -/
theorem compareNumbers_swap (a b : Value) : b.compareNumbers a = (a.compareNumbers b).swap := by
  unfold compareNumbers
  rcases a.decimal? with _ | x <;> rcases b.decimal? with _ | y
  case some.some => exact (Std.OrientedCmp.eq_swap : compare y.units x.units = _)
  all_goals
    rcases a.binary? with _ | x <;> rcases b.binary? with _ | y
    case some.some =>
      dsimp only
      rw [Binary64.compare?_swap x y]
      rcases x.compare? y with _ | o <;> rfl
    all_goals rfl

theorem numbersEqual_comm (a b : Value) : a.numbersEqual b = b.numbersEqual a := by
  unfold numbersEqual
  rcases a.decimal? with _ | x <;> rcases b.decimal? with _ | y
  case some.some => exact BEq.comm
  all_goals
    rcases a.binary? with _ | x <;> rcases b.binary? with _ | y
    case some.some => exact Binary64.equals_comm x y
    all_goals rfl

theorem datesEqual_comm (a b : Value) : a.datesEqual b = b.datesEqual a := by
  unfold datesEqual
  rcases a.date? with _ | t <;> rcases b.date? with _ | u
  case some.some => exact BEq.comm
  all_goals rfl

/-! ### The order of sorting -/

/-- Lists turned around have the opposite order when their items do. -/
theorem listOrder_swap {xs : List Value}
    (h : ∀ x ∈ xs, ∀ y : Value, y.sortOrder x = (x.sortOrder y).swap) (ys : List Value) :
    listOrder ys xs = (listOrder xs ys).swap := by
  induction xs generalizing ys with
  | nil => cases ys <;> rfl
  | cons x xs ih =>
    obtain ⟨hx, hxs⟩ := List.forall_mem_cons.mp h
    rcases ys with _ | ⟨y, ys⟩
    · rfl
    · rw [listOrder, listOrder, hx y, ih hxs ys, Ordering.swap_then]

/-- Two values turned around have the opposite order as soon as what is in the first one, if it is a
list, has with everything. -/
theorem sortOrder_swap_of_items (a b : Value)
    (h : ∀ xs, a = list xs → ∀ x ∈ xs, ∀ y : Value, y.sortOrder x = (x.sortOrder y).swap) :
    b.sortOrder a = (a.sortOrder b).swap := by
  by_cases hrank : a.rank = b.rank
  · -- of one kind: the rule of the kind decides
    cases a with
    | absent | null => cases b <;> rfl
    | boolean p =>
      cases b <;> cases hrank
      exact (Std.OrientedCmp.eq_swap : compare _ p = _)
    | integer n | real x =>
      have hb := isNumber_iff.mpr hrank.symm
      rw [sortOrder_of_numbers hb rfl, sortOrder_of_numbers rfl hb, compareNumbers_swap]
    | string s =>
      cases b <;> cases hrank
      exact (Std.OrientedCmp.eq_swap : compare _ s = _)
    | date t =>
      cases b <;> cases hrank
      exact (ranks_instantOrder fun _ => True).swap trivial trivial
    | list xs =>
      cases b <;> cases hrank
      exact listOrder_swap (h xs rfl) _
  · rw [sortOrder_of_rank_ne hrank, sortOrder_of_rank_ne (Ne.symm hrank)]
    exact Std.OrientedCmp.eq_swap

/-- **Two values turned around have the opposite order**, also with not-a-number in them. -/
theorem sortOrder_swap (a b : Value) : b.sortOrder a = (a.sortOrder b).swap := by
  induction a using inductionOn generalizing b with
  | list xs ih =>
    refine sortOrder_swap_of_items _ b fun ys hys => ?_
    obtain rfl := list.inj hys
    exact ih
  | _ => exact sortOrder_swap_of_items _ b nofun

/-- **No value comes before itself**, also none with not-a-number in it. -/
theorem sortOrder_self (a : Value) : a.sortOrder a = .eq := by
  have hswap := sortOrder_swap a a
  cases horder : a.sortOrder a with
  | eq => rfl
  | lt | gt =>
    rw [horder] at hswap
    cases hswap

/-! ### Equality -/

/-- Lists turned around are equal when they were, if this holds of their items. -/
theorem allLooselyEqual_comm {xs : List Value}
    (h : ∀ x ∈ xs, ∀ y : Value, x.looselyEquals y = y.looselyEquals x) (ys : List Value) :
    allLooselyEqual xs ys = allLooselyEqual ys xs := by
  induction xs generalizing ys with
  | nil => cases ys <;> rfl
  | cons x xs ih =>
    obtain ⟨hx, hxs⟩ := List.forall_mem_cons.mp h
    rcases ys with _ | ⟨y, ys⟩
    · rfl
    · rw [allLooselyEqual, allLooselyEqual, hx y, ih hxs ys]

/-- Next to a number, equality is that of numbers. -/
theorem looselyEquals_of_isNumber {a b : Value} (h : a.isNumber = true ∨ b.isNumber = true) :
    a.looselyEquals b = a.numbersEqual b := by
  -- what has no view as a number equals no number, and neither rule finds one in it
  cases a <;> cases b <;> simp_all [looselyEquals, isNumber, numbersEqual, decimal?, binary?]

/-- Next to a date, equality is that of dates, unless the other value is a number. -/
theorem looselyEquals_of_isDate {a b : Value} (h : a.isDate = true ∨ b.isDate = true)
    (hnumber : ¬(a.isNumber = true ∨ b.isNumber = true)) :
    a.looselyEquals b = a.datesEqual b := by
  cases a <;> cases b <;> simp_all [looselyEquals, isNumber, isDate, datesEqual, date?]

/-- Two values turned around are equal when they were, as soon as this holds of what is in the first
one, if it is a list. -/
theorem looselyEquals_comm_of_items (a b : Value)
    (h : ∀ xs, a = list xs → ∀ x ∈ xs, ∀ y : Value, x.looselyEquals y = y.looselyEquals x) :
    a.looselyEquals b = b.looselyEquals a := by
  by_cases hnumber : a.isNumber = true ∨ b.isNumber = true
  · rw [looselyEquals_of_isNumber hnumber, looselyEquals_of_isNumber hnumber.symm,
      numbersEqual_comm]
  by_cases hdate : a.isDate = true ∨ b.isDate = true
  · rw [looselyEquals_of_isDate hdate hnumber,
      looselyEquals_of_isDate hdate.symm (mt Or.symm hnumber), datesEqual_comm]
  cases a with
  | integer | real => exact absurd (.inl rfl) hnumber
  | date => exact absurd (.inl rfl) hdate
  | list xs =>
    cases b with
    | list ys => exact allLooselyEqual_comm (h xs rfl) ys
    | _ => simp_all [looselyEquals, isNumber, isDate]
  | _ => cases b <;> simp_all [looselyEquals, isNumber, isDate, BEq.comm]

/-- **Two values turned around are equal in a query when they were.** -/
theorem looselyEquals_comm (a b : Value) : a.looselyEquals b = b.looselyEquals a := by
  induction a using inductionOn generalizing b with
  | list xs ih =>
    refine looselyEquals_comm_of_items _ b fun ys hys => ?_
    obtain rfl := list.inj hys
    exact ih
  | _ => exact looselyEquals_comm_of_items _ b nofun

end Value

end Notebook
