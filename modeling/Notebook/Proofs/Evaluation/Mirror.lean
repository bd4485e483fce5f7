import Notebook.Proofs.Evaluation.Checked
import Notebook.Proofs.Evaluation.Trichotomy
import Notebook.Proofs.Value.Symmetry

/-!
# Comparisons turned around

What an operator says of two values, its mirror says of the values turned around: `<` and `>` are
mirrors of each other, so are `<=` and `>=`, and equality and inequality are their own. The rules of
a comparison look at the first value before the second one and are tried one after another, so this
is no matter of their wording. But each way in which two values come to be ordered is one for the
values turned around, with the opposite order (`Notebook.Evaluation.Compares.swap`), and two values
without an order have none on either side (`Notebook.Evaluation.order_swap`).

So the outcomes are the same (`Notebook.Evaluation.compareValues_mirror`): the same truth value, or
an error each, which differ only in which side is described first. Equality never fails.
-/

namespace Notebook

/-- **The mirror of an operator** says of two values turned around what the operator says of them.
-/
def Query.Comparison.mirror : Query.Comparison → Query.Comparison
  | less => greater
  | greater => less
  | lessEqual => greaterEqual
  | greaterEqual => lessEqual
  | operator => operator

namespace Evaluation

open Value
open Query (Comparison)

/-- The error with its two sides turned around. -/
def EvaluationError.mirror : EvaluationError → EvaluationError
  | coercion left right expression => coercion right left expression
  | e => e

variable {a b : Value} {o : Ordering}

/-! ### The order of two values -/

/-- **Each way to order two values** orders the values turned around, the other way. -/
theorem Compares.swap (h : Compares a b o) : Compares b a o.swap := by
  rcases h with ⟨s, t⟩ | ⟨p, q⟩ | ⟨xs, ys⟩ | ⟨hnumber, ha, hb⟩ | ⟨hdate, ht, hu⟩
  · rw [← Std.OrientedCmp.eq_swap]
    exact .texts t s
  · rw [← Std.OrientedCmp.eq_swap]
    exact .booleans q p
  · have hswap : listOrder ys xs = (listOrder xs ys).swap :=
      listOrder_swap (fun x _ y => sortOrder_swap x y) ys
    rw [← hswap]
    exact .lists ys xs
  · rw [← compareNumbers_swap]
    exact .numbers hnumber.symm hb ha
  · rw [← (ranks_instantOrder fun _ => True).swap trivial trivial]
    exact .dates hdate.symm hu ht

/-- A condition orders two values in each of these ways. -/
theorem order_of_compares (h : Compares a b o) : order a b = .ok o := by
  rcases h with ⟨s, t⟩ | ⟨p, q⟩ | ⟨xs, ys⟩ | ⟨hnumber, ha, hb⟩ | ⟨hdate, ht, hu⟩
  · rfl
  · rfl
  · rfl
  · cases a <;> cases b <;> simp_all [order, isNumber]
  · cases a <;> cases b <;> simp_all [order, isNumber, isDate, date?]

/-- **Turned around, two values have the opposite order**, or again none. -/
theorem order_swap (a b : Value) :
    order b a = ((order a b).map Ordering.swap).mapError EvaluationError.mirror := by
  rcases horder : order a b with e | o
  · obtain rfl := error_of_order horder
    rcases hturned : order b a with e' | o'
    · obtain rfl := error_of_order hturned
      rfl
    · -- an order of the values turned around would be one of the values
      have hback := (compares_of_order hturned).swap
      exact nomatch horder.symm.trans (order_of_compares hback)
  · exact order_of_compares (compares_of_order horder).swap

/-! ### Operators -/

/-- A mirrored operator accepts the opposite orders. -/
theorem accepts_mirror (operator : Comparison) (o : Ordering) :
    accepts operator.mirror o.swap = accepts operator o := by
  cases operator <;> cases o <;> rfl

/-- The operators of order and their mirrors have the same outcome on two values, missing or not. -/
theorem compareValues_mirror_of_order {operator : Comparison} (hequal : operator ≠ .equal)
    (hnotEqual : operator ≠ .notEqual) (a b : Value) :
    compareValues operator.mirror b a =
      (compareValues operator a b).mapError EvaluationError.mirror := by
  have hrule : ∀ (operator : Comparison) (a b : Value), operator ≠ .equal → operator ≠ .notEqual →
      compareValues operator a b = if a.isMissing || b.isMissing then .ok false
        else (order a b).map (accepts operator) := by
    intro operator a b hequal hnotEqual
    cases operator <;> first | contradiction | rfl
  have hmirror : operator.mirror ≠ .equal ∧ operator.mirror ≠ .notEqual := by
    cases operator <;> first | contradiction | exact ⟨nofun, nofun⟩
  rw [hrule _ b a hmirror.1 hmirror.2, hrule _ a b hequal hnotEqual, Bool.or_comm]
  split
  · rfl
  · rw [order_swap]
    rcases order a b with e | o
    · rfl
    · exact congrArg Except.ok (accepts_mirror operator o)

/-- **A comparison turned around**: an operator on two values and its mirror on the values turned
around give the same truth value, or an error each with the sides turned around as well. Equality
and inequality are the same on both sides, never fail, and are the contrary of each other. -/
theorem compareValues_mirror (a b : Value) :
    (∀ operator : Comparison, compareValues operator.mirror b a =
        (compareValues operator a b).mapError EvaluationError.mirror) ∧
      ∃ equal : Bool, compareValues .equal a b = .ok equal ∧ compareValues .equal b a = .ok equal ∧
        compareValues .notEqual a b = .ok !equal ∧ compareValues .notEqual b a = .ok !equal := by
  have hequal : compareValues .equal b a = .ok (a.looselyEquals b) :=
    congrArg Except.ok (looselyEquals_comm b a)
  have hnotEqual : compareValues .notEqual b a = .ok !(a.looselyEquals b) :=
    congrArg (Except.ok !·) (looselyEquals_comm b a)
  refine ⟨fun operator => ?_, a.looselyEquals b, rfl, hequal, rfl, hnotEqual⟩
  by_cases h : operator = .equal
  · subst h
    exact hequal
  by_cases h' : operator = .notEqual
  · subst h'
    exact hnotEqual
  exact compareValues_mirror_of_order h h' a b

-- Not-a-number is neither before nor after a number on either side, and the operators do not fail.
example : compareValues .less (.real .nan) (.integer 1) = .ok false ∧
    compareValues .greater (.integer 1) (.real .nan) = .ok false := by decide +kernel

end Evaluation

end Notebook
