import Notebook.Evaluation.Error
import Notebook.Value.Order

/-!
# Comparison operators

Equality never fails. The operators of order are false when a side is missing, and fail when the two
sides cannot be brought to a common kind: a number with a text that spells none, a date with a text
that names none, and values of unlike kinds. The error describes both sides and does not know the
expression.
-/

namespace Notebook.Evaluation

open Query (Comparison)

/-- How an error describes a value: its kind, and unless it is a list its text. -/
def describe (v : Value) : String :=
  match v with
  | .list _ => v.kindName
  | .absent => v.kindName
  | .null => v.kindName
  | _ => v.kindName ++ " " ++ v.displayText

/-- Whether a value is a number or spells one. -/
def isNumeric (v : Value) : Bool := v.isNumber || v.decimal?.isSome

/-- The failure to order two values. -/
def noOrder {α : Type} (a b : Value) : Except EvaluationError α :=
  .error (.coercion (describe a) (describe b) "")

/-- **The order of two values** in a condition. -/
def order (a b : Value) : Except EvaluationError Ordering :=
  match a, b with
  | .string s, .string t => .ok (compare s t)
  | .boolean p, .boolean q => .ok (compare p q)
  | .list _, .list _ => .ok (a.sortOrder b)
  | _, _ =>
    if a.isNumber || b.isNumber then
      if isNumeric a && isNumeric b then .ok (a.compareNumbers b) else noOrder a b
    else if a.isDate || b.isDate then
      match a.date?, b.date? with
      | some t, some u => .ok (t.order u)
      | _, _ => noOrder a b
    else noOrder a b

/-- Whether an order is one that an operator accepts. -/
def accepts (operator : Comparison) (o : Ordering) : Bool :=
  match operator with
  | .equal => o == .eq
  | .notEqual => o != .eq
  | .less => o == .lt
  | .greater => o == .gt
  | .lessEqual => o != .gt
  | .greaterEqual => o != .lt

/-- **Compares two values** with an operator. -/
def compareValues (operator : Comparison) (a b : Value) : Except EvaluationError Bool :=
  match operator with
  | .equal => .ok (a.looselyEquals b)
  | .notEqual => .ok !(a.looselyEquals b)
  | _ =>
    if a.isMissing || b.isMissing then .ok false
    else (order a b).map (accepts operator)

end Notebook.Evaluation
