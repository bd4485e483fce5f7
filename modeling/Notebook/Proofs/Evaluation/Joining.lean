import Notebook.Evaluation.Basic
import Notebook.Evaluation.Builtin

/-!
# Conditions that a connective joins

A connective asks its left side first, and its right side only when the left one leaves the decision
open; what fails on the way is the outcome of the whole. Still it does not matter how several
conditions are put in brackets: a connective is associative on outcomes, failures among them
(`Notebook.Evaluation.join_assoc`), so that an expression that joins conditions in any way holds
exactly when they hold in turn (`Notebook.Evaluation.Joins.holds_eq`).

Nor does a negation in front of two conditions that are joined: it can be moved to the conditions if
the connective is changed for its dual (`Notebook.Evaluation.map_not_join`), as the dual leaves a
decision open for the contrary of what leaves it open before. Together these are
`Notebook.Evaluation.evaluate_joins`.
-/

namespace Notebook

/-- **The dual of a connective** joins the contraries of conditions to the contrary of what the
connective joins them to. -/
def Query.Connective.dual : Query.Connective → Query.Connective
  | conjunction => disjunction
  | disjunction => conjunction

namespace Evaluation

open Query (Connective Expression)

/-! ### Outcomes -/

/-- **The outcome of two conditions** that a connective joins, by their own outcomes. -/
def join (connective : Connective) (left right : Except Stop Bool) : Except Stop Bool := do
  let a ← left
  if defers connective a then right else return a

/-- What a connective says of no conditions at all. -/
def neutral : Connective → Bool
  | .conjunction => true
  | .disjunction => false

section Outcomes

variable {connective : Connective} {a : Bool}

theorem join_of_defers (h : defers connective a = true) (y : Except Stop Bool) :
    join connective (.ok a) y = y := if_pos h

theorem join_of_not_defers (h : defers connective a = false) (y : Except Stop Bool) :
    join connective (.ok a) y = .ok a := if_neg (Bool.eq_false_iff.mp h)

/-- **A connective is associative**, also where a condition fails. -/
theorem join_assoc (connective : Connective) (x y z : Except Stop Bool) :
    join connective (join connective x y) z = join connective x (join connective y z) := by
  rcases x with stop | a
  · rfl
  · cases h : defers connective a with
    | true => rw [join_of_defers h, join_of_defers h]
    | false => rw [join_of_not_defers h, join_of_not_defers h, join_of_not_defers h]

theorem neutral_join (connective : Connective) (y : Except Stop Bool) :
    join connective (.ok (neutral connective)) y = y := by
  cases connective <;> rfl

theorem join_neutral (connective : Connective) (x : Except Stop Bool) :
    join connective x (.ok (neutral connective)) = x := by
  rcases x with stop | a
  · rfl
  · cases connective <;> cases a <;> rfl

/-- **The contrary of two conditions that are joined** joins their contraries by the dual. -/
theorem map_not_join (connective : Connective) (x y : Except Stop Bool) :
    (join connective x y).map not = join connective.dual (x.map not) (y.map not) := by
  rcases x with stop | a
  · rfl
  · cases connective <;> cases a <;> rfl

end Outcomes

/-! ### Expressions -/

variable (functions : Registry) (environment : Environment)

theorem evaluate_logical (connective : Connective) (left right : Expression) :
    evaluate functions environment (.logical connective left right) =
      (join connective (holds functions environment left)
        (holds functions environment right)).map .boolean := by
  rw [evaluate, holds, holds]
  rcases evaluate functions environment left with stop | v
  · rfl
  · change (if defers connective v.isTruthy then _ else _) =
      (join connective (.ok v.isTruthy) _).map _
    cases h : defers connective v.isTruthy with
    | false => rw [join_of_not_defers h]; rfl
    | true =>
      rw [join_of_defers h]
      rcases evaluate functions environment right with stop | w <;> rfl

theorem evaluate_negation (operand : Expression) :
    evaluate functions environment (.negation operand) =
      ((holds functions environment operand).map not).map .boolean := by
  rw [evaluate, holds]
  rcases evaluate functions environment operand with stop | v <;> rfl

theorem holds_of_evaluate_eq_map {e : Expression} {x : Except Stop Bool}
    (h : evaluate functions environment e = x.map .boolean) :
    holds functions environment e = x := by
  rw [holds, h]
  rcases x with stop | a <;> rfl

/-- **Whether conditions hold in turn**: they are asked from the left, until one of them decides or
fails. -/
def holdsInTurn (connective : Connective) (es : List Expression) : Except Stop Bool :=
  es.foldr (fun e rest => join connective (holds functions environment e) rest)
    (.ok (neutral connective))

theorem holdsInTurn_append (connective : Connective) (es fs : List Expression) :
    holdsInTurn functions environment connective (es ++ fs) =
      join connective (holdsInTurn functions environment connective es)
        (holdsInTurn functions environment connective fs) := by
  induction es with
  | nil => exact (neutral_join connective _).symm
  | cons e es ih =>
    calc holdsInTurn functions environment connective (e :: es ++ fs)
        = join connective (holds functions environment e)
            (holdsInTurn functions environment connective (es ++ fs)) := rfl
      _ = join connective (holds functions environment e)
            (join connective (holdsInTurn functions environment connective es)
              (holdsInTurn functions environment connective fs)) := by rw [ih]
      _ = join connective (holdsInTurn functions environment connective (e :: es))
            (holdsInTurn functions environment connective fs) := (join_assoc ..).symm

/-- That an expression **joins conditions** by a connective, in their order and in one of the ways
to put them in brackets. -/
inductive Joins (connective : Connective) : List Expression → Expression → Prop
  /-- A condition alone. -/
  | alone (e : Expression) : Joins connective [e] e
  /-- Conditions that are joined, and more of them that are joined, on the two sides. -/
  | both {es fs : List Expression} {left right : Expression} : Joins connective es left →
      Joins connective fs right → Joins connective (es ++ fs) (.logical connective left right)

namespace Joins

variable {functions environment} {connective : Connective} {es : List Expression} {e : Expression}

/-- **Conditions that are joined hold in turn**, whatever the brackets. -/
theorem holds_eq (h : Joins connective es e) :
    holds functions environment e = holdsInTurn functions environment connective es := by
  induction h with
  | alone e => exact (join_neutral connective _).symm
  | both _ _ hleft hright =>
    rw [holdsInTurn_append, ← hleft, ← hright]
    exact holds_of_evaluate_eq_map _ _ (evaluate_logical ..)

/-- Of two conditions or more the value is a truth value, and not that of a condition. -/
theorem evaluate_eq (h : Joins connective es e) (hes : 2 ≤ es.length) :
    evaluate functions environment e =
      (holdsInTurn functions environment connective es).map .boolean := by
  cases h with
  | alone e => exact absurd hes (Nat.not_succ_le_self 1)
  | both hleft hright =>
    rw [evaluate_logical, hleft.holds_eq, hright.holds_eq, holdsInTurn_append]

end Joins

/-- **Brackets do not matter** among conditions that one connective joins: all ways to put two
conditions or more in brackets have the same value or the same failure, the one that the conditions
have in turn. And a negation of two conditions that are joined can be moved to them, which changes
the connective. -/
theorem evaluate_joins (functions : Registry) (environment : Environment) :
    (∀ connective es e other, 2 ≤ es.length → Joins connective es e → Joins connective es other →
      evaluate functions environment e = evaluate functions environment other ∧
        evaluate functions environment e =
          (holdsInTurn functions environment connective es).map .boolean) ∧
    ∀ left right,
      evaluate functions environment (.negation (.logical .conjunction left right)) =
          evaluate functions environment
            (.logical .disjunction (.negation left) (.negation right)) ∧
        evaluate functions environment (.negation (.logical .disjunction left right)) =
          evaluate functions environment
            (.logical .conjunction (.negation left) (.negation right)) := by
  have hdual : ∀ connective left right,
      evaluate functions environment (.negation (.logical connective left right)) =
        evaluate functions environment
          (.logical connective.dual (.negation left) (.negation right)) := by
    intro connective left right
    have hjoined := holds_of_evaluate_eq_map _ _
      (evaluate_logical functions environment connective left right)
    have hleft := holds_of_evaluate_eq_map _ _ (evaluate_negation functions environment left)
    have hright := holds_of_evaluate_eq_map _ _ (evaluate_negation functions environment right)
    rw [evaluate_negation, hjoined, map_not_join, evaluate_logical, hleft, hright]
  refine ⟨fun connective es e other hes he hother => ⟨?_, he.evaluate_eq hes⟩, fun left right => ?_⟩
  · rw [he.evaluate_eq hes, hother.evaluate_eq hes]
  · exact ⟨hdual .conjunction left right, hdual .disjunction left right⟩

/-- Of three conditions the second one fails, and the third one would decide. -/
theorem evaluate_joins_of_failing :
    let environment : Environment := fun _ => .integer 1
    let given : Expression := .field ⟨["open"]⟩
    let fails : Expression := .call "lower" [given]
    let decides : Expression := .literal (.boolean false)
    let left : Expression := .logical .conjunction (.logical .conjunction given fails) decides
    let right : Expression := .logical .conjunction given (.logical .conjunction fails decides)
    2 ≤ [given, fails, decides].length ∧ Joins .conjunction [given, fails, decides] left ∧
      Joins .conjunction [given, fails, decides] right ∧
      evaluate builtins environment left = evaluate builtins environment right ∧
      evaluate builtins environment left = .error (.error
        (.type "lower() expects a string, got integer" "lower(open)")) := by
  intro environment given fails decides left right
  have hleft : Joins .conjunction [given, fails, decides] left :=
    .both (.both (.alone given) (.alone fails)) (.alone decides)
  have hright : Joins .conjunction [given, fails, decides] right :=
    .both (.alone given) (.both (.alone fails) (.alone decides))
  have hsame := (evaluate_joins builtins environment).1 _ _ _ _ (by decide) hleft hright
  exact ⟨by decide, hleft, hright, hsame.1, rfl⟩

end Evaluation

end Notebook
