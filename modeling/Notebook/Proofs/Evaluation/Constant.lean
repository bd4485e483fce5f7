import Notebook.Proofs.Evaluation.Checked

/-!
# Expressions without a field

An evaluation reads the environment at the fields of the expression and nowhere else
(`Notebook.Evaluation.evaluate_congr`). So an expression without a field that has a value somewhere
has this value everywhere. It is a **constant** (`Notebook.Evaluation.IsConstant`), as a literal is,
and to every candidate of a query it says the same.
-/

namespace Notebook.Evaluation

open Query (Expression FieldPath Literal)

variable {functions : Registry} {environment other : Environment} {e : Expression}

/-! ### What an evaluation reads -/

/-- Several expressions have the same values when each of them has the same value. -/
theorem evaluateAll_congr {es : List Expression}
    (h : ∀ e ∈ es, evaluate functions environment e = evaluate functions other e) :
    evaluateAll functions environment es = evaluateAll functions other es := by
  induction es with
  | nil => rfl
  | cons e es ih =>
    obtain ⟨he, hes⟩ := List.forall_mem_cons.mp h
    rw [evaluateAll, evaluateAll, he, ih hes]

/-- **Only the fields of an expression matter to its value**, also to whether it has one. -/
theorem evaluate_congr (h : ∀ path, .field path ∈ e.parts → environment path = other path) :
    evaluate functions environment e = evaluate functions other e := by
  have hparts : ∀ part ∈ e.parts, ∀ path, part = .field path → environment path = other path :=
    fun part hpart path hpath => h path (hpath ▸ hpart)
  clear h
  induction e with
  | field path =>
    rw [evaluate, evaluate, Expression.forall_parts_field.mp hparts path rfl]
  | literal value => rfl
  | call name arguments ih =>
    have harguments := (Expression.forall_parts_call.mp hparts).2
    rw [evaluate, evaluate,
      evaluateAll_congr fun argument hmem => ih argument hmem (harguments argument hmem)]
  | comparison operator left right ihleft ihright =>
    obtain ⟨-, hleft, hright⟩ := Expression.forall_parts_comparison.mp hparts
    rw [evaluate, evaluate, ihleft hleft, ihright hright]
  | logical connective left right ihleft ihright =>
    obtain ⟨-, hleft, hright⟩ := Expression.forall_parts_logical.mp hparts
    rw [evaluate, evaluate, ihleft hleft, ihright hright]
  | negation operand ih =>
    rw [evaluate, evaluate, ih (Expression.forall_parts_negation.mp hparts).2]

/-! ### Constants -/

/-- **A constant**: its calls are in order, and it has one value, whatever the fields hold. -/
structure IsConstant (functions : Registry) (e : Expression) : Prop where
  /-- Its calls are in order. -/
  calls : checkCalls functions e = .ok ()
  /-- Its value is the same in all environments. -/
  value : ∃ v, ∀ environment, evaluate functions environment e = .ok v

theorem isConstant_literal (functions : Registry) (value : Literal) :
    IsConstant functions (.literal value) where
  calls := rfl
  value := ⟨literalValue value, fun _ => rfl⟩

/-- **An expression without a field that has a value is a constant.** -/
theorem isConstant_of_fieldless (hfields : ∀ path, Expression.field path ∉ e.parts)
    (hcalls : checkCalls functions e = .ok ()) {v : Value}
    (hvalue : evaluate functions environment e = .ok v) : IsConstant functions e where
  calls := hcalls
  value := by
    refine ⟨v, fun other => ?_⟩
    rw [← hvalue]
    exact evaluate_congr fun path hpath => absurd hpath (hfields path)

/-- The values of several constants. -/
theorem exists_values_of_isConstant {α : Type} {expression : α → Expression} {items : List α}
    (h : ∀ item ∈ items, IsConstant functions (expression item)) :
    ∃ vs, ∀ environment, List.Forall₂ (fun item v =>
      evaluate functions environment (expression item) = .ok v) items vs := by
  induction items with
  | nil => exact ⟨[], fun _ => .nil⟩
  | cons item items ih =>
    obtain ⟨hitem, hitems⟩ := List.forall_mem_cons.mp h
    obtain ⟨v, hv⟩ := hitem.value
    obtain ⟨vs, hvs⟩ := ih hitems
    exact ⟨v :: vs, fun environment => .cons (hv environment) (hvs environment)⟩

/-- Checking constants after other expressions finds nothing that is not found without them. -/
theorem checkAllCalls_append {es constants : List Expression}
    (h : ∀ e ∈ constants, IsConstant functions e) :
    checkAllCalls functions (es ++ constants) = checkAllCalls functions es := by
  induction es with
  | nil => exact checkAllCalls_eq_ok_iff.mpr fun e he => (h e he).calls
  | cons e es ih => rw [List.cons_append, checkAllCalls, checkAllCalls, ih]

end Notebook.Evaluation
