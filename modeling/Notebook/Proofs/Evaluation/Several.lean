import Mathlib.Data.List.Forall2
import Notebook.Evaluation.Basic

/-!
# Evaluating several expressions

The arguments of a call, the columns and the sort keys of a query are lists of expressions that are
evaluated in turn. There are values when each expression has one
(`Notebook.Evaluation.evaluateAll_eq_ok_iff`), and otherwise the first expression without a value
stops the evaluation (`Notebook.Evaluation.evaluateAll_eq_error_iff`).
-/

namespace Notebook.Evaluation

open Query (Expression)

variable {functions : Registry} {environment : Environment}

/-- Two steps succeed when the first one does and the second one does with what the first gave. -/
theorem bind_eq_ok_iff {ε α β : Type} {x : Except ε α} {f : α → Except ε β} {b : β} :
    x >>= f = .ok b ↔ ∃ a, x = .ok a ∧ f a = .ok b := by
  cases x <;> simp [bind, Except.bind]

/-- Two steps fail when the first one does, or the second one with what the first gave. -/
theorem bind_eq_error_iff {ε α β : Type} {x : Except ε α} {f : α → Except ε β} {e : ε} :
    x >>= f = .error e ↔ x = .error e ∨ ∃ a, x = .ok a ∧ f a = .error e := by
  cases x <;> simp [bind, Except.bind]

theorem map_eq_error_iff {ε α β : Type} {x : Except ε α} {f : α → β} {e : ε} :
    x.map f = .error e ↔ x = .error e := by
  cases x <;> simp [Except.map]

theorem mapError_eq_ok_iff {ε ε' α : Type} {x : Except ε α} {f : ε → ε'} {a : α} :
    x.mapError f = .ok a ↔ x = .ok a := by
  cases x <;> simp [Except.mapError]

theorem mapError_eq_error_iff {ε ε' α : Type} {x : Except ε α} {f : ε → ε'} {e' : ε'} :
    x.mapError f = .error e' ↔ ∃ e, x = .error e ∧ f e = e' := by
  cases x <;> simp [Except.mapError]

/-- **There are values when each expression has one.** -/
theorem evaluateAll_eq_ok_iff {es : List Expression} {vs : List Value} :
    evaluateAll functions environment es = .ok vs ↔
      List.Forall₂ (fun e v => evaluate functions environment e = .ok v) es vs := by
  induction es generalizing vs with
  | nil => cases vs <;> simp [evaluateAll]
  | cons e es ih =>
    simp only [evaluateAll, bind_eq_ok_iff, pure, Except.pure, Except.ok.injEq, ih,
      List.forall₂_cons_left_iff]
    constructor
    · rintro ⟨v, hv, vs, hvs, rfl⟩
      exact ⟨v, vs, hv, hvs, rfl⟩
    · rintro ⟨v, vs, hv, hvs, rfl⟩
      exact ⟨v, hv, vs, hvs, rfl⟩

/-- The expressions of several things, such as columns. -/
theorem evaluateAll_map_eq_ok_iff {α : Type} {expression : α → Expression} {items : List α}
    {vs : List Value} : evaluateAll functions environment (items.map expression) = .ok vs ↔
      List.Forall₂ (fun item v => evaluate functions environment (expression item) = .ok v)
        items vs := by
  rw [evaluateAll_eq_ok_iff, List.forall₂_map_left_iff]

/-- **The first expression without a value stops the evaluation.** -/
theorem evaluateAll_eq_error_iff {es : List Expression} {stop : Stop} :
    evaluateAll functions environment es = .error stop ↔
      ∃ before e after, es = before ++ e :: after ∧
        (∀ b ∈ before, ∃ v, evaluate functions environment b = .ok v) ∧
        evaluate functions environment e = .error stop := by
  induction es with
  | nil => simp [evaluateAll]
  | cons e es ih =>
    rw [evaluateAll]
    cases he : evaluate functions environment e with
    | error stop' =>
      simp only [bind, Except.bind, Except.error.injEq]
      constructor
      · rintro rfl
        exact ⟨[], e, es, rfl, by simp, he⟩
      · rintro ⟨before, e', after, heq, hbefore, he'⟩
        cases before with
        | nil =>
          obtain ⟨rfl, rfl⟩ := List.cons.inj heq
          exact Except.error.inj (he.symm.trans he')
        | cons b before =>
          obtain ⟨rfl, -⟩ := List.cons.inj heq
          obtain ⟨v, hv⟩ := hbefore _ (List.mem_cons_self ..)
          cases he.symm.trans hv
    | ok v =>
      have hrest : (do let vs ← evaluateAll functions environment es; pure (v :: vs)) =
          .error stop ↔ evaluateAll functions environment es = .error stop := by
        cases evaluateAll functions environment es <;> simp [bind, Except.bind, pure, Except.pure]
      refine hrest.trans (ih.trans ⟨?_, ?_⟩)
      · rintro ⟨before, e', after, rfl, hbefore, he'⟩
        exact ⟨e :: before, e', after, rfl, List.forall_mem_cons.mpr ⟨⟨v, he⟩, hbefore⟩, he'⟩
      · rintro ⟨before, e', after, heq, hbefore, he'⟩
        cases before with
        | nil =>
          obtain ⟨rfl, rfl⟩ := List.cons.inj heq
          cases he.symm.trans he'
        | cons b before =>
          obtain ⟨rfl, rfl⟩ := List.cons.inj heq
          exact ⟨before, e', after, rfl, (List.forall_mem_cons.mp hbefore).2, he'⟩

end Notebook.Evaluation
