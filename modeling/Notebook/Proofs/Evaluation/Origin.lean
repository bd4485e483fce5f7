import Notebook.Proofs.Evaluation.Checked

/-!
# Where an error comes from

An evaluation fails where it began to: at a call or a comparison whose own sides have values, but
which cannot do anything with them, or at a call that names no function or gives it a wrong count of
arguments (`Notebook.Evaluation.FailsItself`). From there the failure is handed up unchanged,
through arguments, sides of comparisons, connectives and negations, whatever these are; that is an
induction on the expression (`Notebook.Evaluation.exists_part_failsItself`), and it holds for the
functions of any host.

The part that fails by itself writes its own text into the error, unless there is a text already. A
built-in function leaves it out, so with these the text in the error is always the one of the
innermost part that failed (`Notebook.Evaluation.evaluate_builtins_eq_error`).
-/

namespace Notebook.Evaluation

open Query (Expression Comparison)

/-! ### The text in an error -/

/-- The text of the expression that an error blames; empty when it blames none. -/
def EvaluationError.expression : EvaluationError → String
  | unknownFunction _ expression => expression
  | arity _ _ _ expression => expression
  | type _ expression => expression
  | coercion _ _ expression => expression

/-- **An error keeps the first text that it is given.** -/
theorem EvaluationError.expression_within (text : String) (e : EvaluationError) :
    (e.within text).expression = if e.expression = "" then text else e.expression := by
  rcases e with ⟨name, s⟩ | ⟨name, m, n, s⟩ | ⟨message, s⟩ | ⟨left, right, s⟩ <;> rfl

theorem expression_of_resolve {functions : Registry} {text name : String} {count : Nat}
    {e : EvaluationError} (h : resolve functions text name count = .error e) :
    e.expression = text := by
  unfold resolve at h
  split at h
  · obtain rfl := Except.error.inj h
    rfl
  · split at h
    · exact nomatch h
    · obtain rfl := Except.error.inj h
      rfl

theorem located_eq_error_iff {α : Type} {text : String} {x : Except Stop α} {stop : Stop} :
    located text x = .error stop ↔ ∃ inner, x = .error inner ∧ inner.within text = stop := by
  cases x <;> simp [located]

/-! ### Failing by itself -/

section

variable (functions : Registry) (environment : Environment)

/-- An expression that **fails by itself**, although everything that was evaluated in it before has
a value. -/
inductive FailsItself : Expression → Stop → Prop
  /-- A call that names no function, or gives it a wrong count of arguments. -/
  | unresolved {name : String} {arguments : List Expression} {e : EvaluationError}
    (h : resolve functions (Expression.call name arguments).text name arguments.length = .error e) :
    FailsItself (.call name arguments) (.error e)
  /-- A call whose function fails on the values of the arguments. -/
  | call {name : String} {arguments : List Expression} {f : Function} {values : List Value}
    {inner : Stop}
    (hf : resolve functions (Expression.call name arguments).text name arguments.length = .ok f)
    (hvalues : evaluateAll functions environment arguments = .ok values)
    (h : f.call values = .error inner) :
    FailsItself (.call name arguments) (inner.within (Expression.call name arguments).text)
  /-- A comparison of two values that have no order. -/
  | comparison {operator : Comparison} {left right : Expression} {a b : Value} {e : EvaluationError}
    (ha : evaluate functions environment left = .ok a)
    (hb : evaluate functions environment right = .ok b)
    (h : compareValues operator a b = .error e) :
    FailsItself (.comparison operator left right)
      (.error (e.within (Expression.comparison operator left right).text))

end

variable {functions : Registry} {environment : Environment} {e part : Expression} {stop : Stop}

/-- What fails by itself fails. -/
theorem FailsItself.evaluate_eq (h : FailsItself functions environment part stop) :
    evaluate functions environment part = .error stop := by
  rcases h with h | ⟨hf, hvalues, h⟩ | ⟨ha, hb, h⟩
  · rw [evaluate, h]
    rfl
  · rw [evaluate, hf, hvalues]
    exact located_eq_error_iff.mpr ⟨_, h, rfl⟩
  · simp only [evaluate, ha, hb, bind, Except.bind, h]
    rfl

/-- **A failure comes from a part that fails by itself**, and reaches the whole expression as it is.
-/
theorem exists_part_failsItself (h : evaluate functions environment e = .error stop) :
    ∃ part ∈ e.parts, FailsItself functions environment part stop := by
  induction e with
  | field path => cases h
  | literal value => cases h
  | call name arguments ih =>
    rw [evaluate] at h
    rcases bind_eq_error_iff.mp h with h | ⟨f, hf, h⟩
    · obtain ⟨error, herror, rfl⟩ := mapError_eq_error_iff.mp h
      exact ⟨_, List.mem_cons_self .., .unresolved herror⟩
    rcases bind_eq_error_iff.mp h with h | ⟨values, hvalues, h⟩
    · -- the failure of an argument, which the call hands up
      obtain ⟨before, argument, after, rfl, -, hargument⟩ := evaluateAll_eq_error_iff.mp h
      obtain ⟨part, hpart, hfails⟩ := ih argument (by simp) hargument
      refine ⟨part, List.mem_cons_of_mem _ ?_, hfails⟩
      rw [Expression.partsOfAll_eq_flatMap]
      exact List.mem_flatMap.mpr ⟨argument, by simp, hpart⟩
    · obtain ⟨inner, hinner, rfl⟩ := located_eq_error_iff.mp h
      exact ⟨_, List.mem_cons_self .., .call (mapError_eq_ok_iff.mp hf) hvalues hinner⟩
  | comparison operator left right ihleft ihright =>
    rw [evaluate] at h
    rcases bind_eq_error_iff.mp h with h | ⟨a, ha, h⟩
    · obtain ⟨part, hpart, hfails⟩ := ihleft h
      exact ⟨part, List.mem_cons_of_mem _ (List.mem_append_left _ hpart), hfails⟩
    rcases bind_eq_error_iff.mp h with h | ⟨b, hb, h⟩
    · obtain ⟨part, hpart, hfails⟩ := ihright h
      exact ⟨part, List.mem_cons_of_mem _ (List.mem_append_right _ hpart), hfails⟩
    rcases bind_eq_error_iff.mp h with h | ⟨holds, -, h⟩
    · obtain ⟨inner, hinner, rfl⟩ := located_eq_error_iff.mp h
      obtain ⟨error, herror, rfl⟩ := mapError_eq_error_iff.mp hinner
      exact ⟨_, List.mem_cons_self .., .comparison ha hb herror⟩
    · cases h
  | logical connective left right ihleft ihright =>
    rw [evaluate] at h
    rcases bind_eq_error_iff.mp h with h | ⟨a, ha, h⟩
    · obtain ⟨part, hpart, hfails⟩ := ihleft h
      exact ⟨part, List.mem_cons_of_mem _ (List.mem_append_left _ hpart), hfails⟩
    dsimp only at h
    split at h
    · rcases bind_eq_error_iff.mp h with h | ⟨b, -, h⟩
      · obtain ⟨part, hpart, hfails⟩ := ihright h
        exact ⟨part, List.mem_cons_of_mem _ (List.mem_append_right _ hpart), hfails⟩
      · cases h
    · cases h
  | negation operand ih =>
    rw [evaluate] at h
    rcases bind_eq_error_iff.mp h with h | ⟨a, -, h⟩
    · obtain ⟨part, hpart, hfails⟩ := ih h
      exact ⟨part, List.mem_cons_of_mem _ hpart, hfails⟩
    · cases h

/-! ### Who is blamed -/

/-- A call of a function that fails only on kinds blames no expression, whatever it is given. -/
theorem blank_of_call {f : Function} (hf : ∀ arguments, FailsOnKinds (f.body arguments))
    {values : List Value} (h : f.call values = .error stop) :
    ∃ error, stop = .error error ∧ error.expression = "" := by
  unfold Function.call at h
  split at h
  · obtain ⟨message, rfl⟩ := hf _ _ h
    exact ⟨_, rfl, rfl⟩
  · exact ⟨_, (Except.error.inj h).symm, rfl⟩

/-- **What fails by itself is blamed** when functions leave it to their calls to say where. -/
theorem FailsItself.blamed (hfunctions : functions.FailsOnKinds)
    (h : FailsItself functions environment part stop) :
    ∃ error, stop = .error error ∧ error.expression = part.text := by
  rcases h with h | ⟨hf, -, h⟩ | ⟨-, -, h⟩
  · exact ⟨_, rfl, expression_of_resolve h⟩
  · obtain ⟨entry, hentry, rfl⟩ := Registry.exists_entry (resolve_eq_ok_iff.mp hf).1
    obtain ⟨error, rfl, hblank⟩ := blank_of_call (hfunctions entry hentry) h
    exact ⟨_, rfl, by rw [EvaluationError.expression_within, if_pos hblank]⟩
  · obtain rfl := error_of_compareValues h
    exact ⟨_, rfl, rfl⟩

/-- A **call or a comparison**: what can fail by itself. -/
def IsApplication : Expression → Prop
  | .call .. | .comparison .. => True
  | _ => False

theorem FailsItself.isApplication (h : FailsItself functions environment part stop) :
    IsApplication part := by
  cases h <;> trivial

/-- **An error blames the innermost part that failed**: with the built-in functions, a failure is an
error, and some call or comparison in the expression fails by itself with the very same error, which
has the text of that part in it. -/
theorem evaluate_builtins_eq_error (h : evaluate builtins environment e = .error stop) :
    ∃ error, stop = .error error ∧
      ∃ part ∈ e.parts, IsApplication part ∧
        evaluate builtins environment part = .error (.error error) ∧
        error.expression = part.text ∧ FailsItself builtins environment part (.error error) := by
  obtain ⟨part, hpart, hfails⟩ := exists_part_failsItself h
  obtain ⟨error, rfl, htext⟩ := hfails.blamed failsOnKinds_builtins
  exact ⟨error, rfl, part, hpart, hfails.isApplication, hfails.evaluate_eq, htext, hfails⟩

/-- A call in a comparison on the right of a connective under a negation: none of what is around the
call puts its text into the error. -/
theorem evaluate_builtins_eq_error_of_nested :
    let year : Expression := .field ⟨["year"]⟩
    let environment : Environment := fun _ => .integer 2024
    let short : Expression := .comparison .less (.call "length" [year]) (.literal (.integer 5))
    let e : Expression := .negation (.logical .conjunction year short)
    let error := EvaluationError.type "length() expects a string or array, got integer"
      "length(year)"
    evaluate builtins environment e = .error (.error error) ∧
      ∃ part ∈ e.parts, IsApplication part ∧
        evaluate builtins environment part = .error (.error error) ∧
        error.expression = part.text ∧ FailsItself builtins environment part (.error error) := by
  intro year environment short e error
  have h : evaluate builtins environment e = .error (.error error) := rfl
  obtain ⟨error', herror, hpart⟩ := evaluate_builtins_eq_error h
  obtain rfl := Stop.error.inj herror
  exact ⟨h, hpart⟩

end Notebook.Evaluation
