import Notebook.Evaluation.Builtin
import Notebook.Proofs.Evaluation.Several
import Notebook.Proofs.Query.Parts

/-!
# Expressions whose calls are in order

Checking the calls of an expression looks at every call in it, also at those that an evaluation
would pass over (`Notebook.Evaluation.checkCalls_of_mem_parts`). After it, an evaluation fails only
because of values: a function has no use for the kind of a value, or two values have no order
(`Notebook.Evaluation.failsOnValues_evaluate`). This holds for every part of the expression and for
every environment, as soon as the functions themselves fail only because of values, which the
built-in ones do (`Notebook.Evaluation.failsOnValues_builtins`).
-/

namespace Notebook.Evaluation

open Query (Expression)

/-! ### Failures that concern values -/

/-- An error that **concerns values**. The other ones concern calls. -/
inductive EvaluationError.ConcernsValues : EvaluationError → Prop
  /-- A value of a kind that a function has no use for. -/
  | type (message expression : String) : ConcernsValues (.type message expression)
  /-- Two values without an order. -/
  | coercion (left right expression : String) : ConcernsValues (.coercion left right expression)

theorem EvaluationError.ConcernsValues.within (text : String) {e : EvaluationError}
    (h : e.ConcernsValues) : (e.within text).ConcernsValues := by
  rcases h with ⟨message, expression⟩ | ⟨left, right, expression⟩
  · exact .type ..
  · exact .coercion ..

/-- An outcome that **fails only on values**: it is no breakdown, and its error, if it has one,
concerns values. -/
def FailsOnValues {α : Type} (x : Except Stop α) : Prop :=
  ∀ stop, x = .error stop → ∃ e, stop = .error e ∧ e.ConcernsValues

section

variable {α β : Type} {x : Except Stop α}

theorem failsOnValues_ok (a : α) : FailsOnValues (.ok a) := fun _ h => nomatch h

theorem failsOnValues_error {e : EvaluationError} (h : e.ConcernsValues) :
    FailsOnValues (.error (.error e) : Except Stop α) := by
  intro stop hstop
  exact ⟨e, (Except.error.inj hstop).symm, h⟩

/-- Two steps fail only on values when each of them does. -/
theorem FailsOnValues.bind {f : α → Except Stop β} (hx : FailsOnValues x)
    (hf : ∀ a, x = .ok a → FailsOnValues (f a)) : FailsOnValues (x >>= f) := by
  intro stop h
  rcases bind_eq_error_iff.mp h with hstop | ⟨a, ha, hstop⟩
  · exact hx stop hstop
  · exact hf a ha stop hstop

/-- An error that is given the text of an expression is still of its kind. -/
theorem FailsOnValues.located (text : String) (h : FailsOnValues x) :
    FailsOnValues (located text x) := by
  cases x with
  | ok a => exact failsOnValues_ok a
  | error stop =>
    obtain ⟨e, rfl, he⟩ := h stop rfl
    exact failsOnValues_error (he.within text)

end

/-! ### Functions -/

/-- A function that **fails only on values**. -/
def Function.FailsOnValues (f : Function) : Prop :=
  ∀ arguments, Evaluation.FailsOnValues (f.body arguments)

/-- Functions each of which **fails only on values**. -/
def Registry.FailsOnValues (functions : Registry) : Prop :=
  ∀ entry ∈ functions.entries, entry.2.FailsOnValues

/-- What a registry gives for a name is in it. -/
theorem Registry.exists_entry {functions : Registry} {name : String} {f : Function}
    (h : functions.function? name = some f) : ∃ entry ∈ functions.entries, entry.2 = f := by
  obtain ⟨before, after, hentries, -⟩ := List.lookup_eq_some_iff.mp h
  exact ⟨(normalName name, f), by simp [hentries], rfl⟩

/-- With the right count of arguments, a call fails only on values. -/
theorem Function.FailsOnValues.call {f : Function} (h : f.FailsOnValues) {arguments : List Value}
    (hlength : arguments.length = f.arity) : Evaluation.FailsOnValues (f.call arguments) := by
  rw [Function.call, dif_pos hlength]
  exact h _

/-! ### The built-in functions -/

/-- An outcome that **fails only on kinds**: its error, if it has one, is that a value is of a kind
that there is no use for, and the error does not know the expression. -/
def FailsOnKinds (x : Except Stop Value) : Prop :=
  ∀ stop, x = .error stop → ∃ message, stop = .error (.type message "")

theorem failsOnKinds_ok (v : Value) : FailsOnKinds (.ok v) := fun _ h => nomatch h

theorem failsOnKinds_typeError (message : String) : FailsOnKinds (typeError message) := by
  intro stop hstop
  exact ⟨message, (Except.error.inj hstop).symm⟩

theorem FailsOnKinds.failsOnValues {x : Except Stop Value} (h : FailsOnKinds x) :
    FailsOnValues x := by
  intro stop hstop
  obtain ⟨message, rfl⟩ := h stop hstop
  exact ⟨_, rfl, .type message ""⟩

/-- Functions each of which **fails only on kinds**. -/
def Registry.FailsOnKinds (functions : Registry) : Prop :=
  ∀ entry ∈ functions.entries, ∀ arguments, Evaluation.FailsOnKinds (entry.2.body arguments)

theorem Registry.FailsOnKinds.register {functions : Registry} (h : functions.FailsOnKinds)
    (name : String) {arity : Nat} {body : Vector Value arity → Except Stop Value}
    (hbody : ∀ arguments, Evaluation.FailsOnKinds (body arguments)) :
    (functions.register name arity body).FailsOnKinds := by
  intro entry hentry
  rcases Dictionary.mem_insertEntry hentry with rfl | hentry
  · exact hbody
  · exact h entry hentry

theorem failsOnKinds_contains (collection item : Value) :
    FailsOnKinds (contains collection item) := by
  unfold contains
  split
  case h_4 =>
    split
    case h_4 =>
      split
      · exact failsOnKinds_ok _
      · exact failsOnKinds_typeError _
    all_goals exact failsOnKinds_ok _
  case h_5 => exact failsOnKinds_typeError _
  all_goals exact failsOnKinds_ok _

theorem failsOnKinds_length (v : Value) : FailsOnKinds (length v) := by
  unfold length
  split
  case h_5 => exact failsOnKinds_typeError _
  all_goals exact failsOnKinds_ok _

theorem failsOnKinds_mapText (name : String) (f : List Char → List Char) (v : Value) :
    FailsOnKinds (mapText name f v) := by
  unfold mapText
  split
  · exact failsOnKinds_ok _
  · split
    · exact failsOnKinds_ok _
    · exact failsOnKinds_typeError _

theorem failsOnKinds_testTexts (name : String) (test : List Char → List Char → Bool)
    (subject pattern : Value) : FailsOnKinds (testTexts name test subject pattern) := by
  unfold testTexts
  split
  · exact failsOnKinds_ok _
  · split
    · exact failsOnKinds_ok _
    · exact failsOnKinds_typeError _

/-- **The built-in functions fail only on kinds**, and leave it to the call to say where. -/
theorem failsOnKinds_builtins : builtins.FailsOnKinds := by
  have hempty : Registry.FailsOnKinds Dictionary.empty := fun entry hentry => nomatch hentry
  exact ((((((hempty.register "contains" fun v => failsOnKinds_contains _ _).register
    "length" fun v => failsOnKinds_length _).register
    "lower" fun v => failsOnKinds_mapText _ _ _).register
    "upper" fun v => failsOnKinds_mapText _ _ _).register
    "startswith" fun v => failsOnKinds_testTexts _ _ _ _).register
    "endswith" fun v => failsOnKinds_testTexts _ _ _ _).register
    "default" fun v => failsOnKinds_ok _

/-- The built-in functions fail only on values. -/
theorem failsOnValues_builtins : builtins.FailsOnValues :=
  fun entry hentry arguments => (failsOnKinds_builtins entry hentry arguments).failsOnValues

/-! ### Checked calls -/

variable {functions : Registry} {environment : Environment} {e : Expression}

theorem resolve_eq_ok_iff {text name : String} {count : Nat} {f : Function} :
    resolve functions text name count = .ok f ↔
      functions.function? name = some f ∧ f.arity = count := by
  unfold resolve
  cases functions.function? name with
  | none => simp
  | some g =>
    by_cases h : g.arity = count
    · simp only [if_pos h, Except.ok.injEq, Option.some.injEq]
      exact ⟨fun hg => ⟨hg, hg ▸ h⟩, fun hg => hg.1⟩
    · simp only [if_neg h, reduceCtorEq, Option.some.injEq, false_iff]
      exact fun hg => h (hg.1 ▸ hg.2)

theorem checkAllCalls_eq_ok_iff {es : List Expression} :
    checkAllCalls functions es = .ok () ↔ ∀ e ∈ es, checkCalls functions e = .ok () := by
  induction es with
  | nil => simp [checkAllCalls]
  | cons e es ih =>
    rw [checkAllCalls, bind_eq_ok_iff, List.forall_mem_cons, ih]
    exact ⟨fun ⟨_, he, hes⟩ => ⟨he, hes⟩, fun ⟨he, hes⟩ => ⟨(), he, hes⟩⟩

/-- **A call is in order** when it names a function and gives it the right count of arguments, and
the calls in its arguments are in order. -/
theorem checkCalls_call_iff {name : String} {arguments : List Expression} :
    checkCalls functions (.call name arguments) = .ok () ↔
      (∃ f, functions.function? name = some f ∧ f.arity = arguments.length) ∧
        ∀ argument ∈ arguments, checkCalls functions argument = .ok () := by
  rw [checkCalls, bind_eq_ok_iff]
  simp only [resolve_eq_ok_iff, checkAllCalls_eq_ok_iff]
  exact ⟨fun ⟨f, hf, harguments⟩ => ⟨⟨f, hf⟩, harguments⟩,
    fun ⟨⟨f, hf⟩, harguments⟩ => ⟨f, hf, harguments⟩⟩

theorem checkCalls_comparison_iff {operator : Query.Comparison} {left right : Expression} :
    checkCalls functions (.comparison operator left right) = .ok () ↔
      checkCalls functions left = .ok () ∧ checkCalls functions right = .ok () := by
  rw [checkCalls, bind_eq_ok_iff]
  exact ⟨fun ⟨_, hleft, hright⟩ => ⟨hleft, hright⟩, fun ⟨hleft, hright⟩ => ⟨(), hleft, hright⟩⟩

theorem checkCalls_logical_iff {connective : Query.Connective} {left right : Expression} :
    checkCalls functions (.logical connective left right) = .ok () ↔
      checkCalls functions left = .ok () ∧ checkCalls functions right = .ok () := by
  rw [checkCalls, bind_eq_ok_iff]
  exact ⟨fun ⟨_, hleft, hright⟩ => ⟨hleft, hright⟩, fun ⟨hleft, hright⟩ => ⟨(), hleft, hright⟩⟩

/-- **Every part of a checked expression is checked**, whether an evaluation would reach it or
not. -/
theorem checkCalls_of_mem_parts (h : checkCalls functions e = .ok ()) :
    ∀ part ∈ e.parts, checkCalls functions part = .ok () := by
  induction e with
  | field path => exact Expression.forall_parts_field.mpr h
  | literal value => exact Expression.forall_parts_literal.mpr h
  | call name arguments ih =>
    have harguments := (checkCalls_call_iff.mp h).2
    exact Expression.forall_parts_call.mpr
      ⟨h, fun argument hmem => ih argument hmem (harguments argument hmem)⟩
  | comparison operator left right ihleft ihright =>
    obtain ⟨hleft, hright⟩ := checkCalls_comparison_iff.mp h
    exact Expression.forall_parts_comparison.mpr ⟨h, ihleft hleft, ihright hright⟩
  | logical connective left right ihleft ihright =>
    obtain ⟨hleft, hright⟩ := checkCalls_logical_iff.mp h
    exact Expression.forall_parts_logical.mpr ⟨h, ihleft hleft, ihright hright⟩
  | negation operand ih => exact Expression.forall_parts_negation.mpr ⟨h, ih h⟩

/-! ### Evaluation -/

/-- **Two values without an order** are an error that describes both and names no expression. -/
theorem error_of_order {a b : Value} {error : EvaluationError} (h : order a b = .error error) :
    error = .coercion (describe a) (describe b) "" := by
  have hnone : (noOrder a b : Except EvaluationError Ordering) = .error error →
      error = .coercion (describe a) (describe b) "" := fun hno => (Except.error.inj hno).symm
  unfold order at h
  split at h
  case h_4 =>
    split at h
    · split at h
      · exact nomatch h
      · exact hnone h
    · split at h
      · split at h
        · exact nomatch h
        · exact hnone h
      · exact hnone h
  all_goals exact nomatch h

theorem error_of_compareValues {operator : Query.Comparison} {a b : Value}
    {error : EvaluationError} (h : compareValues operator a b = .error error) :
    error = .coercion (describe a) (describe b) "" := by
  unfold compareValues at h
  split at h
  · exact nomatch h
  · exact nomatch h
  · split at h
    · exact nomatch h
    · exact error_of_order (map_eq_error_iff.mp h)

theorem failsOnValues_compareValues (operator : Query.Comparison) (a b : Value) :
    FailsOnValues ((compareValues operator a b).mapError Stop.error) := by
  cases hcompare : compareValues operator a b with
  | ok holds => exact failsOnValues_ok _
  | error e =>
    obtain rfl := error_of_compareValues hcompare
    exact failsOnValues_error (.coercion ..)

/-- Several expressions fail only on values when each of them does. -/
theorem failsOnValues_evaluateAll {es : List Expression}
    (h : ∀ e ∈ es, FailsOnValues (evaluate functions environment e)) :
    FailsOnValues (evaluateAll functions environment es) := by
  intro stop hstop
  obtain ⟨before, e, after, rfl, -, he⟩ := evaluateAll_eq_error_iff.mp hstop
  exact h e (by simp) stop he

/-- **An expression whose calls are in order fails only on values.** -/
theorem failsOnValues_evaluate (hfunctions : functions.FailsOnValues)
    (h : checkCalls functions e = .ok ()) :
    FailsOnValues (evaluate functions environment e) := by
  induction e with
  | field path => exact failsOnValues_ok _
  | literal value => exact failsOnValues_ok _
  | call name arguments ih =>
    obtain ⟨⟨f, hf, harity⟩, harguments⟩ := checkCalls_call_iff.mp h
    have hresolve : resolve functions (Expression.call name arguments).text name arguments.length =
      .ok f := resolve_eq_ok_iff.mpr ⟨hf, harity⟩
    rw [evaluate, hresolve]
    refine (failsOnValues_ok f).bind fun g hg => ?_
    obtain rfl := Except.ok.inj hg
    refine (failsOnValues_evaluateAll fun e he => ih e he (harguments e he)).bind
      fun values hvalues => ?_
    have hlength := (evaluateAll_eq_ok_iff.mp hvalues).length_eq
    obtain ⟨entry, hentry, rfl⟩ := Registry.exists_entry hf
    exact (Function.FailsOnValues.call (hfunctions entry hentry) (by omega)).located _
  | comparison operator left right ihleft ihright =>
    obtain ⟨hleft, hright⟩ := checkCalls_comparison_iff.mp h
    rw [evaluate]
    refine (ihleft hleft).bind fun a _ => (ihright hright).bind fun b _ => ?_
    exact ((failsOnValues_compareValues operator a b).located _).bind fun _ _ =>
      failsOnValues_ok _
  | logical connective left right ihleft ihright =>
    obtain ⟨hleft, hright⟩ := checkCalls_logical_iff.mp h
    rw [evaluate]
    refine (ihleft hleft).bind fun a _ => ?_
    dsimp only
    split
    · exact (ihright hright).bind fun _ _ => failsOnValues_ok _
    · exact failsOnValues_ok _
  | negation operand ih =>
    rw [evaluate]
    exact (ih h).bind fun _ _ => failsOnValues_ok _

end Notebook.Evaluation
