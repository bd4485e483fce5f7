import Notebook.Proofs.Query.Plans

/-!
# The calls of readers go down

Every reader follows its plan (`Notebook.Query.Reader.follows`): with the answers of the readers,
the plan comes to what the reader gives. And every call in a plan goes down
(`Notebook.Query.Reader.Descends`): it is made where less is left, or where as much is left and by a
reader that binds less tightly than the one that is called. So no chain of calls goes on forever,
whatever the text is.

Both are shown in one go, along the way a reader is put together: what is read first leaves less
than its bound, and that is what the calls after it need (`Notebook.Query.Reading.Follows.andThen`).
-/

namespace Notebook.Query

/-! ### Readings that follow plans -/

/-- **A reading follows a plan** when the plan comes to what the reading gives and its calls are as
`P` asks. -/
structure Reading.Follows {α : Type} {n : Nat} (reading : Reading α n) (p : Plan α)
    (P : Reader → Cursor → Prop) : Prop where
  /-- The plan comes to what the reading gives. -/
  run : p.run .actual = some reading.result
  /-- Its calls are as they should be. -/
  calls : ∀ r c, p.Calls r c → P r c

section Follows

variable {α β : Type} {m n : Nat} {c : Cursor} {P : Reader → Cursor → Prop}

theorem follows_ok {value : α} {shrinks : c.size < n} :
    (Reading.ok value c shrinks).Follows (.done value c) P :=
  ⟨rfl, fun _ _ hcalls => by cases hcalls⟩

theorem follows_error {e : SyntaxError} :
    (Reading.error e c : Reading α n).Follows (.failed e c) P :=
  ⟨rfl, fun _ _ hcalls => by cases hcalls⟩

/-- **One reading and then another one**: what the first one leaves is less than its bound. -/
theorem Reading.Follows.andThen {reading : Reading α m}
    {continuation : (value : α) → (c : Cursor) → c.size < m → Reading β n} {p : Plan α}
    {after : α → Cursor → Plan β} (h : reading.Follows p P)
    (hafter : ∀ value c₁ (hlt : c₁.size < m),
      (continuation value c₁ hlt).Follows (after value c₁) P) :
    (reading.andThen continuation).Follows (p.andThen after) P := by
  cases reading with
  | ok value next shrinks =>
    have hnext := hafter value next shrinks
    refine ⟨?_, fun r c hcalls => ?_⟩
    · rw [Plan.run_andThen, h.run]
      exact hnext.run
    · rcases hcalls.of_andThen with hfirst | ⟨value', next', hrun, hsecond⟩
      · exact h.calls r c hfirst
      · cases h.run.symm.trans hrun
        exact hnext.calls r c hsecond
  | error e stopped =>
    refine ⟨?_, fun r c hcalls => ?_⟩
    · rw [Plan.run_andThen, h.run]
      rfl
    · rcases hcalls.of_andThen with hfirst | ⟨value', next', hrun, -⟩
      · exact h.calls r c hfirst
      · cases h.run.symm.trans hrun

/-- A reading may be given a greater bound. -/
theorem Reading.Follows.weaken {reading : Reading α m} {p : Plan α}
    {h : ∀ c₁ : Cursor, c₁.size < m → c₁.size < n} (hreading : reading.Follows p P) :
    (reading.andThen fun value c₁ h₁ => Reading.ok value c₁ (h c₁ h₁)).Follows p P := by
  cases reading with
  | ok value next shrinks => exact ⟨hreading.run, hreading.calls⟩
  | error e stopped => exact ⟨hreading.run, hreading.calls⟩

theorem Reading.Follows.map {reading : Reading α n} {p : Plan α} (h : reading.Follows p P)
    (f : α → β) : (reading.map f).Follows (p.andThen fun value next => .done (f value) next) P := by
  have hmap : reading.map f =
      reading.andThen fun value next shrinks => Reading.ok (f value) next shrinks := by
    cases reading <;> rfl
  rw [hmap]
  exact h.andThen fun _ _ _ => follows_ok

theorem follows_advance {hc : c.token ≠ .endOfInput} {stopped : Cursor} :
    (c.advance hc stopped).Follows (.advance c stopped) P := by
  unfold Cursor.advance
  split
  · next lexeme lexer heq =>
    have hplan : Plan.advance c stopped = .done () ⟨lexer, lexeme⟩ := by rw [Plan.advance, heq]
    rw [hplan]
    exact follows_ok
  · next e lexer heq =>
    have hplan : Plan.advance c stopped = .failed e (stopped.moved lexer) := by
      rw [Plan.advance, heq]
    rw [hplan]
    exact follows_error

theorem follows_pass {hc : c.token ≠ .endOfInput} : (c.pass hc).Follows (.pass c) P :=
  follows_advance

theorem follows_take {hc : c.token ≠ .endOfInput} : (c.take hc).Follows (.take c) P :=
  follows_advance

theorem follows_expect {token : Token} {name : String} {ht : token ≠ .endOfInput} :
    (c.expect token name ht).Follows (.expect c token name) P := by
  unfold Cursor.expect Plan.expect
  split
  · exact follows_pass
  · exact follows_error

/-- **A call**: the plan is to ask for what the reader gives. -/
theorem follows_ask (r : Reader) {reading : Reading r.Value n}
    (h : (r.reading c).result = reading.result) (hP : P r c) : reading.Follows (.ask r c) P := by
  refine ⟨?_, fun r' c' hcalls => ?_⟩
  · rw [Plan.ask, Plan.run, Answers.actual, h]
    rcases reading.result with ⟨e | value, next⟩ <;> rfl
  · cases hcalls with
    | now => exact hP
    | later _ hcalls => cases hcalls

/-! ### Shapes of readers -/

section Shapes

variable {item : (c : Cursor) → Reading α c.size} {plan : Cursor → Plan α}
  {hc : c.token ≠ .endOfInput}

theorem follows_prefixed {make : α → β}
    {h : ∀ c₁ : Cursor, c₁.size < c.size → ∀ c₂ : Cursor, c₂.size < c₁.size → c₂.size < n}
    (hitem : ∀ c₁, c₁.size < c.size → (item c₁).Follows (plan c₁) P) :
    ((c.pass hc).andThen fun _ c₁ h₁ =>
      (item c₁).andThen fun x c₂ h₂ => Reading.ok (make x) c₂ (h c₁ h₁ c₂ h₂)).Follows
      (.prefixed plan make c) P :=
  follows_pass.andThen fun _ c₁ h₁ => (hitem c₁ h₁).andThen fun _ _ _ => follows_ok

theorem follows_parenthesized {hp : Token.closeParen ≠ .endOfInput}
    {h : ∀ c₁ : Cursor, c₁.size < c.size → ∀ c₂ : Cursor, c₂.size < c₁.size →
      ∀ c₃ : Cursor, c₃.size < c₂.size → c₃.size < n}
    (hitem : ∀ c₁, c₁.size < c.size → (item c₁).Follows (plan c₁) P) :
    ((c.take hc).andThen fun _ c₁ h₁ => (item c₁).andThen fun x c₂ h₂ =>
      (c₂.expect .closeParen "')'" hp).andThen fun _ c₃ h₃ =>
        Reading.ok x c₃ (h c₁ h₁ c₂ h₂ c₃ h₃)).Follows (.parenthesized plan c) P :=
  follows_take.andThen fun _ c₁ h₁ => (hitem c₁ h₁).andThen fun _ _ _ =>
    follows_expect.andThen fun _ _ _ => follows_ok

theorem follows_clause {word : Keyword} {h : c.size < n}
    (hitem : ∀ c₁, c₁.size < c.size → (item c₁).Follows (plan c₁) P) :
    (Cursor.clause word item c h).Follows (.clause word plan c) P := by
  unfold Cursor.clause Plan.clause
  split
  · exact follows_prefixed hitem
  · exact follows_ok

/-- The items of a list are read one by one, and each loop is where less is left. -/
theorem follows_listed {extra : {n : Nat} → (c : Cursor) → c.size < n → Reading β n}
    {extraPlan : Cursor → Plan β} {γ : Type} {make : Expression → β → γ}
    {others : (c : Cursor) → Reading (List γ) c.size} {othersPlan : Cursor → Plan (List γ)}
    {list : Reading (List γ) c.size}
    (h : list = c.expression.andThen fun e c₁ h₁ => (extra c₁ h₁).andThen fun x c₂ h₂ =>
      if hc : c₂.token = .comma then
        (c₂.pass (Cursor.ne_endOfInput_of_comma hc)).andThen fun _ c₃ h₃ =>
          (others c₃).andThen fun xs c₄ h₄ => .ok (make e x :: xs) c₄
            (Nat.lt_trans h₄ (Nat.lt_trans h₃ h₂))
      else .ok [make e x] c₂ h₂)
    (hfirst : P .expression c)
    (hextra : ∀ c₁ (h₁ : c₁.size < c.size), (extra c₁ h₁).Follows (extraPlan c₁) P)
    (hothers : ∀ c₁, c₁.size < c.size → (others c₁).Follows (othersPlan c₁) P) :
    list.Follows (.listed extraPlan make othersPlan c) P := by
  rw [h]
  refine (follows_ask .expression rfl hfirst).andThen fun e c₁ h₁ => ?_
  refine (hextra c₁ h₁).andThen fun x c₂ h₂ => ?_
  split
  · exact follows_prefixed fun c₃ h₃ => hothers c₃ (Nat.lt_trans h₃ h₂)
  · exact follows_ok

end Shapes

/-! ### Loops -/

section Loops

/-- What is read does not depend on a bound when what is read last does not. -/
theorem Reading.result_andThen_congr {γ : Type} {k : Nat} {reading : Reading γ k}
    {continuation : γ → (c : Cursor) → c.size < k → Reading α m}
    {continuation' : γ → (c : Cursor) → c.size < k → Reading α n}
    (h : ∀ value c₁ hlt, (continuation value c₁ hlt).result = (continuation' value c₁ hlt).result) :
    (reading.andThen continuation).result = (reading.andThen continuation').result := by
  cases reading with
  | ok value next shrinks => exact h value next shrinks
  | error e stopped => rfl

variable {word : Keyword} {item : (c : Cursor) → Reading α c.size} {join : α → α → α}
  {loop : (n : Nat) → α → (c : Cursor) → c.size < n → Reading α n} {left : α}

/-- That a reader is **the loop of a connective**, whatever its bound. -/
structure IsLoop (word : Keyword) (item : (c : Cursor) → Reading α c.size) (join : α → α → α)
    (loop : (n : Nat) → α → (c : Cursor) → c.size < n → Reading α n) : Prop where
  /-- After the word there is an item, and the loop goes on. -/
  more {n : Nat} {left : α} {c : Cursor} (hc : c.size < n) (hne : c.token ≠ .endOfInput)
    (hlt : ∀ c₁ : Cursor, c₁.size < c.size → ∀ c₂ : Cursor, c₂.size < c₁.size → c₂.size < n) :
    c.token = .keyword word → loop n left c hc = (c.pass hne).andThen fun _ c₁ h₁ =>
      (item c₁).andThen fun right c₂ h₂ => loop n (join left right) c₂ (hlt c₁ h₁ c₂ h₂)
  /-- Without the word it stops. -/
  stop {n : Nat} {left : α} {c : Cursor} (hc : c.size < n) :
    c.token ≠ .keyword word → loop n left c hc = .ok left c hc

theorem isLoop_of_eq (h : ∀ n left c hc, loop n left c hc =
      if hk : c.token = .keyword word then
        (c.pass (Cursor.ne_endOfInput_of_keyword hk)).andThen fun _ c₁ h₁ =>
          (item c₁).andThen fun right c₂ h₂ =>
            loop n (join left right) c₂ (Nat.lt_trans h₂ (Nat.lt_trans h₁ hc))
      else .ok left c hc) :
    IsLoop word item join loop where
  more hc _ _ hk := (h _ _ _ hc).trans (dif_pos hk)
  stop hc hk := (h _ _ _ hc).trans (dif_neg hk)

/-- What a loop gives does not depend on its bound. -/
theorem IsLoop.result_eq (hloop : IsLoop word item join loop) (hm : c.size < m) (hn : c.size < n) :
    (loop m left c hm).result = (loop n left c hn).result := by
  induction hs : c.size using Nat.strongRecOn generalizing left c with
  | ind size ih =>
    by_cases hk : c.token = .keyword word
    · have hne := Cursor.ne_endOfInput_of_keyword hk
      rw [hloop.more hm hne (fun _ h₁ _ h₂ => Nat.lt_trans h₂ (Nat.lt_trans h₁ hm)) hk,
        hloop.more hn hne (fun _ h₁ _ h₂ => Nat.lt_trans h₂ (Nat.lt_trans h₁ hn)) hk]
      refine Reading.result_andThen_congr fun _ c₁ h₁ => ?_
      refine Reading.result_andThen_congr fun right c₂ h₂ => ?_
      exact ih c₂.size (hs ▸ Nat.lt_trans h₂ h₁) _ _ rfl
    · rw [hloop.stop hm hk, hloop.stop hn hk]
      rfl

theorem IsLoop.follows {itemPlan : Cursor → Plan α} {loopPlan : α → Cursor → Plan α}
    (hloop : IsLoop word item join loop) (hc : c.size < n)
    (hitem : ∀ c₁, c₁.size < c.size → (item c₁).Follows (itemPlan c₁) P)
    (hnext : ∀ left c₂ (h₂ : c₂.size < n), c₂.size < c.size →
      (loop n left c₂ h₂).Follows (loopPlan left c₂) P) :
    (loop n left c hc).Follows (.chain word itemPlan join loopPlan left c) P := by
  unfold Plan.chain
  split
  · next hk =>
    rw [hloop.more hc (Cursor.ne_endOfInput_of_keyword hk)
      (fun _ h₁ _ h₂ => Nat.lt_trans h₂ (Nat.lt_trans h₁ hc)) hk]
    exact follows_pass.andThen fun _ c₁ h₁ => (hitem c₁ h₁).andThen fun right c₂ h₂ =>
      hnext _ c₂ _ (Nat.lt_trans h₂ h₁)
  · next hk =>
    rw [hloop.stop hc hk]
    exact follows_ok

end Loops

end Follows

namespace Cursor

theorem isLoop_disjunctionTail : IsLoop .disjunction conjunction (.logical .disjunction)
    (fun _ => disjunctionTail) := isLoop_of_eq fun n left c hc => by rw [disjunctionTail]

theorem isLoop_conjunctionTail : IsLoop .conjunction condition (.logical .conjunction)
    (fun _ => conjunctionTail) := isLoop_of_eq fun n left c hc => by rw [conjunctionTail]

theorem isLoop_sourceDisjunctionTail : IsLoop .disjunction sourceConjunction .either
    (fun _ => sourceDisjunctionTail) :=
  isLoop_of_eq fun n left c hc => by rw [sourceDisjunctionTail]

theorem isLoop_sourceConjunctionTail : IsLoop .conjunction sourceOperand .both
    (fun _ => sourceConjunctionTail) :=
  isLoop_of_eq fun n left c hc => by rw [sourceConjunctionTail]

/-- What is read as a field path does not depend on the bound. -/
theorem result_pathTail {m n : Nat} {segments : List String} {c : Cursor} (hm : c.size < m)
    (hn : c.size < n) : (pathTail segments c hm).result = (pathTail segments c hn).result := by
  induction hs : c.size using Nat.strongRecOn generalizing segments c with
  | ind size ih =>
    rw [pathTail, pathTail]
    split
    · refine Reading.result_andThen_congr fun _ c₁ h₁ => ?_
      split
      · next name ht =>
        refine Reading.result_andThen_congr fun _ c₂ h₂ => ?_
        exact ih c₂.size (hs ▸ Nat.lt_trans h₂ h₁) _ _ rfl
      · rfl
    · rfl

end Cursor

/-! ### Levels -/

namespace Reader

/-- **How tightly a reader binds**: a reader of operands the most. A loop binds as the reader whose
loop it is. -/
def level : Reader → Nat
  | query | columns | sortKeys | arguments => 0
  | argumentList => 1
  | expression | disjunctionTail _ | source | sourceDisjunctionTail _ => 2
  | conjunction | conjunctionTail _ | sourceConjunction | sourceConjunctionTail _ => 3
  | condition | sourceOperand => 4
  | comparison => 5
  | operand | pathTail _ => 6

/-- **A call goes down**: less is left where it is made, or as much is left and the reader that is
called binds more tightly. -/
def Descends (r : Reader) (c : Cursor) (r' : Reader) (c' : Cursor) : Prop :=
  c'.size < c.size ∨ c'.size = c.size ∧ r.level < r'.level

variable {r r' : Reader} {c c' : Cursor} {n : Nat}

open Cursor

/-- A call where less is left. -/
theorem follows_ask_below (r' : Reader) (h : c'.size < c.size) :
    (r'.reading c').Follows (.ask r' c') (r.Descends c) := follows_ask r' rfl (.inl h)

/-- A call of a tighter reader. -/
theorem follows_ask_tighter (r' : Reader) (h : r.level < r'.level) :
    (r'.reading c).Follows (.ask r' c) (r.Descends c) := follows_ask r' rfl (.inr ⟨rfl, h⟩)

/-! ### Each reader and its plan -/

theorem follows_givenName {P : Reader → Cursor → Prop} {h : c.size < n} :
    (c.givenName h).Follows (.givenName c) P := by
  unfold Cursor.givenName Plan.givenName
  split
  · refine .andThen follows_pass fun _ c₁ h₁ => ?_
    split
    · next name ha =>
      simp only [ha]
      exact .andThen follows_take fun _ _ _ => follows_ok
    · next ha =>
      simp only [ha]
      exact follows_error
  · exact follows_ok

theorem follows_direction {P : Reader → Cursor → Prop} {h : c.size < n} :
    (c.direction h).Follows (.direction c) P := by
  unfold Cursor.direction Plan.direction
  split
  · exact .andThen follows_pass fun _ _ _ => follows_ok
  · split
    · exact .andThen follows_pass fun _ _ _ => follows_ok
    · exact follows_ok

theorem follows_limitNumber {P : Reader → Cursor → Prop} :
    c.limitNumber.Follows (.limitNumber c) P := by
  unfold Cursor.limitNumber Plan.limitNumber
  split
  · next k ht =>
    simp only [ht]
    split
    · exact follows_pass.map _
    · exact follows_error
  · next hne =>
    split
    · next k ht => exact absurd ht (hne k)
    · exact follows_error

theorem follows_formColumns {P : Reader → Cursor → Prop} {form : Form} {h : c.size < n}
    (hcolumns : P .columns c) : (Cursor.formColumns form c h).Follows (.formColumns form c) P := by
  unfold Cursor.formColumns Plan.formColumns
  split
  · exact follows_ok
  · split
    · exact (follows_ask .columns rfl hcolumns).weaken
    · exact follows_error

theorem follows_query (c : Cursor) : c.query.Follows (query.plan c) (query.Descends c) := by
  rw [Cursor.query]
  split
  · next hf =>
    simp only [plan, hf]
    split <;> exact follows_error
  · next form hf =>
    simp only [plan, hf]
    -- every clause is read where less is left than at the start
    refine .andThen follows_pass fun _ c₁ h₁ => ?_
    refine .andThen (follows_formColumns (.inl h₁)) fun _ c₂ h₂ => ?_
    refine .andThen (follows_clause fun _ h => follows_ask_below .source (Nat.lt_trans h h₂))
      fun _ c₃ h₃ => ?_
    refine .andThen (follows_clause fun _ h => follows_ask_below .expression (Nat.lt_trans h h₃))
      fun _ c₄ h₄ => ?_
    refine .andThen (follows_clause fun _ h => follows_ask_below .sortKeys (Nat.lt_trans h h₄))
      fun _ c₅ h₅ => ?_
    refine .andThen (follows_clause fun _ _ => follows_limitNumber) fun _ c₆ h₆ => ?_
    split
    · exact follows_ok
    · exact follows_error

theorem follows_columns (c : Cursor) : c.columns.Follows (columns.plan c) (columns.Descends c) := by
  rw [Cursor.columns, plan]
  exact follows_listed rfl (.inr ⟨rfl, by decide⟩) (fun _ _ => follows_givenName)
    fun _ h₁ => follows_ask_below .columns h₁

theorem follows_sortKeys (c : Cursor) :
    c.sortKeys.Follows (sortKeys.plan c) (sortKeys.Descends c) := by
  rw [Cursor.sortKeys, plan]
  exact follows_listed rfl (.inr ⟨rfl, by decide⟩) (fun _ _ => follows_direction)
    fun _ h₁ => follows_ask_below .sortKeys h₁

theorem follows_arguments (c : Cursor) :
    c.arguments.Follows (arguments.plan c) (arguments.Descends c) := by
  rw [Cursor.arguments, plan]
  split
  · exact follows_pass.map _
  · exact follows_ask_tighter .argumentList (by decide)

theorem follows_argumentList (c : Cursor) :
    c.argumentList.Follows (argumentList.plan c) (argumentList.Descends c) := by
  rw [Cursor.argumentList, plan]
  refine .andThen (follows_ask_tighter .expression (by decide)) fun value c₁ h₁ => ?_
  split
  · exact follows_prefixed fun _ h₂ => follows_ask_below .argumentList (Nat.lt_trans h₂ h₁)
  · exact .andThen follows_expect fun _ _ _ => follows_ok

theorem follows_condition (c : Cursor) :
    c.condition.Follows (condition.plan c) (condition.Descends c) := by
  rw [Cursor.condition, plan]
  split
  · exact follows_prefixed fun _ h₁ => follows_ask_below .condition h₁
  · exact follows_ask_tighter .comparison (by decide)

theorem follows_comparison (c : Cursor) :
    c.comparison.Follows (comparison.plan c) (comparison.Descends c) := by
  rw [Cursor.comparison, plan]
  refine .andThen (follows_ask_tighter .operand (by decide)) fun left c₁ h₁ => ?_
  split
  · next operator hc =>
    simp only [hc]
    exact follows_prefixed fun _ h₂ => follows_ask_below .operand (Nat.lt_trans h₂ h₁)
  · next hc =>
    simp only [hc]
    exact follows_ok

theorem follows_fieldPath {P : Reader → Cursor → Prop} {name : String} {h : c.size < n}
    (hpath : P (.pathTail [name]) c) : (c.fieldPath name h).Follows (.fieldPath name c) P := by
  unfold Cursor.fieldPath Plan.fieldPath
  refine .andThen (follows_ask (.pathTail [name]) (result_pathTail _ h) hpath) fun _ _ _ => ?_
  split
  · exact follows_error
  · exact follows_ok

theorem follows_operand (c : Cursor) : c.operand.Follows (operand.plan c) (operand.Descends c) := by
  rw [Cursor.operand, plan]
  split
  · next value hl =>
    simp only [hl]
    exact follows_take.map _
  · next hl =>
    simp only [hl]
    split
    · next ht =>
      simp only [ht]
      exact follows_parenthesized fun _ h₁ => follows_ask_below .expression h₁
    · next name ht =>
      simp only [ht]
      refine .andThen follows_take fun _ c₁ h₁ => ?_
      split
      · exact follows_prefixed fun _ h₂ => follows_ask_below .arguments (Nat.lt_trans h₂ h₁)
      · exact follows_fieldPath (.inl h₁)
    · next hparen hname =>
      split
      · next ht => exact absurd ht hparen
      · next name ht => exact absurd ht (hname name)
      · exact follows_error

theorem follows_pathTail {segments : List String} {h : c.size < n} :
    (c.pathTail segments h).Follows ((pathTail segments).plan c)
      ((pathTail segments).Descends c) := by
  rw [Cursor.pathTail, plan]
  split
  · refine .andThen follows_pass fun _ c₁ h₁ => ?_
    split
    · next name ht =>
      simp only [ht]
      refine .andThen follows_take fun _ c₂ h₂ => ?_
      exact follows_ask (.pathTail (segments ++ [name])) (result_pathTail _ _)
        (.inl (Nat.lt_trans h₂ h₁))
    · next hname =>
      split
      · next name ht => exact absurd ht (hname name)
      · exact follows_error
  · exact follows_ok

theorem follows_sourceOperand (c : Cursor) :
    c.sourceOperand.Follows (sourceOperand.plan c) (sourceOperand.Descends c) := by
  rw [Cursor.sourceOperand, plan]
  split
  · next ht =>
    simp only [ht]
    rw [Cursor.negatedSource]
    exact follows_prefixed fun _ h₁ => follows_ask_below .sourceOperand h₁
  · next ht =>
    simp only [ht]
    rw [Cursor.negatedSource]
    exact follows_prefixed fun _ h₁ => follows_ask_below .sourceOperand h₁
  · next path ht =>
    simp only [ht]
    exact follows_take.map _
  · next name ht =>
    simp only [ht]
    exact follows_take.map _
  · next target ht =>
    simp only [ht]
    exact follows_take.map _
  · next ht =>
    simp only [ht]
    exact follows_parenthesized fun _ h₁ => follows_ask_below .source h₁
  · next hminus hneg hstring htag hlink hparen =>
    split
    · next ht => exact absurd ht hminus
    · next ht => exact absurd ht hneg
    · next path ht => exact absurd ht (hstring path)
    · next name ht => exact absurd ht (htag name)
    · next target ht => exact absurd ht (hlink target)
    · next ht => exact absurd ht hparen
    · exact follows_error

/-- **Every reader follows its plan, and all its calls go down.** -/
theorem follows (r : Reader) (c : Cursor) : (r.reading c).Follows (r.plan c) (r.Descends c) := by
  cases r with
  | query => exact follows_query c
  | columns => exact follows_columns c
  | sortKeys => exact follows_sortKeys c
  | arguments => exact follows_arguments c
  | argumentList => exact follows_argumentList c
  | condition => exact follows_condition c
  | comparison => exact follows_comparison c
  | operand => exact follows_operand c
  | pathTail segments => exact follows_pathTail
  | sourceOperand => exact follows_sourceOperand c
  | expression =>
    rw [reading, Cursor.expression, plan]
    refine .andThen (follows_ask_tighter .conjunction (by decide)) fun left _ h₁ => ?_
    exact follows_ask (.disjunctionTail left) (isLoop_disjunctionTail.result_eq _ _) (.inl h₁)
  | disjunctionTail left =>
    rw [reading, plan]
    refine isLoop_disjunctionTail.follows _ (fun _ h₁ => ?_) fun left _ _ h₂ => ?_
    · exact follows_ask_below .conjunction h₁
    · exact follows_ask (.disjunctionTail left) (isLoop_disjunctionTail.result_eq _ _) (.inl h₂)
  | conjunction =>
    rw [reading, Cursor.conjunction, plan]
    refine .andThen (follows_ask_tighter .condition (by decide)) fun left _ h₁ => ?_
    exact follows_ask (.conjunctionTail left) (isLoop_conjunctionTail.result_eq _ _) (.inl h₁)
  | conjunctionTail left =>
    rw [reading, plan]
    refine isLoop_conjunctionTail.follows _ (fun _ h₁ => ?_) fun left _ _ h₂ => ?_
    · exact follows_ask_below .condition h₁
    · exact follows_ask (.conjunctionTail left) (isLoop_conjunctionTail.result_eq _ _) (.inl h₂)
  | source =>
    rw [reading, Cursor.source, plan]
    refine .andThen (follows_ask_tighter .sourceConjunction (by decide)) fun left _ h₁ => ?_
    exact follows_ask (.sourceDisjunctionTail left) (isLoop_sourceDisjunctionTail.result_eq _ _)
      (.inl h₁)
  | sourceDisjunctionTail left =>
    rw [reading, plan]
    refine isLoop_sourceDisjunctionTail.follows _ (fun _ h₁ => ?_) fun left _ _ h₂ => ?_
    · exact follows_ask_below .sourceConjunction h₁
    · exact follows_ask (.sourceDisjunctionTail left) (isLoop_sourceDisjunctionTail.result_eq _ _)
        (.inl h₂)
  | sourceConjunction =>
    rw [reading, Cursor.sourceConjunction, plan]
    refine .andThen (follows_ask_tighter .sourceOperand (by decide)) fun left _ h₁ => ?_
    exact follows_ask (.sourceConjunctionTail left) (isLoop_sourceConjunctionTail.result_eq _ _)
      (.inl h₁)
  | sourceConjunctionTail left =>
    rw [reading, plan]
    refine isLoop_sourceConjunctionTail.follows _ (fun _ h₁ => ?_) fun left _ _ h₂ => ?_
    · exact follows_ask_below .sourceOperand h₁
    · exact follows_ask (.sourceConjunctionTail left) (isLoop_sourceConjunctionTail.result_eq _ _)
        (.inl h₂)

end Reader

end Notebook.Query
