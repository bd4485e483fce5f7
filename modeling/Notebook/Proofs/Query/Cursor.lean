import Notebook.Query.Reading
import Notebook.Proofs.Query.Grammar

/-!
# What each step of reading gives

The readers of `Notebook.Query.Cursor` are recursive functions whose results carry bounds. This
file says of each one, in one equivalence, what it gives: `Notebook.Query.Reading.Gives` is a
result with its bound forgotten, `Notebook.Query.Cursor.Steps` is one token read without a problem,
and the statement about a reader names its steps in order. Soundness and completeness argue from
these statements and never open a reader again.
-/

namespace Notebook.Query

/-! ### Single tokens -/

namespace Token

theorem literal?_eq_some_iff {t : Token} {value : Literal} :
    t.literal? = some value ↔ value.Spelled t := by
  constructor
  · intro h
    cases t <;> cases h <;> constructor
  · rintro ⟨⟩ <;> rfl

theorem comparison?_eq_some_iff {t : Token} {operator : Comparison} :
    t.comparison? = some operator ↔ operator.Spelled t := by
  constructor
  · intro h
    cases t <;> cases h <;> constructor
  · rintro ⟨⟩ <;> rfl

theorem givenName?_eq_some_iff {t : Token} {name : String} :
    t.givenName? = some name ↔ NameSpelled t name := by
  constructor
  · intro h
    cases t <;> cases h <;> constructor
  · rintro ⟨⟩ <;> rfl

theorem form?_eq_some_iff {t : Token} {form : Form} : t.form? = some form ↔ form.Spelled t := by
  constructor
  · intro h
    unfold form? at h
    split at h <;> cases h <;> constructor
  · rintro ⟨⟩ <;> rfl

end Token

/-! ### Results without their bounds -/

namespace Reading

variable {α β : Type} {m n : Nat}

/-- A reading **gives** a value and the cursor after it. -/
def Gives (reading : Reading α n) (value : α) (c : Cursor) : Prop :=
  reading.result = (.ok value, c)

/-- What is given leaves less than the bound. -/
theorem Gives.size_lt {reading : Reading α n} {value : α} {c : Cursor}
    (h : reading.Gives value c) : c.size < n := by
  cases reading with
  | ok v next shrinks =>
    cases h
    exact shrinks
  | error e stopped => cases h

@[simp] theorem gives_ok {v value : α} {next c : Cursor} {shrinks : next.size < n} :
    (ok v next shrinks).Gives value c ↔ value = v ∧ c = next := by
  simp [Gives, result, eq_comm]

@[simp] theorem not_gives_error {e : SyntaxError} {stopped c : Cursor} {value : α} :
    ¬(error e stopped : Reading α n).Gives value c := by
  simp [Gives, result]

/-- **One reading and then another one** gives what the second one gives after the first. -/
theorem gives_andThen {reading : Reading α m}
    {continuation : (value : α) → (c : Cursor) → c.size < m → Reading β n} {b : β} {c : Cursor} :
    (reading.andThen continuation).Gives b c ↔
      ∃ a c₁, ∃ h : reading.Gives a c₁, (continuation a c₁ h.size_lt).Gives b c := by
  cases reading with
  | ok v next shrinks =>
    constructor
    · intro h
      exact ⟨v, next, gives_ok.mpr ⟨rfl, rfl⟩, h⟩
    · rintro ⟨a, c₁, h, hb⟩
      obtain ⟨rfl, rfl⟩ := gives_ok.mp h
      exact hb
  | error e stopped =>
    constructor
    · intro h
      exact absurd h not_gives_error
    · rintro ⟨a, c₁, h, -⟩
      exact absurd h not_gives_error

theorem gives_map {reading : Reading α n} {f : α → β} {b : β} {c : Cursor} :
    (reading.map f).Gives b c ↔ ∃ a, reading.Gives a c ∧ b = f a := by
  cases reading with
  | ok v next shrinks =>
    simp only [map, gives_ok]
    constructor
    · rintro ⟨rfl, rfl⟩
      exact ⟨v, ⟨rfl, rfl⟩, rfl⟩
    · rintro ⟨a, ⟨rfl, rfl⟩, rfl⟩
      exact ⟨rfl, rfl⟩
  | error e stopped => simp [map]

end Reading

/-! ### One token -/

namespace Cursor

/-- **One step**: the token is not the end, and the one after it is read without a problem. -/
def Steps (c c' : Cursor) : Prop :=
  c.token ≠ .endOfInput ∧ c.lexer.next = (.ok c'.current, c'.lexer)

theorem Steps.unique {c c₁ c₂ : Cursor} (h₁ : c.Steps c₁) (h₂ : c.Steps c₂) : c₁ = c₂ := by
  have h := h₁.2.symm.trans h₂.2
  obtain ⟨lexer₁, current₁⟩ := c₁
  obtain ⟨lexer₂, current₂⟩ := c₂
  simp_all

theorem Steps.size_lt {c c' : Cursor} (h : c.Steps c') : c'.size < c.size :=
  size_next_lt h.1 h.2

theorem gives_advance {c : Cursor} {hc : c.token ≠ .endOfInput} {stopped c' : Cursor} {u : Unit} :
    (c.advance hc stopped).Gives u c' ↔ c.Steps c' := by
  unfold advance
  split
  · next lexeme lexer heq =>
    rw [Reading.gives_ok, Steps, heq]
    constructor
    · rintro ⟨-, rfl⟩
      exact ⟨hc, rfl⟩
    · rintro ⟨-, h⟩
      obtain ⟨rfl, rfl⟩ : lexeme = c'.current ∧ lexer = c'.lexer := by simpa using h
      exact ⟨rfl, rfl⟩
  · next e lexer heq => simp [Steps, heq]

theorem gives_pass {c : Cursor} {hc : c.token ≠ .endOfInput} {c' : Cursor} {u : Unit} :
    (c.pass hc).Gives u c' ↔ c.Steps c' := gives_advance

theorem gives_take {c : Cursor} {hc : c.token ≠ .endOfInput} {c' : Cursor} {u : Unit} :
    (c.take hc).Gives u c' ↔ c.Steps c' := gives_advance

theorem gives_expect {c : Cursor} {t : Token} {name : String} {ht : t ≠ .endOfInput} {c' : Cursor}
    {u : Unit} : (c.expect t name ht).Gives u c' ↔ c.token = t ∧ c.Steps c' := by
  unfold expect
  split
  · next h => simp [gives_pass, h]
  · next h => simp [h]

/-! ### Two shapes of readers -/

section Shapes

variable {α β : Type} {n : Nat} {c c' : Cursor} {hc : c.token ≠ .endOfInput}
  {item : (c : Cursor) → Reading α c.size}

/-- **A token and then an item**: the token is passed, and the value is made of the item. -/
theorem gives_prefixed {make : α → β} {value : β}
    {h : ∀ c₁ : Cursor, c₁.size < c.size → ∀ c₂ : Cursor, c₂.size < c₁.size → c₂.size < n} :
    ((c.pass hc).andThen fun _ c₁ h₁ =>
      (item c₁).andThen fun x c₂ h₂ => Reading.ok (make x) c₂ (h c₁ h₁ c₂ h₂)).Gives value c' ↔
      ∃ c₁ x, c.Steps c₁ ∧ (item c₁).Gives x c' ∧ value = make x := by
  constructor
  · intro hg
    obtain ⟨_, c₁, h₁, hg⟩ := Reading.gives_andThen.mp hg
    obtain ⟨x, c₂, h₂, hg⟩ := Reading.gives_andThen.mp hg
    obtain ⟨rfl, rfl⟩ := Reading.gives_ok.mp hg
    exact ⟨c₁, x, gives_pass.mp h₁, h₂, rfl⟩
  · rintro ⟨c₁, x, h₁, h₂, rfl⟩
    exact Reading.gives_andThen.mpr ⟨(), c₁, gives_pass.mpr h₁,
      Reading.gives_andThen.mpr ⟨x, c', h₂, Reading.gives_ok.mpr ⟨rfl, rfl⟩⟩⟩

/-- **An item in parentheses**: the opening one is taken, and the closing one has to be there. -/
theorem gives_parenthesized {name : String} {value : α} {hp : Token.closeParen ≠ .endOfInput}
    {h : ∀ c₁ : Cursor, c₁.size < c.size → ∀ c₂ : Cursor, c₂.size < c₁.size →
      ∀ c₃ : Cursor, c₃.size < c₂.size → c₃.size < n} :
    ((c.take hc).andThen fun _ c₁ h₁ => (item c₁).andThen fun x c₂ h₂ =>
      (c₂.expect .closeParen name hp).andThen fun _ c₃ h₃ =>
        Reading.ok x c₃ (h c₁ h₁ c₂ h₂ c₃ h₃)).Gives value c' ↔
      ∃ c₁ c₂, c.Steps c₁ ∧ (item c₁).Gives value c₂ ∧ c₂.token = .closeParen ∧ c₂.Steps c' := by
  constructor
  · intro hg
    obtain ⟨_, c₁, h₁, hg⟩ := Reading.gives_andThen.mp hg
    obtain ⟨x, c₂, h₂, hg⟩ := Reading.gives_andThen.mp hg
    obtain ⟨_, c₃, h₃, hg⟩ := Reading.gives_andThen.mp hg
    obtain ⟨rfl, rfl⟩ := Reading.gives_ok.mp hg
    obtain ⟨hclose, h₃⟩ := gives_expect.mp h₃
    exact ⟨c₁, c₂, gives_take.mp h₁, h₂, hclose, h₃⟩
  · rintro ⟨c₁, c₂, h₁, h₂, hclose, h₃⟩
    exact Reading.gives_andThen.mpr ⟨(), c₁, gives_take.mpr h₁,
      Reading.gives_andThen.mpr ⟨value, c₂, h₂, Reading.gives_andThen.mpr
        ⟨(), c', gives_expect.mpr ⟨hclose, h₃⟩, Reading.gives_ok.mpr ⟨rfl, rfl⟩⟩⟩⟩

end Shapes

/-! ### Chains of a connective -/

/-- **A tail extends a chain**: as long as the word of the connective follows, one more item is read
and joined to what is there, and then the tail goes on. -/
def Extends {α : Type} {n : Nat} (word : Keyword) (item : (c : Cursor) → Reading α c.size)
    (join : α → α → α) (tail : α → (c : Cursor) → c.size < n → Reading α n) : Prop :=
  ∀ (left : α) (c : Cursor) (h : c.size < n) (value : α) (c' : Cursor),
    (tail left c h).Gives value c' ↔
      (c.token = .keyword word ∧ ∃ c₁ right c₂, c.Steps c₁ ∧ (item c₁).Gives right c₂ ∧
        ∃ h₂, (tail (join left right) c₂ h₂).Gives value c') ∨
      (c.token ≠ .keyword word ∧ value = left ∧ c' = c)

theorem ne_endOfInput_of_keyword {t : Token} {word : Keyword} (h : t = .keyword word) :
    t ≠ .endOfInput := by
  rintro rfl
  cases h

theorem ne_endOfInput_of_comma {t : Token} (h : t = .comma) : t ≠ .endOfInput := by
  rintro rfl
  cases h

theorem extends_of_eq {α : Type} {n : Nat} {word : Keyword}
    {item : (c : Cursor) → Reading α c.size} {join : α → α → α}
    {tail : α → (c : Cursor) → c.size < n → Reading α n}
    (h : ∀ left c hc, tail left c hc =
      if hk : c.token = .keyword word then
        (c.pass (ne_endOfInput_of_keyword hk)).andThen fun _ c₁ h₁ =>
          (item c₁).andThen fun right c₂ h₂ =>
            tail (join left right) c₂ (Nat.lt_trans h₂ (Nat.lt_trans h₁ hc))
      else .ok left c hc) :
    Extends word item join tail := by
  intro left c hc value c'
  rw [h]
  split
  · next hk =>
    constructor
    · intro hg
      obtain ⟨_, c₁, h₁, hg⟩ := Reading.gives_andThen.mp hg
      obtain ⟨right, c₂, h₂, hg⟩ := Reading.gives_andThen.mp hg
      exact Or.inl ⟨hk, c₁, right, c₂, gives_pass.mp h₁, h₂, _, hg⟩
    · rintro (⟨-, c₁, right, c₂, h₁, h₂, _, hg⟩ | ⟨hne, -⟩)
      · exact Reading.gives_andThen.mpr ⟨(), c₁, gives_pass.mpr h₁,
          Reading.gives_andThen.mpr ⟨right, c₂, h₂, hg⟩⟩
      · exact absurd hk hne
  · next hk => simp [hk]

variable {n : Nat}

theorem extends_disjunctionTail :
    Extends (n := n) .disjunction conjunction (.logical .disjunction) disjunctionTail :=
  extends_of_eq fun left c hc => by rw [disjunctionTail]

theorem extends_conjunctionTail :
    Extends (n := n) .conjunction condition (.logical .conjunction) conjunctionTail :=
  extends_of_eq fun left c hc => by rw [conjunctionTail]

theorem extends_sourceDisjunctionTail :
    Extends (n := n) .disjunction sourceConjunction .either sourceDisjunctionTail :=
  extends_of_eq fun left c hc => by rw [sourceDisjunctionTail]

theorem extends_sourceConjunctionTail :
    Extends (n := n) .conjunction sourceOperand .both sourceConjunctionTail :=
  extends_of_eq fun left c hc => by rw [sourceConjunctionTail]

/-! ### Expressions -/

theorem gives_expression {c c' : Cursor} {e : Expression} :
    (expression c).Gives e c' ↔ ∃ left c₁, ∃ h : (conjunction c).Gives left c₁,
      (disjunctionTail left c₁ h.size_lt).Gives e c' := by
  rw [expression, Reading.gives_andThen]

theorem gives_conjunction {c c' : Cursor} {e : Expression} :
    (conjunction c).Gives e c' ↔ ∃ left c₁, ∃ h : (condition c).Gives left c₁,
      (conjunctionTail left c₁ h.size_lt).Gives e c' := by
  rw [conjunction, Reading.gives_andThen]

theorem gives_condition {c c' : Cursor} {e : Expression} :
    (condition c).Gives e c' ↔
      ((c.token = .keyword .negation ∨ c.token = .bang) ∧ ∃ c₁ operand, c.Steps c₁ ∧
        (condition c₁).Gives operand c' ∧ e = .negation operand) ∨
      (¬(c.token = .keyword .negation ∨ c.token = .bang) ∧ (comparison c).Gives e c') := by
  rw [condition]
  split
  · next hk => simp only [gives_prefixed, hk, true_and, not_true, false_and, or_false]
  · next hk => simp [hk]

theorem gives_comparison {c c' : Cursor} {e : Expression} :
    (comparison c).Gives e c' ↔ ∃ left c₁, (operand c).Gives left c₁ ∧
      ((∃ operator c₂ right, c₁.token.comparison? = some operator ∧ c₁.Steps c₂ ∧
        (operand c₂).Gives right c' ∧ e = .comparison operator left right) ∨
      (c₁.token.comparison? = none ∧ e = left ∧ c' = c₁)) := by
  rw [comparison, Reading.gives_andThen]
  refine exists_congr fun left => exists_congr fun c₁ =>
    (exists_congr fun hleft => ?_).trans exists_prop
  split
  · next operator hc => simp [gives_prefixed, hc]
  · next hc => simp [hc]

theorem gives_pathTail {segments names : List String} {c c' : Cursor} {h : c.size < n} :
    (pathTail segments c h).Gives names c' ↔
      (c.token = .dot ∧ ∃ c₁ name c₂, c.Steps c₁ ∧ c₁.token = .identifier name ∧ c₁.Steps c₂ ∧
        ∃ h₂, (pathTail (n := n) (segments ++ [name]) c₂ h₂).Gives names c') ∨
      (c.token ≠ .dot ∧ names = segments ∧ c' = c) := by
  rw [pathTail]
  split
  · next hd =>
    constructor
    · intro hg
      obtain ⟨_, c₁, h₁, hg⟩ := Reading.gives_andThen.mp hg
      split at hg
      · next name ht =>
        obtain ⟨_, c₂, h₂, hg⟩ := Reading.gives_andThen.mp hg
        exact Or.inl ⟨hd, c₁, name, c₂, gives_pass.mp h₁, ht, gives_take.mp h₂, _, hg⟩
      · exact absurd hg Reading.not_gives_error
    · rintro (⟨-, c₁, name, c₂, h₁, ht, h₂, _, hg⟩ | ⟨hne, -⟩)
      · refine Reading.gives_andThen.mpr ⟨(), c₁, gives_pass.mpr h₁, ?_⟩
        split
        · next name' ht' =>
          obtain rfl : name = name' := by simpa [ht] using ht'
          exact Reading.gives_andThen.mpr ⟨(), c₂, gives_take.mpr h₂, hg⟩
        · next hne => exact absurd ht (hne name)
      · exact absurd hd hne
  · next hd => simp [hd]

theorem gives_fieldPath {name : String} {c c' : Cursor} {e : Expression} {h : c.size < n} :
    (fieldPath name c h).Gives e c' ↔ ∃ segments, (pathTail [name] c h).Gives segments c' ∧
      c'.token ≠ .openParen ∧ e = .field ⟨segments⟩ := by
  rw [fieldPath, Reading.gives_andThen]
  refine exists_congr fun segments => ?_
  constructor
  · rintro ⟨c₁, h₁, hg⟩
    split at hg
    · exact absurd hg Reading.not_gives_error
    · next hp =>
      obtain ⟨rfl, rfl⟩ := Reading.gives_ok.mp hg
      exact ⟨h₁, hp, rfl⟩
  · rintro ⟨h₁, hp, rfl⟩
    refine ⟨c', h₁, ?_⟩
    rw [if_neg hp]
    exact Reading.gives_ok.mpr ⟨rfl, rfl⟩

/-- **What an operand is**: a literal, an expression in parentheses, a call, or a field path. -/
theorem gives_operand {c c' : Cursor} {e : Expression} :
    (operand c).Gives e c' ↔
      (∃ value, c.token.literal? = some value ∧ c.Steps c' ∧ e = .literal value) ∨
      (c.token = .openParen ∧ ∃ c₁ c₂, c.Steps c₁ ∧ (expression c₁).Gives e c₂ ∧
        c₂.token = .closeParen ∧ c₂.Steps c') ∨
      (∃ name c₁, c.token = .identifier name ∧ c.Steps c₁ ∧
        ((c₁.token = .openParen ∧ ∃ c₂ values, c₁.Steps c₂ ∧ (arguments c₂).Gives values c' ∧
          e = .call name values) ∨
        (c₁.token ≠ .openParen ∧ ∃ h, (fieldPath (n := c.size) name c₁ h).Gives e c'))) := by
  rw [operand]
  split
  · next value hl =>
    -- a token that stands for a literal is neither a parenthesis nor a name
    have hparen : c.token ≠ .openParen := by
      intro ht
      rw [ht] at hl
      cases hl
    have hname : ∀ name, c.token ≠ .identifier name := by
      intro name ht
      rw [ht] at hl
      cases hl
    simp [Reading.gives_map, gives_take, hl, hparen, hname]
  · next hl =>
    split
    · next ht =>
      rw [gives_parenthesized]
      constructor
      · intro hg
        exact Or.inr (Or.inl ⟨ht, hg⟩)
      · rintro (⟨value', hl', -⟩ | ⟨-, hg⟩ | ⟨name, c₁, hi, -⟩)
        · simp [hl] at hl'
        · exact hg
        · simp [ht] at hi
    · next name ht =>
      constructor
      · intro hg
        obtain ⟨_, c₁, h₁, hg⟩ := Reading.gives_andThen.mp hg
        refine Or.inr (Or.inr ⟨name, c₁, ht, gives_take.mp h₁, ?_⟩)
        split at hg
        · next hp => exact Or.inl ⟨hp, gives_prefixed.mp hg⟩
        · next hp => exact Or.inr ⟨hp, _, hg⟩
      · rintro (⟨value', hl', -⟩ | ⟨hp, -⟩ | ⟨name', c₁, hi, h₁, hcall⟩)
        · simp [hl] at hl'
        · simp [ht] at hp
        · obtain rfl : name = name' := by simpa [ht] using hi
          refine Reading.gives_andThen.mpr ⟨(), c₁, gives_take.mpr h₁, ?_⟩
          rcases hcall with ⟨hp, hcall⟩ | ⟨hp, _, hf⟩
          · rw [dif_pos hp]
            exact gives_prefixed.mpr hcall
          · rw [dif_neg hp]
            exact hf
    · next hp hi =>
      simp only [Reading.not_gives_error, false_iff, not_or, not_exists]
      refine ⟨fun value h => by simp [hl] at h, fun h => hp h.1, fun name c₁ h => hi name h.1⟩

theorem gives_arguments {c c' : Cursor} {values : List Expression} :
    (arguments c).Gives values c' ↔
      (c.token = .closeParen ∧ c.Steps c' ∧ values = []) ∨
      (c.token ≠ .closeParen ∧ (argumentList c).Gives values c') := by
  rw [arguments]
  split
  · next hp => simp [Reading.gives_map, gives_pass, hp]
  · next hp => simp [hp]

/-! ### Lists with commas -/

/-- **Lists of items with commas between them**: one item, and then a comma and the other items, or
a stop. -/
def Lists {α : Type} (Item : Cursor → α → Cursor → Prop) (Stop : Cursor → Cursor → Prop)
    (All : Cursor → List α → Cursor → Prop) : Prop :=
  ∀ (c : Cursor) (xs : List α) (c' : Cursor), All c xs c' ↔ ∃ x c₁, Item c x c₁ ∧
    ((c₁.token = .comma ∧ ∃ c₂ others, c₁.Steps c₂ ∧ All c₂ others c' ∧ xs = x :: others) ∨
    (Stop c₁ c' ∧ xs = [x]))

/-- Arguments stop with a closing parenthesis, which is passed. -/
theorem lists_argumentList : Lists (fun c e c' => (expression c).Gives e c')
    (fun c c' => c.token = .closeParen ∧ c.Steps c')
    (fun c values c' => (argumentList c).Gives values c') := by
  intro c values c'
  dsimp only
  rw [argumentList, Reading.gives_andThen]
  refine exists_congr fun value => exists_congr fun c₁ =>
    (exists_congr fun h => ?_).trans exists_prop
  split
  · next hc => simp [gives_prefixed, hc]
  · next hc => simp [Reading.gives_andThen, gives_expect, hc, and_comm, and_left_comm]

/-- An expression and what may come after it are one item of a list without brackets. -/
theorem lists_of_eq {α β : Type} (extra : {n : Nat} → (c : Cursor) → c.size < n → Reading β n)
    (make : Expression → β → α) {list : (c : Cursor) → Reading (List α) c.size}
    (h : ∀ c, list c = (expression c).andThen fun e c₁ h₁ =>
      (extra c₁ h₁).andThen fun x c₂ h₂ =>
        if hc : c₂.token = .comma then
          (c₂.pass (ne_endOfInput_of_comma hc)).andThen fun _ c₃ h₃ =>
            (list c₃).andThen fun others c₄ h₄ => .ok (make e x :: others) c₄
              (Nat.lt_trans h₄ (Nat.lt_trans h₃ h₂))
        else .ok [make e x] c₂ h₂) :
    Lists (fun c y c' => ∃ e x c₁, ∃ h₁ : (expression c).Gives e c₁,
        (extra c₁ h₁.size_lt).Gives x c' ∧ y = make e x)
      (fun c c' => c.token ≠ .comma ∧ c' = c) (fun c xs c' => (list c).Gives xs c') := by
  intro c xs c'
  dsimp only
  rw [h, Reading.gives_andThen]
  constructor
  · rintro ⟨e, c₁, h₁, hg⟩
    obtain ⟨x, c₂, h₂, hg⟩ := Reading.gives_andThen.mp hg
    refine ⟨make e x, c₂, ⟨e, x, c₁, h₁, h₂, rfl⟩, ?_⟩
    split at hg
    · next hc =>
      obtain ⟨c₃, others, h₃, h₄, rfl⟩ := gives_prefixed.mp hg
      exact Or.inl ⟨hc, c₃, others, h₃, h₄, rfl⟩
    · next hc =>
      obtain ⟨rfl, rfl⟩ := Reading.gives_ok.mp hg
      exact Or.inr ⟨⟨hc, rfl⟩, rfl⟩
  · rintro ⟨y, c₂, ⟨e, x, c₁, h₁, h₂, rfl⟩, hrest⟩
    refine ⟨e, c₁, h₁, Reading.gives_andThen.mpr ⟨x, c₂, h₂, ?_⟩⟩
    rcases hrest with ⟨hc, c₃, others, h₃, h₄, rfl⟩ | ⟨⟨hc, rfl⟩, rfl⟩
    · rw [dif_pos hc]
      exact gives_prefixed.mpr ⟨c₃, others, h₃, h₄, rfl⟩
    · rw [dif_neg hc]
      exact Reading.gives_ok.mpr ⟨rfl, rfl⟩

theorem gives_givenName {c c' : Cursor} {name : Option String} {h : c.size < n} :
    (givenName c h).Gives name c' ↔
      (c.token = .keyword .naming ∧ ∃ c₁ s, c.Steps c₁ ∧ c₁.token.givenName? = some s ∧
        c₁.Steps c' ∧ name = some s) ∨
      (c.token ≠ .keyword .naming ∧ name = none ∧ c' = c) := by
  rw [givenName]
  split
  · next hk =>
    constructor
    · intro hg
      obtain ⟨_, c₁, h₁, hg⟩ := Reading.gives_andThen.mp hg
      split at hg
      · next s ha =>
        obtain ⟨_, c₂, h₂, hg⟩ := Reading.gives_andThen.mp hg
        obtain ⟨rfl, rfl⟩ := Reading.gives_ok.mp hg
        exact Or.inl ⟨hk, c₁, s, gives_pass.mp h₁, ha, gives_take.mp h₂, rfl⟩
      · exact absurd hg Reading.not_gives_error
    · rintro (⟨-, c₁, s, h₁, ha, h₂, rfl⟩ | ⟨hne, -⟩)
      · refine Reading.gives_andThen.mpr ⟨(), c₁, gives_pass.mpr h₁, ?_⟩
        split
        · next s' ha' =>
          obtain rfl : s = s' := by simpa [ha] using ha'
          exact Reading.gives_andThen.mpr ⟨(), c', gives_take.mpr h₂,
            Reading.gives_ok.mpr ⟨rfl, rfl⟩⟩
        · next hn => simp [ha] at hn
      · exact absurd hk hne
  · next hk => simp [hk]

theorem lists_columns : Lists
    (fun c column c' => ∃ e name c₁, ∃ h : (expression c).Gives e c₁,
      (givenName c₁ h.size_lt).Gives name c' ∧ column = ⟨e, name⟩)
    (fun c c' => c.token ≠ .comma ∧ c' = c) (fun c cs c' => (columns c).Gives cs c') :=
  lists_of_eq givenName Column.mk fun c => by rw [columns]

theorem gives_direction {c c' : Cursor} {d : Direction} {h : c.size < n} :
    (direction c h).Gives d c' ↔
      (c.token = .keyword .ascending ∧ c.Steps c' ∧ d = .ascending) ∨
      (c.token = .keyword .descending ∧ c.Steps c' ∧ d = .descending) ∨
      (c.token ≠ .keyword .ascending ∧ c.token ≠ .keyword .descending ∧ d = .ascending ∧
        c' = c) := by
  rw [direction]
  split
  · next hk => simp [Reading.gives_andThen, gives_pass, hk, and_comm]
  · next hk =>
    split
    · next hk' => simp [Reading.gives_andThen, gives_pass, hk', and_comm]
    · next hk' => simp [hk, hk']

theorem lists_sortKeys : Lists
    (fun c key c' => ∃ e d c₁, ∃ h : (expression c).Gives e c₁,
      (direction c₁ h.size_lt).Gives d c' ∧ key = ⟨e, d⟩)
    (fun c c' => c.token ≠ .comma ∧ c' = c) (fun c keys c' => (sortKeys c).Gives keys c') :=
  lists_of_eq direction SortKey.mk fun c => by rw [sortKeys]

/-! ### Sources -/

theorem gives_source {c c' : Cursor} {s : Source} :
    (source c).Gives s c' ↔ ∃ left c₁, ∃ h : (sourceConjunction c).Gives left c₁,
      (sourceDisjunctionTail left c₁ h.size_lt).Gives s c' := by
  rw [source, Reading.gives_andThen]

theorem gives_sourceConjunction {c c' : Cursor} {s : Source} :
    (sourceConjunction c).Gives s c' ↔ ∃ left c₁, ∃ h : (sourceOperand c).Gives left c₁,
      (sourceConjunctionTail left c₁ h.size_lt).Gives s c' := by
  rw [sourceConjunction, Reading.gives_andThen]

theorem gives_negatedSource {c c' : Cursor} {s : Source} {hc : c.token ≠ .endOfInput} :
    (negatedSource c hc).Gives s c' ↔
      ∃ c₁ inner, c.Steps c₁ ∧ (sourceOperand c₁).Gives inner c' ∧ s = .other inner := by
  rw [negatedSource]
  exact gives_prefixed

/-- The folder that a text in quotes names. -/
def folderOf (path : String) : String :=
  String.ofList (Text.dropEndWhile (· == '/') path.toList)

/-- **What a source operand is**: a negation, a folder, a tag, a link, or a source in parentheses.
-/
theorem gives_sourceOperand {c c' : Cursor} {s : Source} :
    (sourceOperand c).Gives s c' ↔
      ((c.token = .minus ∨ c.token = .keyword .negation) ∧ ∃ c₁ inner, c.Steps c₁ ∧
        (sourceOperand c₁).Gives inner c' ∧ s = .other inner) ∨
      (∃ path, c.token = .string path ∧ c.Steps c' ∧ s = .folder (folderOf path)) ∨
      (∃ name, c.token = .tag name ∧ c.Steps c' ∧ s = .tag name) ∨
      (∃ target, c.token = .link target ∧ c.Steps c' ∧ s = .link target) ∨
      (c.token = .openParen ∧ ∃ c₁ c₂, c.Steps c₁ ∧ (source c₁).Gives s c₂ ∧
        c₂.token = .closeParen ∧ c₂.Steps c') := by
  rw [sourceOperand]
  split
  · next ht => simp [gives_negatedSource, ht]
  · next ht => simp [gives_negatedSource, ht]
  · next path ht => simp [Reading.gives_map, gives_take, ht, folderOf]
  · next name ht => simp [Reading.gives_map, gives_take, ht]
  · next target ht => simp [Reading.gives_map, gives_take, ht]
  · next ht => simp [gives_parenthesized, ht]
  · next hminus hneg hstring htag hlink hparen =>
    simp only [Reading.not_gives_error, false_iff, not_or, not_exists]
    exact ⟨fun h => h.1.elim hminus hneg, fun path h => hstring path h.1,
      fun name h => htag name h.1, fun target h => hlink target h.1, fun h => hparen h.1⟩

/-! ### Queries -/

theorem gives_limitNumber {c c' : Cursor} {limit : Nat} :
    (limitNumber c).Gives limit c' ↔
      ∃ n : Int64, c.token = .integer n ∧ 0 < n ∧ c.Steps c' ∧ limit = n.toNatClampNeg := by
  rw [limitNumber]
  split
  · next n ht =>
    split
    · next hn => simp [Reading.gives_map, gives_pass, ht, hn]
    · next hn => simp [ht, hn]
  · next hne =>
    simp only [Reading.not_gives_error, false_iff, not_exists]
    exact fun n h => hne n h.1

theorem gives_clause {α : Type} {word : Keyword} {read : (c : Cursor) → Reading α c.size}
    {c c' : Cursor} {value : Option α} {h : c.size < n} :
    (clause word read c h).Gives value c' ↔
      (c.token = .keyword word ∧ ∃ c₁ x, c.Steps c₁ ∧ (read c₁).Gives x c' ∧ value = some x) ∨
      (c.token ≠ .keyword word ∧ value = none ∧ c' = c) := by
  rw [clause]
  split
  · next hk => simp [gives_prefixed, hk]
  · next hk => simp [hk]

theorem gives_formColumns {form : Form} {c c' : Cursor} {cs : List Column} {h : c.size < n} :
    (formColumns form c h).Gives cs c' ↔
      (c.token.endsColumns = true ∧ cs = [] ∧ c' = c) ∨
      (c.token.endsColumns = false ∧ form = .table ∧ (columns c).Gives cs c') := by
  rw [formColumns]
  split
  · next he => simp [he]
  · next he =>
    split
    · next hf => simp [Reading.gives_andThen, he, hf]
    · next hf => simp [he, hf]

/-- **What a query is**: a form and then, each at the cursor after the one before, columns, a
source, a condition, sort keys and a limit, up to the end. -/
theorem gives_query {c c' : Cursor} {q : Query} :
    (query c).Gives q c' ↔ ∃ form columns source condition sort limit c₁ c₂ c₃ c₄ c₅,
      ∃ h₁ : c₁.size < c.size, ∃ h₂ : c₂.size < c.size, ∃ h₃ : c₃.size < c.size,
      ∃ h₄ : c₄.size < c.size, ∃ h₅ : c₅.size < c.size,
      c.token.form? = some form ∧ c.Steps c₁ ∧
      (formColumns form c₁ h₁).Gives columns c₂ ∧
      (clause .source Cursor.source c₂ h₂).Gives source c₃ ∧
      (clause .condition expression c₃ h₃).Gives condition c₄ ∧
      (clause .sort sortKeys c₄ h₄).Gives sort c₅ ∧
      (clause .limit limitNumber c₅ h₅).Gives limit c' ∧
      c'.token = .endOfInput ∧ q = ⟨form, columns, source, condition, sort.getD [], limit⟩ := by
  rw [query]
  split
  · next hf =>
    constructor
    · intro hg
      split at hg <;> exact absurd hg Reading.not_gives_error
    · rintro ⟨form, _, _, _, _, _, _, _, _, _, _, _, _, _, _, _, hf', -⟩
      simp [hf] at hf'
  · next form hf =>
    constructor
    · intro hg
      obtain ⟨_, c₁, h₁, hg⟩ := Reading.gives_andThen.mp hg
      obtain ⟨columns, c₂, h₂, hg⟩ := Reading.gives_andThen.mp hg
      obtain ⟨source, c₃, h₃, hg⟩ := Reading.gives_andThen.mp hg
      obtain ⟨condition, c₄, h₄, hg⟩ := Reading.gives_andThen.mp hg
      obtain ⟨sort, c₅, h₅, hg⟩ := Reading.gives_andThen.mp hg
      obtain ⟨limit, c₆, h₆, hg⟩ := Reading.gives_andThen.mp hg
      split at hg
      · next he =>
        obtain ⟨rfl, rfl⟩ := Reading.gives_ok.mp hg
        exact ⟨form, columns, source, condition, sort, limit, c₁, c₂, c₃, c₄, c₅, _, _, _, _, _,
          hf, gives_pass.mp h₁, h₂, h₃, h₄, h₅, h₆, he, rfl⟩
      · exact absurd hg Reading.not_gives_error
    · rintro ⟨form', columns, source, condition, sort, limit, c₁, c₂, c₃, c₄, c₅, _, _, _, _, _,
        hf', h₁, h₂, h₃, h₄, h₅, h₆, he, rfl⟩
      obtain rfl : form = form' := by simpa [hf] using hf'
      refine Reading.gives_andThen.mpr ⟨(), c₁, gives_pass.mpr h₁, ?_⟩
      refine Reading.gives_andThen.mpr ⟨columns, c₂, h₂, ?_⟩
      refine Reading.gives_andThen.mpr ⟨source, c₃, h₃, ?_⟩
      refine Reading.gives_andThen.mpr ⟨condition, c₄, h₄, ?_⟩
      refine Reading.gives_andThen.mpr ⟨sort, c₅, h₅, ?_⟩
      refine Reading.gives_andThen.mpr ⟨limit, c', h₆, ?_⟩
      rw [if_pos he]
      exact Reading.gives_ok.mpr ⟨rfl, rfl⟩

theorem gives_wholeExpression {c c' : Cursor} {e : Expression} :
    (wholeExpression c).Gives e c' ↔ (expression c).Gives e c' ∧ c'.token = .endOfInput := by
  rw [wholeExpression, Reading.gives_andThen]
  constructor
  · rintro ⟨e', c₁, h, hg⟩
    split at hg
    · next he =>
      obtain ⟨rfl, rfl⟩ := Reading.gives_ok.mp hg
      exact ⟨h, he⟩
    · exact absurd hg Reading.not_gives_error
  · rintro ⟨h, he⟩
    refine ⟨e, c', h, ?_⟩
    rw [if_pos he]
    exact Reading.gives_ok.mpr ⟨rfl, rfl⟩

end Cursor

end Notebook.Query
