import Notebook.Proofs.Query.Cursor

/-!
# Readers and their plans

The readers of `Notebook.Query.Cursor` call one another, and that they come to an end is built into
them: each one has a bound, and its definition is accepted because its calls keep it. Here the calls
are taken apart from the bounds. A `Notebook.Query.Reader` is the name of a reader, and its plan
(`Notebook.Query.Reader.plan`) is what it does at a cursor with the calls left open: a
`Notebook.Query.Plan` is a value, an error, or a call and what is done with its answer.

A plan is carried out with answers to its calls (`Notebook.Query.Plan.run`). Nothing about plans
keeps a reader from calling itself at the same cursor over and over, and then no answers would be
found that way.
-/

namespace Notebook.Query

/-! ### Names of readers -/

/-- **The readers that call one another**; a loop is one too, with what it has read so far. -/
inductive Reader
  | query
  | columns
  | sortKeys
  | arguments
  | argumentList
  | expression
  | disjunctionTail (left : Expression)
  | conjunction
  | conjunctionTail (left : Expression)
  | condition
  | comparison
  | operand
  | pathTail (segments : List String)
  | source
  | sourceDisjunctionTail (left : Source)
  | sourceConjunction
  | sourceConjunctionTail (left : Source)
  | sourceOperand

namespace Reader

/-- What a reader gives. -/
@[reducible] def Value : Reader → Type
  | query => Query
  | columns => List Column
  | sortKeys => List SortKey
  | arguments | argumentList => List Expression
  | expression | disjunctionTail _ | conjunction | conjunctionTail _ => Expression
  | condition | comparison | operand => Expression
  | pathTail _ => List String
  | source | sourceDisjunctionTail _ | sourceConjunction | sourceConjunctionTail _ => Source
  | sourceOperand => Source

/-- The bound of a reader: a loop may leave all that there is, the other ones may not. -/
@[reducible] def bound (c : Cursor) : Reader → Nat
  | disjunctionTail _ | conjunctionTail _ | pathTail _ => c.size + 1
  | sourceDisjunctionTail _ | sourceConjunctionTail _ => c.size + 1
  | _ => c.size

/-- **The reader with a name.** -/
def reading (c : Cursor) : (r : Reader) → Reading r.Value (r.bound c)
  | query => c.query
  | columns => c.columns
  | sortKeys => c.sortKeys
  | arguments => c.arguments
  | argumentList => c.argumentList
  | expression => c.expression
  | disjunctionTail left => c.disjunctionTail left (Nat.lt_succ_self _)
  | conjunction => c.conjunction
  | conjunctionTail left => c.conjunctionTail left (Nat.lt_succ_self _)
  | condition => c.condition
  | comparison => c.comparison
  | operand => c.operand
  | pathTail segments => c.pathTail segments (Nat.lt_succ_self _)
  | source => c.source
  | sourceDisjunctionTail left => c.sourceDisjunctionTail left (Nat.lt_succ_self _)
  | sourceConjunction => c.sourceConjunction
  | sourceConjunctionTail left => c.sourceConjunctionTail left (Nat.lt_succ_self _)
  | sourceOperand => c.sourceOperand

end Reader

/-! ### Plans -/

/-- **What a reader does, with its calls left open.** -/
inductive Plan (α : Type)
  /-- A value, and the cursor after it. -/
  | done (value : α) (next : Cursor)
  /-- An error, and the cursor where reading stopped. -/
  | failed (e : SyntaxError) (stopped : Cursor)
  /-- A call of a reader at a cursor; what follows if it succeeds. -/
  | call (r : Reader) (c : Cursor) (after : r.Value → Cursor → Plan α)

/-- Answers to calls, where they are known. -/
def Answers : Type := (r : Reader) → Cursor → Option (Except SyntaxError r.Value × Cursor)

/-- **The answers of the readers.** -/
def Answers.actual : Answers := fun r c => some (r.reading c).result

namespace Plan

variable {α β : Type}

/-- One plan and then another one. -/
def andThen : Plan α → (α → Cursor → Plan β) → Plan β
  | done value next, continuation => continuation value next
  | failed e stopped, _ => failed e stopped
  | call r c after, continuation =>
    call r c fun value next => (after value next).andThen continuation

/-- A call, with its answer as it is. -/
def ask (r : Reader) (c : Cursor) : Plan r.Value := call r c done

/-- Goes on to the next token; on a problem the cursor is `stopped` with the lexer moved on. -/
def advance (c stopped : Cursor) : Plan Unit :=
  match c.lexer.next with
  | (.ok lexeme, lexer) => done () ⟨lexer, lexeme⟩
  | (.error e, lexer) => failed e (stopped.moved lexer)

/-- Passes the token. -/
def pass (c : Cursor) : Plan Unit := advance c c

/-- Takes the token. -/
def take (c : Cursor) : Plan Unit := advance c c.blank

/-- Passes a token that has to be there. -/
def expect (c : Cursor) (token : Token) (name : String) : Plan Unit :=
  if c.token = token then pass c else failed (c.unexpected [name]) c

/-- **Carries a plan out**, with what the calls are answered; there is no outcome when an answer is
not known. -/
def run (answers : Answers) : Plan α → Option (Except SyntaxError α × Cursor)
  | done value next => some (.ok value, next)
  | failed e stopped => some (.error e, stopped)
  | call r c after =>
    match answers r c with
    | some (.ok value, next) => (after value next).run answers
    | some (.error e, stopped) => some (.error e, stopped)
    | none => none

/-- **The calls of a plan**, when the readers answer them. -/
inductive Calls : Plan α → Reader → Cursor → Prop
  /-- The first call. -/
  | now {r : Reader} {c : Cursor} {after : r.Value → Cursor → Plan α} : Calls (call r c after) r c
  /-- A call after one that succeeds. -/
  | later {r r' : Reader} {c c' next : Cursor} {after : r.Value → Cursor → Plan α}
      {value : r.Value} :
    (r.reading c).Gives value next → Calls (after value next) r' c' → Calls (call r c after) r' c'

end Plan

/-! ### The plans of the readers -/

namespace Plan

variable {α β : Type}

/-- The loop of a connective: as long as its word follows, an item is read and joined to what there
is. -/
def chain (word : Keyword) (item : Cursor → Plan α) (join : α → α → α)
    (loop : α → Cursor → Plan α) (left : α) (c : Cursor) : Plan α :=
  if c.token = .keyword word then
    (pass c).andThen fun _ c₁ => (item c₁).andThen fun right c₂ => loop (join left right) c₂
  else done left c

/-- Something in parentheses. -/
def parenthesized (item : Cursor → Plan α) (c : Cursor) : Plan α :=
  (take c).andThen fun _ c₁ => (item c₁).andThen fun x c₂ =>
    (expect c₂ .closeParen "')'").andThen fun _ c₃ => done x c₃

/-- A sign or a word, and then an item that it changes. -/
def prefixed (item : Cursor → Plan α) (make : α → β) (c : Cursor) : Plan β :=
  (pass c).andThen fun _ c₁ => (item c₁).andThen fun x c₂ => done (make x) c₂

/-- A clause after its first word, if the word is there. -/
def clause (word : Keyword) (item : Cursor → Plan α) (c : Cursor) : Plan (Option α) :=
  if c.token = .keyword word then prefixed item some c else done none c

/-- A name for a column, if there is one. -/
def givenName (c : Cursor) : Plan (Option String) :=
  if c.token = .keyword .naming then
    (pass c).andThen fun _ c₁ =>
      match c₁.token.givenName? with
      | some name => (take c₁).andThen fun _ c₂ => done (some name) c₂
      | none => failed (c₁.unexpected ["alias"]) c₁
  else done none c

/-- A direction, if there is one. -/
def direction (c : Cursor) : Plan Direction :=
  if c.token = .keyword .ascending then (pass c).andThen fun _ c₁ => done .ascending c₁
  else if c.token = .keyword .descending then (pass c).andThen fun _ c₁ => done .descending c₁
  else done .ascending c

/-- Items with commas between them, each with what may come after it. -/
def listed (extra : Cursor → Plan α) (make : Expression → α → β)
    (others : Cursor → Plan (List β)) (c : Cursor) : Plan (List β) :=
  (ask .expression c).andThen fun e c₁ => (extra c₁).andThen fun x c₂ =>
    if c₂.token = .comma then prefixed others (make e x :: ·) c₂ else done [make e x] c₂

/-- The number of a limit. -/
def limitNumber (c : Cursor) : Plan Nat :=
  match c.token with
  | .integer n =>
    if 0 < n then (pass c).andThen fun _ c₁ => done n.toNatClampNeg c₁
    else failed (c.unexpected ["positive integer"]) c
  | _ => failed (c.unexpected ["positive integer"]) c

/-- The columns of a query of a form. -/
def formColumns (form : Form) (c : Cursor) : Plan (List Column) :=
  if c.token.endsColumns then done [] c
  else if form = .table then ask .columns c
  else failed ⟨.unwantedFields form.text c.token, c.current.position⟩ c

/-- A field path after its first segment. -/
def fieldPath (name : String) (c : Cursor) : Plan Expression :=
  (ask (.pathTail [name]) c).andThen fun segments c₁ =>
    if c₁.token = .openParen then
      failed ⟨.qualifiedCall (FieldPath.text ⟨segments⟩), c₁.current.position⟩ c₁
    else done (.field ⟨segments⟩) c₁

end Plan

namespace Reader

open Plan

/-- **The plan of a reader** at a cursor. -/
def plan (c : Cursor) : (r : Reader) → Plan r.Value
  | query =>
    match c.token.form? with
    | none =>
      if c.token = .keyword .calendar then failed ⟨.calendar, c.current.position⟩ c
      else failed (c.unexpected ["TABLE", "LIST", "TASK"]) c
    | some form =>
      (pass c).andThen fun _ c₁ =>
      (formColumns form c₁).andThen fun columns c₂ =>
      (clause .source (ask source) c₂).andThen fun source c₃ =>
      (clause .condition (ask expression) c₃).andThen fun condition c₄ =>
      (clause .sort (ask sortKeys) c₄).andThen fun sort c₅ =>
      (clause .limit limitNumber c₅).andThen fun limit c₆ =>
        if c₆.token = .endOfInput then
          done ⟨form, columns, source, condition, sort.getD [], limit⟩ c₆
        else failed (c₆.unexpected ["end of query"]) c₆
  | columns => listed givenName Column.mk (ask columns) c
  | sortKeys => listed direction SortKey.mk (ask sortKeys) c
  | arguments =>
    if c.token = .closeParen then (pass c).andThen fun _ c₁ => done [] c₁ else ask argumentList c
  | argumentList =>
    (ask expression c).andThen fun value c₁ =>
      if c₁.token = .comma then prefixed (ask argumentList) (value :: ·) c₁
      else (expect c₁ .closeParen "')'").andThen fun _ c₂ => done [value] c₂
  | expression => (ask conjunction c).andThen fun left c₁ => ask (disjunctionTail left) c₁
  | disjunctionTail left =>
    chain .disjunction (ask conjunction) (.logical .disjunction) (fun e => ask (disjunctionTail e))
      left c
  | conjunction => (ask condition c).andThen fun left c₁ => ask (conjunctionTail left) c₁
  | conjunctionTail left =>
    chain .conjunction (ask condition) (.logical .conjunction) (fun e => ask (conjunctionTail e))
      left c
  | condition =>
    if c.token = .keyword .negation ∨ c.token = .bang then prefixed (ask condition) .negation c
    else ask comparison c
  | comparison =>
    (ask operand c).andThen fun left c₁ =>
      match c₁.token.comparison? with
      | some operator => prefixed (ask operand) (.comparison operator left) c₁
      | none => done left c₁
  | operand =>
    match c.token.literal? with
    | some value => (take c).andThen fun _ c₁ => done (.literal value) c₁
    | none =>
      match c.token with
      | .openParen => parenthesized (ask expression) c
      | .identifier name =>
        (take c).andThen fun _ c₁ =>
          if c₁.token = .openParen then prefixed (ask arguments) (.call name) c₁
          else fieldPath name c₁
      | _ => failed (c.unexpected ["expression"]) c
  | pathTail segments =>
    if c.token = .dot then
      (pass c).andThen fun _ c₁ =>
        match c₁.token with
        | .identifier name =>
          (take c₁).andThen fun _ c₂ => ask (pathTail (segments ++ [name])) c₂
        | _ => failed (c₁.unexpected ["field name after '.'"]) c₁
    else done segments c
  | source => (ask sourceConjunction c).andThen fun left c₁ => ask (sourceDisjunctionTail left) c₁
  | sourceDisjunctionTail left =>
    chain .disjunction (ask sourceConjunction) .either (fun s => ask (sourceDisjunctionTail s)) left
      c
  | sourceConjunction =>
    (ask sourceOperand c).andThen fun left c₁ => ask (sourceConjunctionTail left) c₁
  | sourceConjunctionTail left =>
    chain .conjunction (ask sourceOperand) .both (fun s => ask (sourceConjunctionTail s)) left c
  | sourceOperand =>
    match c.token with
    | .minus => prefixed (ask sourceOperand) .other c
    | .keyword .negation => prefixed (ask sourceOperand) .other c
    | .string path => (take c).andThen fun _ c₁ => done (.folder (Cursor.folderOf path)) c₁
    | .tag name => (take c).andThen fun _ c₁ => done (.tag name) c₁
    | .link target => (take c).andThen fun _ c₁ => done (.link target) c₁
    | .openParen => parenthesized (ask source) c
    | _ => failed (c.unexpected ["folder string", "#tag", "[[link]]"]) c

end Reader

/-! ### Carrying out plans -/

namespace Plan

variable {α β : Type} {answers : Answers} {p : Plan α}

theorem run_andThen (continuation : α → Cursor → Plan β) :
    (p.andThen continuation).run answers =
      match p.run answers with
      | some (.ok value, next) => (continuation value next).run answers
      | some (.error e, stopped) => some (.error e, stopped)
      | none => none := by
  induction p with
  | done value next => rfl
  | failed e stopped => rfl
  | call r c after ih =>
    simp only [andThen, run]
    split
    · exact ih _ _
    · rfl
    · rfl

/-- **The calls of one plan and then another one** are those of the first, and those of the second
after what the first comes to. -/
theorem Calls.of_andThen {continuation : α → Cursor → Plan β} {r : Reader} {c : Cursor}
    (h : (p.andThen continuation).Calls r c) : p.Calls r c ∨ ∃ value next,
      p.run .actual = some (.ok value, next) ∧ (continuation value next).Calls r c := by
  induction p with
  | done value next => exact .inr ⟨value, next, rfl, h⟩
  | failed e stopped => cases h
  | call r₁ c₁ after ih =>
    cases h with
    | now => exact .inl .now
    | later hgives hcalls =>
      rcases ih _ _ hcalls with hfirst | ⟨value, next, hrun, hsecond⟩
      · exact .inl (.later hgives hfirst)
      · refine .inr ⟨value, next, ?_, hsecond⟩
        rw [run, Answers.actual, hgives]
        exact hrun

/-- A plan comes to the same when its calls are answered as the readers answer them. -/
theorem run_eq_of_calls (h : ∀ r c, p.Calls r c → answers r c = Answers.actual r c) :
    p.run answers = p.run .actual := by
  induction p with
  | done value next => rfl
  | failed e stopped => rfl
  | call r c after ih =>
    rw [run, run, h r c .now]
    rcases hanswer : (r.reading c).result with ⟨e | value, next⟩
    · simp only [Answers.actual, hanswer]
    · simp only [Answers.actual, hanswer]
      exact ih value next fun r' c' hcalls => h r' c' (.later hanswer hcalls)

end Plan

end Notebook.Query
