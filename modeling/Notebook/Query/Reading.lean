import Notebook.Query.Basic
import Notebook.Query.Lexer
import Notebook.Text.Trim

/-!
# From tokens to queries

Reading by recursive descent with one token of lookahead. A `Notebook.Query.Cursor` holds the token
that is looked at and the lexer that reads the following ones, so that characters after the first
problem are never looked at.

What a step of reading gives is a `Notebook.Query.Reading`: a value and the cursor after it, which
comes with a proof that less input is left than a bound, or an error and the cursor where reading
stopped. The bound is the measure that makes the recursion end: `Notebook.Query.Cursor.size` counts
the characters left and the token that is looked at.

A token is taken in one of two ways when reading goes on, and they differ when the text after it has
a problem. `Notebook.Query.Cursor.pass` leaves the cursor where it is then;
`Notebook.Query.Cursor.take` leaves it with the end of the text in place of the token. Words, signs
and brackets are passed; what carries a value is taken.

`Notebook.Query.parse` reads a whole query and `Notebook.Query.parseExpression` an expression that
fills the text.
-/

namespace Notebook.Query

/-! ### The cursor -/

/-- **A place between tokens**, with the next token already read. -/
structure Cursor where
  /-- The lexer after the token. -/
  lexer : Lexer
  /-- The token that is looked at. -/
  current : Lexeme

namespace Cursor

/-- The cursor at the start of a text. -/
def ofText (source : String) : Except SyntaxError Cursor :=
  match (Lexer.ofText source).next with
  | (.ok lexeme, lexer) => .ok ⟨lexer, lexeme⟩
  | (.error e, _) => .error e

/-- The token that is looked at. -/
def token (c : Cursor) : Token := c.current.token

/-- **How much is left**: the characters after the token, and the token unless it is the end. -/
def size (c : Cursor) : Nat := c.lexer.rest.length + if c.token = .endOfInput then 0 else 1

/-- The error that something else was expected. -/
def unexpected (c : Cursor) (accepted : List String) : SyntaxError :=
  ⟨.expected accepted c.token, c.current.position⟩

/-- The cursor with the end of the text in place of its token. -/
def blank (c : Cursor) : Cursor := { c with current := { c.current with token := .endOfInput } }

/-- The cursor with its lexer moved on. -/
def moved (c : Cursor) (lexer : Lexer) : Cursor := { c with lexer := lexer }

end Cursor

/-! ### Readings -/

/-- **What a step of reading gives**; after a success, less than `n` is left. -/
inductive Reading (α : Type) (n : Nat)
  /-- A value, and the cursor after it. -/
  | ok (value : α) (next : Cursor) (shrinks : next.size < n)
  /-- An error, and the cursor where reading stopped. -/
  | error (e : SyntaxError) (stopped : Cursor)

namespace Reading

/-- One step of reading and then another one, which knows how much is left. -/
def andThen {α β : Type} {m n : Nat} (reading : Reading α m)
    (continuation : (value : α) → (c : Cursor) → c.size < m → Reading β n) : Reading β n :=
  match reading with
  | ok value next shrinks => continuation value next shrinks
  | error e stopped => error e stopped

/-- A reading with its value changed. -/
def map {α β : Type} {n : Nat} (f : α → β) : Reading α n → Reading β n
  | ok value next shrinks => ok (f value) next shrinks
  | error e stopped => error e stopped

/-- A reading without its bound. -/
def result {α : Type} {n : Nat} : Reading α n → Except SyntaxError α × Cursor
  | ok value next _ => (.ok value, next)
  | error e stopped => (.error e, stopped)

end Reading

namespace Cursor

/-- Reading a token that is not the end leaves less than there was. -/
theorem size_next_lt {c : Cursor} {lexer : Lexer} {lexeme : Lexeme} (hc : c.token ≠ .endOfInput)
    (h : c.lexer.next = (.ok lexeme, lexer)) : (⟨lexer, lexeme⟩ : Cursor).size < c.size := by
  have hle := c.lexer.length_rest_next
  rw [h] at hle
  unfold size token at *
  dsimp only at hle ⊢
  rw [if_neg hc]
  split
  · omega
  · next hne =>
    have hlt := @Lexer.length_rest_next_lt c.lexer lexeme (by rw [h]) hne
    rw [h] at hlt
    dsimp only at hlt
    omega

/-- Goes on to the next token; on a problem the cursor is `stopped` with the lexer moved on. -/
def advance (c : Cursor) (hc : c.token ≠ .endOfInput) (stopped : Cursor) : Reading Unit c.size :=
  match h : c.lexer.next with
  | (.ok lexeme, lexer) => .ok () ⟨lexer, lexeme⟩ (size_next_lt hc h)
  | (.error e, lexer) => .error e (stopped.moved lexer)

/-- **Passes the token**; on a problem after it the token stays. -/
def pass (c : Cursor) (hc : c.token ≠ .endOfInput) : Reading Unit c.size := c.advance hc c

/-- **Takes the token**; on a problem after it the end of the text is in its place. -/
def take (c : Cursor) (hc : c.token ≠ .endOfInput) : Reading Unit c.size := c.advance hc c.blank

/-- Passes a token that has to be there, and is called `name` in the error otherwise. -/
def expect (c : Cursor) (token : Token) (name : String) (ht : token ≠ .endOfInput) :
    Reading Unit c.size :=
  if h : c.token = token then c.pass (h ▸ ht) else .error (c.unexpected [name]) c

end Cursor

/-! ### What tokens stand for -/

namespace Token

/-- The literal that a token stands for. A tag or a link is the text of itself. -/
def literal? : Token → Option Literal
  | real x => some (.real x)
  | integer n => some (.integer n)
  | string s => some (.string s)
  | boolean b => some (.boolean b)
  | null => some .null
  | tag name => some (.string ("#" ++ name))
  | link target => some (.string ("[[" ++ target ++ "]]"))
  | _ => none

/-- The operator that a token is the sign of. -/
def comparison? : Token → Option Comparison
  | equal => some .equal
  | notEqual => some .notEqual
  | less => some .less
  | greater => some .greater
  | lessEqual => some .lessEqual
  | greaterEqual => some .greaterEqual
  | _ => none

theorem ne_endOfInput_of_literal? {t : Token} {l : Literal} (h : t.literal? = some l) :
    t ≠ .endOfInput := by
  rintro rfl
  cases h

theorem ne_endOfInput_of_comparison? {t : Token} {op : Comparison}
    (h : t.comparison? = some op) : t ≠ .endOfInput := by
  rintro rfl
  cases h

/-- The name that a token gives to a column. -/
def givenName? : Token → Option String
  | identifier name => some name
  | string name => some name
  | _ => none

theorem ne_endOfInput_of_givenName? {t : Token} {name : String} (h : t.givenName? = some name) :
    t ≠ .endOfInput := by
  rintro rfl
  cases h

/-- Whether a token may follow the columns of a query. -/
def endsColumns : Token → Bool
  | endOfInput => true
  | keyword .source => true
  | keyword .condition => true
  | keyword .sort => true
  | keyword .limit => true
  | _ => false

/-- The form of a query that starts with a token. -/
def form? : Token → Option Form
  | keyword .table => some .table
  | keyword .list => some .list
  | keyword .task => some .task
  | _ => none

theorem ne_endOfInput_of_form? {t : Token} {form : Form} (h : t.form? = some form) :
    t ≠ .endOfInput := by
  rintro rfl
  cases h

end Token

namespace Cursor

/-! ### Expressions -/

/-- Reads the further segments of a field path. -/
def pathTail {n : Nat} (segments : List String) (c : Cursor) (h : c.size < n) :
    Reading (List String) n :=
  if hd : c.token = .dot then
    (c.pass (by simp [hd])).andThen fun _ c₁ h₁ =>
      match ht : c₁.token with
      | .identifier name =>
        (c₁.take (by simp [ht])).andThen fun _ c₂ h₂ => pathTail (segments ++ [name]) c₂ (by omega)
      | _ => .error (c₁.unexpected ["field name after '.'"]) c₁
  else .ok segments c h
termination_by c.size

/-- Reads a field path after its first segment. It cannot be called. -/
def fieldPath {n : Nat} (name : String) (c : Cursor) (h : c.size < n) : Reading Expression n :=
  (pathTail [name] c h).andThen fun segments c₁ h₁ =>
    if c₁.token = .openParen then
      .error ⟨.qualifiedCall (FieldPath.text ⟨segments⟩), c₁.current.position⟩ c₁
    else .ok (.field ⟨segments⟩) c₁ h₁

mutual

/-- **Reads an expression**: conditions with OR between them. -/
def expression (c : Cursor) : Reading Expression c.size :=
  (conjunction c).andThen fun left c₁ h₁ => disjunctionTail left c₁ h₁
termination_by (c.size, 4)

/-- Reads further conditions with OR before them; the connective groups to the left. -/
def disjunctionTail {n : Nat} (left : Expression) (c : Cursor) (h : c.size < n) :
    Reading Expression n :=
  if hk : c.token = .keyword .disjunction then
    (c.pass (by simp [hk])).andThen fun _ c₁ h₁ =>
      (conjunction c₁).andThen fun right c₂ h₂ =>
        disjunctionTail (.logical .disjunction left right) c₂ (by omega)
  else .ok left c h
termination_by (c.size, 0)

/-- Reads conditions with AND between them. -/
def conjunction (c : Cursor) : Reading Expression c.size :=
  (condition c).andThen fun left c₁ h₁ => conjunctionTail left c₁ h₁
termination_by (c.size, 3)

/-- Reads further conditions with AND before them; the connective groups to the left. -/
def conjunctionTail {n : Nat} (left : Expression) (c : Cursor) (h : c.size < n) :
    Reading Expression n :=
  if hk : c.token = .keyword .conjunction then
    (c.pass (by simp [hk])).andThen fun _ c₁ h₁ =>
      (condition c₁).andThen fun right c₂ h₂ =>
        conjunctionTail (.logical .conjunction left right) c₂ (by omega)
  else .ok left c h
termination_by (c.size, 0)

/-- Reads a condition: a comparison with any count of negations before it. -/
def condition (c : Cursor) : Reading Expression c.size :=
  if hk : c.token = .keyword .negation ∨ c.token = .bang then
    (c.pass (by rcases hk with hk | hk <;> simp [hk])).andThen fun _ c₁ h₁ =>
      (condition c₁).andThen fun operand c₂ h₂ => .ok (.negation operand) c₂ (by omega)
  else comparison c
termination_by (c.size, 2)

/-- Reads an operand, or two with the sign of a comparison between them. -/
def comparison (c : Cursor) : Reading Expression c.size :=
  (operand c).andThen fun left c₁ h₁ =>
    match hc : c₁.token.comparison? with
    | some operator =>
      (c₁.pass (Token.ne_endOfInput_of_comparison? hc)).andThen fun _ c₂ h₂ =>
        (operand c₂).andThen fun right c₃ h₃ => .ok (.comparison operator left right) c₃ (by omega)
    | none => .ok left c₁ h₁
termination_by (c.size, 1)

/-- Reads an operand: a literal, a field, a call, or an expression in parentheses. -/
def operand (c : Cursor) : Reading Expression c.size :=
  match hl : c.token.literal? with
  | some value =>
    (c.take (Token.ne_endOfInput_of_literal? hl)).map fun _ => .literal value
  | none =>
    match ht : c.token with
    | .openParen =>
      (c.take (by simp [ht])).andThen fun _ c₁ h₁ =>
        (expression c₁).andThen fun e c₂ h₂ =>
          (c₂.expect .closeParen "')'" (by decide)).andThen fun _ c₃ h₃ => .ok e c₃ (by omega)
    | .identifier name =>
      (c.take (by simp [ht])).andThen fun _ c₁ h₁ =>
        if hp : c₁.token = .openParen then
          (c₁.pass (by simp [hp])).andThen fun _ c₂ h₂ =>
            (arguments c₂).andThen fun values c₃ h₃ => .ok (.call name values) c₃ (by omega)
        else fieldPath name c₁ h₁
    | _ => .error (c.unexpected ["expression"]) c
termination_by (c.size, 0)

/-- Reads the arguments of a call after the opening parenthesis, through the closing one. -/
def arguments (c : Cursor) : Reading (List Expression) c.size :=
  if hp : c.token = .closeParen then (c.pass (by simp [hp])).map fun _ => []
  else argumentList c
termination_by (c.size, 6)

/-- Reads one argument or more, through the closing parenthesis. -/
def argumentList (c : Cursor) : Reading (List Expression) c.size :=
  (expression c).andThen fun value c₁ h₁ =>
    if hc : c₁.token = .comma then
      (c₁.pass (by simp [hc])).andThen fun _ c₂ h₂ =>
        (argumentList c₂).andThen fun values c₃ h₃ => .ok (value :: values) c₃ (by omega)
    else
      (c₁.expect .closeParen "')'" (by decide)).andThen fun _ c₂ h₂ => .ok [value] c₂ (by omega)
termination_by (c.size, 5)

end

/-! ### Sources -/

mutual

/-- **Reads a source**: sources with OR between them. -/
def source (c : Cursor) : Reading Source c.size :=
  (sourceConjunction c).andThen fun left c₁ h₁ => sourceDisjunctionTail left c₁ h₁
termination_by (c.size, 3)

/-- Reads further sources with OR before them. -/
def sourceDisjunctionTail {n : Nat} (left : Source) (c : Cursor) (h : c.size < n) :
    Reading Source n :=
  if hk : c.token = .keyword .disjunction then
    (c.pass (by simp [hk])).andThen fun _ c₁ h₁ =>
      (sourceConjunction c₁).andThen fun right c₂ h₂ =>
        sourceDisjunctionTail (.either left right) c₂ (by omega)
  else .ok left c h
termination_by (c.size, 0)

/-- Reads sources with AND between them. -/
def sourceConjunction (c : Cursor) : Reading Source c.size :=
  (sourceOperand c).andThen fun left c₁ h₁ => sourceConjunctionTail left c₁ h₁
termination_by (c.size, 2)

/-- Reads further sources with AND before them. -/
def sourceConjunctionTail {n : Nat} (left : Source) (c : Cursor) (h : c.size < n) :
    Reading Source n :=
  if hk : c.token = .keyword .conjunction then
    (c.pass (by simp [hk])).andThen fun _ c₁ h₁ =>
      (sourceOperand c₁).andThen fun right c₂ h₂ =>
        sourceConjunctionTail (.both left right) c₂ (by omega)
  else .ok left c h
termination_by (c.size, 0)

/-- Reads a folder, a tag, a link, a source in parentheses, or one of these with negations before
it. Slashes at the end of a folder do not count. -/
def sourceOperand (c : Cursor) : Reading Source c.size :=
  match ht : c.token with
  | .minus => negatedSource c (by simp [ht])
  | .keyword .negation => negatedSource c (by simp [ht])
  | .string path =>
    (c.take (by simp [ht])).map fun _ =>
      .folder (String.ofList (Text.dropEndWhile (· == '/') path.toList))
  | .tag name => (c.take (by simp [ht])).map fun _ => .tag name
  | .link target => (c.take (by simp [ht])).map fun _ => .link target
  | .openParen =>
    (c.take (by simp [ht])).andThen fun _ c₁ h₁ =>
      (source c₁).andThen fun s c₂ h₂ =>
        (c₂.expect .closeParen "')'" (by decide)).andThen fun _ c₃ h₃ => .ok s c₃ (by omega)
  | _ => .error (c.unexpected ["folder string", "#tag", "[[link]]"]) c
termination_by (c.size, 1)

/-- Reads a source after the sign or the word that negates it. -/
def negatedSource (c : Cursor) (hc : c.token ≠ .endOfInput) : Reading Source c.size :=
  (c.pass hc).andThen fun _ c₁ h₁ =>
    (sourceOperand c₁).andThen fun s c₂ h₂ => .ok (.other s) c₂ (by omega)
termination_by (c.size, 0)

end

/-! ### Queries -/

/-- Reads the name that is given to a column, if there is one. -/
def givenName {n : Nat} (c : Cursor) (h : c.size < n) : Reading (Option String) n :=
  if hk : c.token = .keyword .naming then
    (c.pass (by simp [hk])).andThen fun _ c₁ h₁ =>
      match ha : c₁.token.givenName? with
      | some name =>
        (c₁.take (Token.ne_endOfInput_of_givenName? ha)).andThen fun _ c₂ h₂ =>
          .ok (some name) c₂ (by omega)
      | none => .error (c₁.unexpected ["alias"]) c₁
  else .ok none c h

/-- Reads columns with commas between them, at least one. -/
def columns (c : Cursor) : Reading (List Column) c.size :=
  (expression c).andThen fun e c₁ h₁ =>
    (givenName c₁ h₁).andThen fun name c₂ h₂ =>
      if hc : c₂.token = .comma then
        (c₂.pass (by simp [hc])).andThen fun _ c₃ h₃ =>
          (columns c₃).andThen fun others c₄ h₄ => .ok (⟨e, name⟩ :: others) c₄ (by omega)
      else .ok [⟨e, name⟩] c₂ h₂
termination_by c.size

/-- Reads the direction of a sort key, if there is one. -/
def direction {n : Nat} (c : Cursor) (h : c.size < n) : Reading Direction n :=
  if hk : c.token = .keyword .ascending then
    (c.pass (by simp [hk])).andThen fun _ c₁ h₁ => .ok .ascending c₁ (by omega)
  else if hk : c.token = .keyword .descending then
    (c.pass (by simp [hk])).andThen fun _ c₁ h₁ => .ok .descending c₁ (by omega)
  else .ok .ascending c h

/-- Reads sort keys with commas between them, at least one. -/
def sortKeys (c : Cursor) : Reading (List SortKey) c.size :=
  (expression c).andThen fun e c₁ h₁ =>
    (direction c₁ h₁).andThen fun d c₂ h₂ =>
      if hc : c₂.token = .comma then
        (c₂.pass (by simp [hc])).andThen fun _ c₃ h₃ =>
          (sortKeys c₃).andThen fun others c₄ h₄ => .ok (⟨e, d⟩ :: others) c₄ (by omega)
      else .ok [⟨e, d⟩] c₂ h₂
termination_by c.size

/-- Reads the number of a limit. -/
def limitNumber (c : Cursor) : Reading Nat c.size :=
  match ht : c.token with
  | .integer n =>
    if 0 < n then (c.pass (by simp [ht])).map fun _ => n.toNatClampNeg
    else .error (c.unexpected ["positive integer"]) c
  | _ => .error (c.unexpected ["positive integer"]) c

/-- Reads a clause after its first word, if the word is there. -/
def clause {α : Type} {n : Nat} (word : Keyword) (read : (c : Cursor) → Reading α c.size)
    (c : Cursor) (h : c.size < n) : Reading (Option α) n :=
  if hk : c.token = .keyword word then
    (c.pass (by simp [hk])).andThen fun _ c₁ h₁ =>
      (read c₁).andThen fun value c₂ h₂ => .ok (some value) c₂ (by omega)
  else .ok none c h

/-- Reads the columns of a query of a form. Only a table has columns. -/
def formColumns {n : Nat} (form : Form) (c : Cursor) (h : c.size < n) : Reading (List Column) n :=
  if c.token.endsColumns then .ok [] c h
  else if form = .table then
    (columns c).andThen fun cs c₁ h₁ => .ok cs c₁ (by omega)
  else .error ⟨.unwantedFields form.text c.token, c.current.position⟩ c

/-- **Reads a query**, through the end of the text. -/
def query (c : Cursor) : Reading Query c.size :=
  match hf : c.token.form? with
  | none =>
    if c.token = .keyword .calendar then .error ⟨.calendar, c.current.position⟩ c
    else .error (c.unexpected ["TABLE", "LIST", "TASK"]) c
  | some form =>
    (c.pass (Token.ne_endOfInput_of_form? hf)).andThen fun _ c₁ h₁ =>
    (formColumns form c₁ h₁).andThen fun columns c₂ h₂ =>
    (clause .source source c₂ h₂).andThen fun source c₃ h₃ =>
    (clause .condition expression c₃ h₃).andThen fun condition c₄ h₄ =>
    (clause .sort sortKeys c₄ h₄).andThen fun sort c₅ h₅ =>
    (clause .limit limitNumber c₅ h₅).andThen fun limit c₆ h₆ =>
      if c₆.token = .endOfInput then
        .ok ⟨form, columns, source, condition, sort.getD [], limit⟩ c₆ h₆
      else .error (c₆.unexpected ["end of query"]) c₆

/-- Reads an expression that fills the rest of the text. -/
def wholeExpression (c : Cursor) : Reading Expression c.size :=
  (expression c).andThen fun e c₁ h₁ =>
    if c₁.token = .endOfInput then .ok e c₁ h₁
    else .error (c₁.unexpected ["end of expression"]) c₁

end Cursor

/-! ### Texts -/

/-- **The query that a text spells.** -/
def parse (source : String) : Except SyntaxError Query := do
  let c ← Cursor.ofText source
  c.query.result.1

/-- **The expression that a text spells.** -/
def parseExpression (source : String) : Except SyntaxError Expression := do
  let c ← Cursor.ofText source
  c.wholeExpression.result.1

end Notebook.Query
