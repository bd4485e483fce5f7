import Notebook.Query.Basic

/-!
# The grammar of queries

Which tokens spell which query, without a word on how one is read. The grammar is stratified: every
`Notebook.Query.Rank` has its spellings, and a spelling of a tighter rank is one of each looser
rank. Connectives group to the left, so the left side of a spelling has the rank of the whole and
the right side a tighter one; a comparison has two operands and no rank repeats it.

The relations are `Notebook.Query.Expression.Spelled`, `Notebook.Query.Source.Spelled` and, for a
whole query with its end, `Notebook.Query.Spelled`. Nothing here is computed: that exactly these
spellings are read is what `Notebook.Proofs.Query.Parsing` proves.
-/

namespace Notebook.Query

/-! ### Lists and clauses -/

variable {α : Type}

/-- **Items with commas between them**: each one is spelled by the tokens of its part. -/
def Listed (Item : List Token → α → Prop) (ts : List Token) (xs : List α) : Prop :=
  ∃ parts : List (List Token × α), (∀ part ∈ parts, Item part.1 part.2) ∧
    ts = [Token.comma].intercalate (parts.map Prod.fst) ∧ xs = parts.map Prod.snd

/-- **A clause**: nothing, or its first word and a body. -/
def Clause (word : Keyword) (Body : List Token → α → Prop) (ts : List Token) : Option α → Prop
  | some x => ∃ us, ts = .keyword word :: us ∧ Body us x
  | none => ts = []

/-! ### Single tokens -/

/-- **A token that spells a literal.** A tag or a link stands for the text that it is written as. -/
inductive Literal.Spelled : Token → Literal → Prop
  /-- A number with a point. -/
  | real (x : Number.Binary64) : Spelled (.real x) (.real x)
  /-- A whole number. -/
  | integer (n : Int64) : Spelled (.integer n) (.integer n)
  /-- A text in quotes. -/
  | string (s : String) : Spelled (.string s) (.string s)
  /-- A truth value. -/
  | boolean (b : Bool) : Spelled (.boolean b) (.boolean b)
  /-- The null value. -/
  | null : Spelled .null .null
  /-- A tag stands for its text. -/
  | tag (name : String) : Spelled (.tag name) (.string ("#" ++ name))
  /-- A link stands for its text. -/
  | link (target : String) : Spelled (.link target) (.string ("[[" ++ target ++ "]]"))

/-- **A token that spells a comparison.** -/
inductive Comparison.Spelled : Token → Comparison → Prop
  /-- Equal. -/
  | equal : Spelled .equal .equal
  /-- Not equal. -/
  | notEqual : Spelled .notEqual .notEqual
  /-- Less. -/
  | less : Spelled .less .less
  /-- Greater. -/
  | greater : Spelled .greater .greater
  /-- Less or equal. -/
  | lessEqual : Spelled .lessEqual .lessEqual
  /-- Greater or equal. -/
  | greaterEqual : Spelled .greaterEqual .greaterEqual

/-- **A token that spells the form of a query.** -/
inductive Form.Spelled : Token → Form → Prop
  /-- A table. -/
  | table : Spelled (.keyword .table) .table
  /-- A list of links. -/
  | list : Spelled (.keyword .list) .list
  /-- A list of tasks. -/
  | task : Spelled (.keyword .task) .task

/-- **A token that spells the name of a column**: a name as it is, or a text in quotes. -/
inductive NameSpelled : Token → String → Prop
  /-- A name. -/
  | identifier (name : String) : NameSpelled (.identifier name) name
  /-- A text in quotes. -/
  | string (name : String) : NameSpelled (.string name) name

/-! ### Expressions -/

/-- **The ranks of the grammar**, the tightest first. -/
inductive Rank
  /-- What stands on one side of a comparison. -/
  | operand
  /-- Up to one comparison. -/
  | comparison
  /-- A comparison with negations before it. -/
  | condition
  /-- Conditions joined by AND. -/
  | conjunction
  /-- Conjunctions joined by OR. -/
  | disjunction
  deriving DecidableEq

/-- The tokens of a field path: names with dots between them. -/
def pathTokens (first : String) (others : List String) : List Token :=
  .identifier first :: others.flatMap fun name => [.dot, .identifier name]

/-- **The tokens that spell an expression** at a rank. -/
inductive Expression.Spelled : Rank → List Token → Expression → Prop
  /-- A literal. -/
  | literal {t : Token} {value : Literal} : value.Spelled t → Spelled .operand [t] (.literal value)
  /-- A field path. -/
  | field (first : String) (others : List String) :
    Spelled .operand (pathTokens first others) (.field ⟨first :: others⟩)
  /-- A call, with any count of arguments. -/
  | call (name : String) (arguments : List (List Token × Expression)) :
    (∀ argument ∈ arguments, Spelled .disjunction argument.1 argument.2) →
    Spelled .operand
      (.identifier name :: .openParen ::
        ([Token.comma].intercalate (arguments.map Prod.fst) ++ [.closeParen]))
      (.call name (arguments.map Prod.snd))
  /-- Any expression in parentheses. -/
  | group {ts : List Token} {e : Expression} :
    Spelled .disjunction ts e → Spelled .operand (.openParen :: (ts ++ [.closeParen])) e
  /-- An operand that is compared to nothing. -/
  | alone {ts : List Token} {e : Expression} : Spelled .operand ts e → Spelled .comparison ts e
  /-- Two operands with the sign of a comparison between them. -/
  | comparison {t : Token} {operator : Comparison} {ts us : List Token} {left right : Expression} :
    operator.Spelled t → Spelled .operand ts left → Spelled .operand us right →
    Spelled .comparison (ts ++ t :: us) (.comparison operator left right)
  /-- A condition without a negation. -/
  | plain {ts : List Token} {e : Expression} : Spelled .comparison ts e → Spelled .condition ts e
  /-- A condition after a negation. -/
  | negation {t : Token} {ts : List Token} {e : Expression} :
    t = .keyword .negation ∨ t = .bang → Spelled .condition ts e →
    Spelled .condition (t :: ts) (.negation e)
  /-- A conjunction of one condition. -/
  | condition {ts : List Token} {e : Expression} :
    Spelled .condition ts e → Spelled .conjunction ts e
  /-- A conjunction with one more condition. -/
  | conjunction {ts us : List Token} {left right : Expression} :
    Spelled .conjunction ts left → Spelled .condition us right →
    Spelled .conjunction (ts ++ .keyword .conjunction :: us) (.logical .conjunction left right)
  /-- A disjunction of one conjunction. -/
  | single {ts : List Token} {e : Expression} :
    Spelled .conjunction ts e → Spelled .disjunction ts e
  /-- A disjunction with one more conjunction. -/
  | disjunction {ts us : List Token} {left right : Expression} :
    Spelled .disjunction ts left → Spelled .conjunction us right →
    Spelled .disjunction (ts ++ .keyword .disjunction :: us) (.logical .disjunction left right)

/-! ### Sources -/

/-- **The tokens that spell a source** at one of the ranks of operands, conjunctions and
disjunctions. -/
inductive Source.Spelled : Rank → List Token → Source → Prop
  /-- A folder is what is left of its text without the slashes at the end. -/
  | folder {text path : String} (slashes : Nat) :
    text.toList = path.toList ++ List.replicate slashes '/' → path.toList.getLast? ≠ some '/' →
    Spelled .operand [.string text] (.folder path)
  /-- A tag. -/
  | tag (name : String) : Spelled .operand [.tag name] (.tag name)
  /-- A link. -/
  | link (target : String) : Spelled .operand [.link target] (.link target)
  /-- Any source in parentheses. -/
  | group {ts : List Token} {s : Source} :
    Spelled .disjunction ts s → Spelled .operand (.openParen :: (ts ++ [.closeParen])) s
  /-- A negated source. -/
  | negation {t : Token} {ts : List Token} {s : Source} :
    t = .minus ∨ t = .keyword .negation → Spelled .operand ts s →
    Spelled .operand (t :: ts) (.other s)
  /-- A conjunction of one source. -/
  | alone {ts : List Token} {s : Source} : Spelled .operand ts s → Spelled .conjunction ts s
  /-- A conjunction with one more source. -/
  | conjunction {ts us : List Token} {left right : Source} :
    Spelled .conjunction ts left → Spelled .operand us right →
    Spelled .conjunction (ts ++ .keyword .conjunction :: us) (.both left right)
  /-- A disjunction of one conjunction. -/
  | single {ts : List Token} {s : Source} : Spelled .conjunction ts s → Spelled .disjunction ts s
  /-- A disjunction with one more conjunction. -/
  | disjunction {ts us : List Token} {left right : Source} :
    Spelled .disjunction ts left → Spelled .conjunction us right →
    Spelled .disjunction (ts ++ .keyword .disjunction :: us) (.either left right)

/-! ### Queries -/

/-- **The tokens that spell a column**: an expression, and AS with a name if one is given. -/
inductive Column.Spelled : List Token → Column → Prop
  /-- A column without a name. -/
  | plain {ts : List Token} {e : Expression} : e.Spelled .disjunction ts → Spelled ts ⟨e, none⟩
  /-- A column with a name. -/
  | named {ts : List Token} {t : Token} {e : Expression} {name : String} :
    e.Spelled .disjunction ts → NameSpelled t name →
    Spelled (ts ++ [.keyword .naming, t]) ⟨e, some name⟩

/-- **The tokens that spell a sort key**; without a direction it is ascending. -/
inductive SortKey.Spelled : List Token → SortKey → Prop
  /-- No direction. -/
  | plain {ts : List Token} {e : Expression} :
    e.Spelled .disjunction ts → Spelled ts ⟨e, .ascending⟩
  /-- The least first. -/
  | ascending {ts : List Token} {e : Expression} :
    e.Spelled .disjunction ts → Spelled (ts ++ [.keyword .ascending]) ⟨e, .ascending⟩
  /-- The greatest first. -/
  | descending {ts : List Token} {e : Expression} :
    e.Spelled .disjunction ts → Spelled (ts ++ [.keyword .descending]) ⟨e, .descending⟩

/-- The tokens that spell the columns of a query: none at all, or those of a table. -/
def ColumnsSpelled (form : Form) (ts : List Token) (columns : List Column) : Prop :=
  (ts = [] ∧ columns = []) ∨ (form = .table ∧ columns ≠ [] ∧ Listed Column.Spelled ts columns)

/-- The tokens that spell the sort keys of a query, of which there is one. -/
def SortSpelled (ts : List Token) (keys : List SortKey) : Prop :=
  keys ≠ [] ∧ Listed SortKey.Spelled ts keys

/-- The token that spells a limit: a positive integer. -/
def LimitSpelled (ts : List Token) (limit : Nat) : Prop :=
  0 < limit ∧ ∃ n : Int64, ts = [.integer n] ∧ n.toInt = limit

/-- **The tokens that spell a query**: its form, then columns, a source, a condition, sort keys and
a limit, each of them optional and in this order, and the end. -/
inductive Spelled : List Token → Query → Prop
  /-- The parts of a query one after another. -/
  | query {t : Token} {cs ss ws ks ls : List Token} {form : Form} {columns : List Column}
    {source : Option Source} {condition : Option Expression} {sort : Option (List SortKey)}
    {limit : Option Nat} :
    form.Spelled t → ColumnsSpelled form cs columns →
    Clause .source (Source.Spelled .disjunction) ss source →
    Clause .condition (Expression.Spelled .disjunction) ws condition →
    Clause .sort SortSpelled ks sort → Clause .limit LimitSpelled ls limit →
    Spelled (t :: (cs ++ (ss ++ (ws ++ (ks ++ (ls ++ [.endOfInput]))))))
      ⟨form, columns, source, condition, sort.getD [], limit⟩

end Notebook.Query
