import Notebook.Number.Notation
import Notebook.Unicode.Case

/-!
# Tokens of the query language

The pieces that a query text is made of: literals, names, reserved words and symbols, and the end of
the text. Each piece has two texts: `Notebook.Query.Token.text`, in which it would be written, and
`Notebook.Query.Token.description`, by which a message speaks of it.

A `Notebook.Query.Lexeme` is a token with the characters that it was read from and its
`Notebook.Query.Position` in the query.
-/

namespace Notebook.Query

open Number

/-! ### Reserved words -/

/-- **A reserved word.** -/
inductive Keyword
  /-- A query whose rows have columns. -/
  | table
  /-- A query whose rows are links. -/
  | list
  /-- A query whose rows are tasks. -/
  | task
  /-- Reserved for calendar views, which no query has. -/
  | calendar
  /-- Introduces the source. -/
  | source
  /-- Introduces the condition. -/
  | condition
  /-- Introduces the sort keys. -/
  | sort
  /-- Introduces the limit. -/
  | limit
  /-- Both of two operands. -/
  | conjunction
  /-- One of two operands. -/
  | disjunction
  /-- The contrary of an operand. -/
  | negation
  /-- Sorts the least first. -/
  | ascending
  /-- Sorts the greatest first. -/
  | descending
  /-- Introduces the name that a query gives to a column. -/
  | naming
  deriving DecidableEq, Repr

namespace Keyword

/-- The text of a reserved word. -/
def text : Keyword → String
  | table => "TABLE"
  | list => "LIST"
  | task => "TASK"
  | calendar => "CALENDAR"
  | source => "FROM"
  | condition => "WHERE"
  | sort => "SORT"
  | limit => "LIMIT"
  | conjunction => "AND"
  | disjunction => "OR"
  | negation => "NOT"
  | ascending => "ASC"
  | descending => "DESC"
  | naming => "AS"

/-- The spellings of the reserved words, in lower case. -/
def spellings : List (String × Keyword) :=
  [("table", table), ("list", list), ("task", task), ("calendar", calendar), ("from", source),
   ("where", condition), ("sort", sort), ("limit", limit), ("and", conjunction),
   ("or", disjunction), ("not", negation), ("asc", ascending), ("ascending", ascending),
   ("desc", descending), ("descending", descending), ("as", naming)]

/-- **The reserved word that a name spells**, in any case. -/
def ofName? (name : String) : Option Keyword :=
  spellings.lookup (String.ofList (Unicode.asciiLowercase name.toList))

end Keyword

/-! ### Tokens -/

/-- **A token.** -/
inductive Token
  /-- A number with a point. -/
  | real (value : Binary64)
  /-- A whole number. -/
  | integer (value : Int64)
  /-- A text in quotes. -/
  | string (value : String)
  /-- A truth value. -/
  | boolean (value : Bool)
  /-- The null value. -/
  | null
  /-- A tag, without its number sign. -/
  | tag (name : String)
  /-- A link, without its brackets. -/
  | link (target : String)
  /-- The name of a field or a function. -/
  | identifier (name : String)
  /-- A reserved word. -/
  | keyword (word : Keyword)
  /-- The sign of equality. -/
  | equal
  /-- The sign of inequality. -/
  | notEqual
  /-- The sign for less. -/
  | less
  /-- The sign for greater. -/
  | greater
  /-- The sign for less or equal. -/
  | lessEqual
  /-- The sign for greater or equal. -/
  | greaterEqual
  /-- The exclamation mark, which negates a condition. -/
  | bang
  /-- The hyphen, which negates a source. -/
  | minus
  /-- An opening parenthesis. -/
  | openParen
  /-- A closing parenthesis. -/
  | closeParen
  /-- The dot between the segments of a field path. -/
  | dot
  /-- The comma between the items of a list. -/
  | comma
  /-- The end of the query text. -/
  | endOfInput
  deriving DecidableEq

namespace Token

/-- The text of a truth value. -/
def booleanText (b : Bool) : String := if b then "true" else "false"

/-- **The text of a token.** -/
def text : Token → String
  | real x => x.text
  | integer n => integerText n.toInt
  | string s => "\"" ++ s ++ "\""
  | boolean b => booleanText b
  | null => "null"
  | tag name => "#" ++ name
  | link target => "[[" ++ target ++ "]]"
  | identifier name => name
  | keyword word => word.text
  | equal => "="
  | notEqual => "!="
  | less => "<"
  | greater => ">"
  | lessEqual => "<="
  | greaterEqual => ">="
  | bang => "!"
  | minus => "-"
  | openParen => "("
  | closeParen => ")"
  | dot => "."
  | comma => ","
  | endOfInput => "<eof>"

/-- **How a message speaks of a token.** -/
def description : Token → String
  | real x => "number " ++ x.text
  | integer n => "integer " ++ integerText n.toInt
  | string s => "string \"" ++ s ++ "\""
  | boolean b => "boolean " ++ booleanText b
  | null => "null"
  | tag name => "tag #" ++ name
  | link target => "link [[" ++ target ++ "]]"
  | identifier name => "identifier '" ++ name ++ "'"
  | keyword word => "keyword " ++ word.text
  | endOfInput => "end of query"
  | symbol => "'" ++ symbol.text ++ "'"

end Token

/-! ### Places -/

/-- **A place in a query text.** -/
structure Position where
  /-- The count of characters before it. -/
  offset : Nat
  /-- The line, from 1. -/
  line : Nat
  /-- The column, from 1. -/
  column : Nat
  deriving DecidableEq, Repr

namespace Position

/-- The start of a text. -/
def start : Position := ⟨0, 1, 1⟩

/-- The place after one more character. -/
def step (p : Position) (c : Char) : Position :=
  if c = '\n' then ⟨p.offset + 1, p.line + 1, 1⟩ else ⟨p.offset + 1, p.line, p.column + 1⟩

/-- The place after more characters. -/
def advance (p : Position) (cs : List Char) : Position := cs.foldl step p

/-- The text of a place. -/
def text (p : Position) : String :=
  "line " ++ digitsOf p.line ++ ", column " ++ digitsOf p.column

end Position

/-- **A token where it was read.** -/
structure Lexeme where
  /-- The token. -/
  token : Token
  /-- The characters that it was read from. -/
  text : List Char
  /-- The place of the first of them. -/
  position : Position
  deriving DecidableEq

end Notebook.Query
