import Notebook.Query.Token
import Notebook.Text.Split

/-!
# Expressions

The trees of conditions, columns and sort keys, and their canonical text
`Notebook.Query.Expression.text`. An operand of a connective or of a negation that is itself a
comparison or a connective is put in parentheses.

Two expressions agree (`Notebook.Query.Expression.agrees`) when they are the same tree, with numbers
compared by value: the two zeros agree.
-/

namespace Notebook.Query

open Number

/-! ### Operators -/

/-- **A comparison operator.** -/
inductive Comparison
  /-- Equal. -/
  | equal
  /-- Not equal. -/
  | notEqual
  /-- Less. -/
  | less
  /-- Greater. -/
  | greater
  /-- Less or equal. -/
  | lessEqual
  /-- Greater or equal. -/
  | greaterEqual
  deriving DecidableEq, Repr

/-- The sign of a comparison. -/
def Comparison.text : Comparison → String
  | equal => "="
  | notEqual => "!="
  | less => "<"
  | greater => ">"
  | lessEqual => "<="
  | greaterEqual => ">="

/-- **A connective** of two conditions. -/
inductive Connective
  /-- Both hold. -/
  | conjunction
  /-- One holds. -/
  | disjunction
  deriving DecidableEq, Repr

/-- The word of a connective. -/
def Connective.text : Connective → String
  | conjunction => "AND"
  | disjunction => "OR"

/-! ### Field paths -/

/-- **A field path**: names with dots between them. -/
structure FieldPath where
  /-- The names. -/
  segments : List String
  deriving DecidableEq

namespace FieldPath

/-- The text of a field path. -/
def text (path : FieldPath) : String := ".".intercalate path.segments

/-- The field path that a text spells. Any text spells one, also with empty names. -/
def ofText (s : String) : FieldPath :=
  ⟨(Text.splitWhere (· == '.') s.toList).map String.ofList⟩

/-- What comes after a leading name, if there is something. -/
def within? (name : String) (path : FieldPath) : Option (List String) :=
  match path.segments with
  | head :: next :: rest => if head = name then some (next :: rest) else none
  | _ => none

end FieldPath

/-! ### Literals -/

/-- **A literal.** -/
inductive Literal
  /-- A text. -/
  | string (value : String)
  /-- A whole number. -/
  | integer (value : Int64)
  /-- A number with a point. -/
  | real (value : Binary64)
  /-- A truth value. -/
  | boolean (value : Bool)
  /-- The null value. -/
  | null
  deriving DecidableEq

/-- A character inside a text in quotes. -/
def quotedCharacter (c : Char) : List Char :=
  match c with
  | '"' => ['\\', '"']
  | '\\' => ['\\', '\\']
  | '\n' => ['\\', 'n']
  | '\t' => ['\\', 't']
  | _ => [c]

/-- A text in quotes. -/
def quotedText (s : String) : String :=
  String.ofList ('"' :: s.toList.flatMap quotedCharacter ++ ['"'])

namespace Literal

/-- The text of a literal. -/
def text : Literal → String
  | string s => quotedText s
  | integer n => integerText n.toInt
  | real x => x.text
  | boolean b => Token.booleanText b
  | null => "null"

/-- Whether two literals are the same, with numbers compared by value. -/
def agrees : Literal → Literal → Bool
  | real x, real y => x.equals y
  | a, b => a == b

end Literal

/-! ### Trees -/

/-- **An expression.** -/
inductive Expression
  /-- A field. -/
  | field (path : FieldPath)
  /-- A literal. -/
  | literal (value : Literal)
  /-- A call of a function by its name. -/
  | call (name : String) (arguments : List Expression)
  /-- A comparison of two values. -/
  | comparison (operator : Comparison) (left right : Expression)
  /-- Two conditions joined by a connective. -/
  | logical (connective : Connective) (left right : Expression)
  /-- The contrary of a condition. -/
  | negation (operand : Expression)
  deriving Inhabited

namespace Expression

/-- The text of an expression as an operand: in parentheses when it is a comparison or joined by a
connective. -/
def asOperand (e : Expression) (text : String) : String :=
  match e with
  | comparison .. => "(" ++ text ++ ")"
  | logical .. => "(" ++ text ++ ")"
  | _ => text

mutual

/-- **The canonical text** of an expression. -/
def text : Expression → String
  | field path => path.text
  | literal value => value.text
  | call name arguments => name ++ "(" ++ argumentsText arguments ++ ")"
  | comparison operator left right => left.text ++ " " ++ operator.text ++ " " ++ right.text
  | logical connective left right =>
    left.asOperand left.text ++ " " ++ connective.text ++ " " ++ right.asOperand right.text
  | negation operand => "NOT " ++ operand.asOperand operand.text

/-- The texts of arguments with commas between them. -/
def argumentsText : List Expression → String
  | [] => ""
  | [argument] => argument.text
  | argument :: arguments => argument.text ++ ", " ++ argumentsText arguments

end

mutual

/-- **Whether two expressions are the same tree**, with numbers compared by value. -/
def agrees : Expression → Expression → Bool
  | field p, field q => p == q
  | literal a, literal b => a.agrees b
  | call f xs, call g ys => f == g && allAgree xs ys
  | comparison op a b, comparison op' a' b' => op == op' && agrees a a' && agrees b b'
  | logical op a b, logical op' a' b' => op == op' && agrees a a' && agrees b b'
  | negation a, negation b => agrees a b
  | _, _ => false

/-- Whether two lists hold the same trees. -/
def allAgree : List Expression → List Expression → Bool
  | [], [] => true
  | x :: xs, y :: ys => agrees x y && allAgree xs ys
  | _, _ => false

end

end Expression

end Notebook.Query
