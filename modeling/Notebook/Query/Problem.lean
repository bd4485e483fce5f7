import Notebook.Query.Token

/-!
# Problems of a query text

What can be wrong with a query text, as a cause and a place: a `Notebook.Query.SyntaxError`. The
wording of each cause is `Notebook.Query.Problem.message`; what would have been accepted and what
was found instead are read off the cause too.
-/

namespace Notebook.Query

open Number

/-- **A cause** for refusing a query text. -/
inductive Problem
  /-- A character that starts no token. -/
  | unexpectedCharacter (c : Char)
  /-- A backslash before a character that it does not go with. -/
  | badEscape (c : Char)
  /-- A text in quotes without its closing quote. -/
  | unclosedString
  /-- A link without its closing brackets on the same line. -/
  | unclosedLink
  /-- A whole number beyond 64 bits. -/
  | badNumber (text : String)
  /-- A token that does not fit, with what would fit. -/
  | expected (accepted : List String) (found : Token)
  /-- A query for a calendar view. -/
  | calendar
  /-- Columns in a query that has none, whose form is named. -/
  | unwantedFields (form : String) (found : Token)
  /-- A call of a name that is a field path. -/
  | qualifiedCall (path : String)
  deriving DecidableEq

/-- Items with commas between them. -/
def commaList (items : List String) : String := ", ".intercalate items

namespace Problem

/-- **The wording of a cause**, where it is met at an offset. -/
def message (offset : Nat) : Problem → String
  | unexpectedCharacter c =>
    "Unexpected character '" ++ c.toString ++ "' at offset " ++ digitsOf offset
  | badEscape c => "Invalid escape sequence: \\" ++ c.toString
  | unclosedString => "Unterminated string: missing closing quote"
  | unclosedLink => "Unterminated link: missing ']]'"
  | badNumber text => "Invalid number literal '" ++ text ++ "'"
  | expected [] found => "Unexpected " ++ found.description
  | expected [one] found => "Expected " ++ one ++ ", found " ++ found.description
  | expected many found =>
    "Expected one of " ++ commaList many ++ ", found " ++ found.description
  | calendar => "CALENDAR queries are not supported"
  | unwantedFields form _ => form ++ " queries do not accept a field list"
  | qualifiedCall path => "Only plain function names can be called, found '" ++ path ++ "'"

/-- What would have been accepted. -/
def accepted : Problem → List String
  | expected accepted _ => accepted
  | calendar => ["TABLE", "LIST", "TASK"]
  | unwantedFields _ _ => ["FROM", "WHERE", "SORT", "LIMIT"]
  | _ => []

/-- What was found instead. -/
def found? : Problem → Option String
  | unexpectedCharacter c => some c.toString
  | badEscape c => some ("\\" ++ c.toString)
  | expected _ found => some found.description
  | calendar => some "CALENDAR"
  | unwantedFields _ found => some found.description
  | qualifiedCall _ => some "'('"
  | _ => none

end Problem

/-- **A syntax error**: why and where a query text is refused. -/
structure SyntaxError where
  /-- The cause. -/
  problem : Problem
  /-- The place. -/
  position : Position
  deriving DecidableEq

namespace SyntaxError

/-- The wording of an error without its place. -/
def detail (e : SyntaxError) : String := e.problem.message e.position.offset

/-- **The wording of an error.** -/
def message (e : SyntaxError) : String := e.detail ++ " at " ++ e.position.text

end SyntaxError

end Notebook.Query
