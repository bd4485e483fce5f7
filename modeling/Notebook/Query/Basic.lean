import Notebook.Query.Expression

/-!
# Queries

A query has a form, which decides what its rows are, and then, each optional, columns, a source, a
condition, sort keys and a limit. The source says which notes are asked at all: those in a folder,
with a tag, or linking to a note, and combinations of these.

`Notebook.Query.text` is the canonical text: words in capitals, single blanks, names of columns in
quotes.
-/

namespace Notebook

namespace Query

open Number

/-! ### Forms -/

/-- **The form of a query.** -/
inductive Form
  /-- A row for each note, with columns. -/
  | table
  /-- A link for each note. -/
  | list
  /-- A box to check for each task in the notes. -/
  | task
  deriving DecidableEq, Repr

/-- The word of a form. -/
def Form.text : Form → String
  | table => "TABLE"
  | list => "LIST"
  | task => "TASK"

/-! ### Sources -/

/-- **A source** of notes. -/
inductive Source
  /-- The notes in a folder, or the note at a path. -/
  | folder (path : String)
  /-- The notes with a tag or one nested in it; the tag is without its number sign. -/
  | tag (name : String)
  /-- The notes that link to a note. -/
  | link (target : String)
  /-- The notes of both sources. -/
  | both (left right : Source)
  /-- The notes of one of two sources. -/
  | either (left right : Source)
  /-- The notes outside of a source. -/
  | other (source : Source)
  deriving DecidableEq

/-- **The canonical text** of a source. -/
def Source.text : Source → String
  | folder path => "\"" ++ path ++ "\""
  | tag name => "#" ++ name
  | link target => "[[" ++ target ++ "]]"
  | both left right => "(" ++ left.text ++ " AND " ++ right.text ++ ")"
  | either left right => "(" ++ left.text ++ " OR " ++ right.text ++ ")"
  | other source => "-" ++ source.text

/-! ### Columns and sort keys -/

/-- **A column**: an expression, and a name for it. -/
structure Column where
  /-- What the cells hold. -/
  expression : Expression
  /-- The name. -/
  givenName : Option String

namespace Column

/-- The header of a column: the name it is given, else the text of its expression. -/
def header (column : Column) : String := column.givenName.getD column.expression.text

/-- The canonical text of a column. -/
def text (column : Column) : String :=
  column.expression.text ++
    match column.givenName with
    | some name => " AS " ++ quotedText name
    | none => ""

end Column

/-- **The direction** of a sort key. -/
inductive Direction
  /-- The least first. -/
  | ascending
  /-- The greatest first. -/
  | descending
  deriving DecidableEq, Repr

/-- The word of a direction. -/
def Direction.text : Direction → String
  | ascending => "ASC"
  | descending => "DESC"

/-- **A sort key.** -/
structure SortKey where
  /-- What is sorted by. -/
  expression : Expression
  /-- Which end comes first. -/
  direction : Direction

/-- The canonical text of a sort key. -/
def SortKey.text (key : SortKey) : String := key.expression.text ++ " " ++ key.direction.text

end Query

open Query

/-- **A query.** -/
structure Query where
  /-- What the rows are. -/
  form : Form
  /-- The columns of a table. -/
  columns : List Column
  /-- The notes that are asked; all when missing. -/
  source : Option Source
  /-- The condition that rows meet. -/
  condition : Option Expression
  /-- The keys that rows are sorted by. -/
  sort : List SortKey
  /-- The greatest count of rows. -/
  limit : Option Nat

namespace Query

/-- The expressions of a query: those of the columns, the condition, and those of the sort keys. -/
def expressions (query : Query) : List Expression :=
  query.columns.map Column.expression ++ query.condition.toList ++ query.sort.map SortKey.expression

/-- A clause with its first word, when it is there. -/
def clauseText {α : Type} (word : String) (text : α → String) : Option α → String
  | some x => " " ++ word ++ " " ++ text x
  | none => ""

/-- A list clause with what comes before it, when there are items. -/
def listText {α : Type} (before : String) (text : α → String) (items : List α) : String :=
  if items.isEmpty then "" else before ++ ", ".intercalate (items.map text)

/-- **The canonical text** of a query. -/
def text (query : Query) : String :=
  query.form.text ++ listText " " Column.text query.columns ++
    clauseText "FROM" Source.text query.source ++
    clauseText "WHERE" Expression.text query.condition ++
    listText " SORT " SortKey.text query.sort ++
    clauseText "LIMIT" Number.digitsOf query.limit

/-! ### Agreement -/

/-- Whether two columns are the same. -/
def Column.agrees (a b : Column) : Bool :=
  a.expression.agrees b.expression && a.givenName == b.givenName

/-- Whether two sort keys are the same. -/
def SortKey.agrees (a b : SortKey) : Bool :=
  a.expression.agrees b.expression && a.direction == b.direction

/-- Whether two lists are the same, item by item. -/
def listsAgree {α : Type} (same : α → α → Bool) : List α → List α → Bool
  | [], [] => true
  | x :: xs, y :: ys => same x y && listsAgree same xs ys
  | _, _ => false

/-- **Whether two queries are the same**, with numbers compared by value. -/
def agrees (a b : Query) : Bool :=
  a.form == b.form && listsAgree Column.agrees a.columns b.columns && a.source == b.source &&
    listsAgree Expression.agrees a.condition.toList b.condition.toList &&
    listsAgree SortKey.agrees a.sort b.sort && a.limit == b.limit

end Query

end Notebook
