import Notebook.Calendar.Reading
import Notebook.Json.Basic
import Notebook.Number.Decimal

/-!
# Values

What a field of a note holds and what an expression gives. The union is closed: documents of any
shape are narrowed into these eight kinds when a note is read, so that every rule of comparison can
go through them all.

`absent` and `null` are different: a note without a field has the value `absent` for it, and a field
that is written as `null` has the value `null`. Whole numbers have 64 bits.

Beside the value there are three views of it, each partial: as a decimal number
(`Notebook.Value.decimal?`), as a binary number (`Notebook.Value.binary?`) and as a date
(`Notebook.Value.date?`).
-/

namespace Notebook

open Number

/-- **A value** of a field or an expression. -/
inductive Value
  /-- There is no such field. -/
  | absent
  /-- An explicit null. -/
  | null
  /-- A truth value. -/
  | boolean (value : Bool)
  /-- A whole number. -/
  | integer (value : Int64)
  /-- A binary number. -/
  | real (value : Binary64)
  /-- A text. -/
  | string (value : String)
  /-- A point in time. -/
  | date (value : Calendar.Instant)
  /-- A list of values. -/
  | list (items : List Value)
  deriving Inhabited

namespace Value

/-! ### Kinds -/

/-- The name of the kind of a value. -/
def kindName : Value → String
  | absent => "absent"
  | null => "null"
  | boolean _ => "boolean"
  | integer _ => "integer"
  | real _ => "float"
  | string _ => "string"
  | date _ => "date"
  | list _ => "array"

/-- Whether there is no such field. -/
def isAbsent (v : Value) : Bool := v matches absent

/-- Whether the value is **missing**: absent or null. -/
def isMissing (v : Value) : Bool := v matches absent | null

/-- Whether the value is a number. -/
def isNumber (v : Value) : Bool := v matches integer _ | real _

/-- Whether the value is a date. -/
def isDate (v : Value) : Bool := v matches date _

/-- **Whether a value counts as true** in a condition. -/
def isTruthy : Value → Bool
  | absent => false
  | null => false
  | boolean b => b
  | integer n => n != 0
  | real x => !x.isZero && !x.isNan
  | string s => s != ""
  | date _ => true
  | list items => !items.isEmpty

/-! ### Views -/

/-- The value as a decimal number; a text that spells one has it. -/
def decimal? : Value → Option Decimal
  | integer n => some (.ofInt n.toInt)
  | real x => Decimal.ofBinary? x
  | string s => Decimal.ofText? (Text.trim s.toList)
  | _ => none

/-- The value as a binary number; a text has none. -/
def binary? : Value → Option Binary64
  | integer n => some (.ofInt n.toInt)
  | real x => some x
  | _ => none

/-- The value as a date; a text that spells one has it. -/
def date? : Value → Option Calendar.Instant
  | date t => some t
  | string s => Calendar.readDate? s.toList
  | _ => none

/-- The value as a text. -/
def string? : Value → Option String
  | string s => some s
  | _ => none

/-! ### Texts -/

/-- The text of a truth value. -/
def booleanText (b : Bool) : String := if b then "true" else "false"

mutual

/-- **The text of a value** in a cell: nothing for a missing value, and the items of a list with
commas between them. -/
def text : Value → String
  | absent => ""
  | null => ""
  | boolean b => booleanText b
  | integer n => integerText n.toInt
  | real x => x.text
  | string s => s
  | date t => t.text
  | list items => itemsText items

/-- The texts of the items of a list, with commas between them. -/
def itemsText : List Value → String
  | [] => ""
  | [item] => item.text
  | item :: items => item.text ++ ", " ++ itemsText items

end

/-- The text of a value in a message, where missing values have names and a text has quotes. -/
def displayText : Value → String
  | absent => "<absent>"
  | null => "null"
  | string s => "\"" ++ s ++ "\""
  | v => v.text

/-! ### Documents -/

mutual

/-- **The value of a document.** A whole number beyond 64 bits is a binary number, and an object is
the text of itself. -/
def ofJson : Json → Value
  | .null => null
  | .boolean b => boolean b
  | .integer n => if Number.fitsInteger n then integer (.ofInt n) else real (.ofInt n)
  | .number x => real x
  | .string s => string s
  | .array items => list (ofJsonItems items)
  | .object members => string (Json.object members).text

/-- The values of the items of an array. -/
def ofJsonItems : List Json → List Value
  | [] => []
  | item :: items => ofJson item :: ofJsonItems items

end

mutual

/-- **The document of a value.** Missing values are null, and dates are texts. -/
def toJson : Value → Json
  | absent => .null
  | null => .null
  | boolean b => .boolean b
  | integer n => .integer n.toInt
  | real x => .number x
  | string s => .string s
  | date t => .string t.offsetText
  | list items => .array (itemsToJson items)

/-- The documents of the items of a list. -/
def itemsToJson : List Value → List Json
  | [] => []
  | item :: items => item.toJson :: itemsToJson items

end

end Value

end Notebook
