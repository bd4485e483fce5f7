import Notebook.Number.Notation

/-!
# JSON documents

The tree of a JSON document and its two texts. Whole numbers and binary numbers are kept apart: the
first are written as their digits, the second always with a point or an exponent. An object lists
its members in the order in which they are written.

`Notebook.Json.text` writes a document without white space, `Notebook.Json.prettyText` with one
member or item to a line and two spaces for each level.
-/

namespace Notebook

open Number

/-- **A JSON document.** -/
inductive Json
  /-- The word `null`. -/
  | null
  /-- A truth value. -/
  | boolean (value : Bool)
  /-- A whole number. -/
  | integer (value : Int)
  /-- A binary number. -/
  | number (value : Binary64)
  /-- A text. -/
  | string (value : String)
  /-- An array. -/
  | array (items : List Json)
  /-- An object, with its members in order. -/
  | object (members : List (String × Json))
  deriving Inhabited

namespace Json

/-! ### Leaves -/

/-- Binary numbers have an exponent from `1e+16` on and below `0.00001`, and a point otherwise. -/
def numberLayout : Layout := ⟨some (-5, 15), ".0", .even⟩

/-- The text of a binary number; what is not finite has none, and becomes `null`. -/
def numberText : Binary64 → String
  | .finite x => numberLayout.text (.finite x)
  | _ => "null"

/-- A digit of base sixteen in lower case. -/
def hexDigit (n : Nat) : Char := "0123456789abcdef".toList.getD n '0'

/-- A character inside a quoted text. -/
def escaped (c : Char) : List Char :=
  match c with
  | '"' => ['\\', '"']
  | '\\' => ['\\', '\\']
  | '\n' => ['\\', 'n']
  | '\r' => ['\\', 'r']
  | '\t' => ['\\', 't']
  | '\x08' => ['\\', 'b']
  | '\x0c' => ['\\', 'f']
  | _ =>
    if c.toNat < 32 then ['\\', 'u', '0', '0', hexDigit (c.toNat / 16), hexDigit (c.toNat % 16)]
    else [c]

/-- A text in quotes. -/
def quoted (s : String) : String :=
  String.ofList ('"' :: s.toList.flatMap escaped ++ ['"'])

/-! ### Documents -/

mutual

/-- **The text of a document** without white space. -/
def text : Json → String
  | null => "null"
  | boolean value => if value then "true" else "false"
  | integer value => integerText value
  | number value => numberText value
  | string value => quoted value
  | array items => "[" ++ itemsText items ++ "]"
  | object members => "\x7b" ++ membersText members ++ "\x7d"

/-- The items of an array, with commas between them. -/
def itemsText : List Json → String
  | [] => ""
  | [item] => item.text
  | item :: items => item.text ++ "," ++ itemsText items

/-- The members of an object, with commas between them. -/
def membersText : List (String × Json) → String
  | [] => ""
  | [(key, value)] => quoted key ++ ":" ++ value.text
  | (key, value) :: members => quoted key ++ ":" ++ value.text ++ "," ++ membersText members

end

/-- A new line at a level. -/
def newLine (level : Nat) : String := "\n" ++ String.ofList (List.replicate (2 * level) ' ')

mutual

/-- The indented text of a document at a level. -/
def indentedText (level : Nat) : Json → String
  | array [] => "[]"
  | array items =>
    "[" ++ newLine (level + 1) ++ indentedItems (level + 1) items ++ newLine level ++ "]"
  | object [] => "\x7b\x7d"
  | object members =>
    "\x7b" ++ newLine (level + 1) ++ indentedMembers (level + 1) members ++ newLine level ++ "\x7d"
  | leaf => leaf.text

/-- The items of an array, each on a line of its own. -/
def indentedItems (level : Nat) : List Json → String
  | [] => ""
  | [item] => item.indentedText level
  | item :: items => item.indentedText level ++ "," ++ newLine level ++ indentedItems level items

/-- The members of an object, each on a line of its own. -/
def indentedMembers (level : Nat) : List (String × Json) → String
  | [] => ""
  | [(key, value)] => quoted key ++ ": " ++ value.indentedText level
  | (key, value) :: members =>
    quoted key ++ ": " ++ value.indentedText level ++ "," ++ newLine level ++
      indentedMembers level members

end

/-- **The text of a document** with one member or item to a line. -/
def prettyText (document : Json) : String := document.indentedText 0

/-- A missing value as `null`. -/
def ofOption {α : Type} (encode : α → Json) : Option α → Json
  | some x => encode x
  | none => null

/-- An array of texts. -/
def ofStrings (items : List String) : Json := array (items.map string)

end Json

end Notebook
