import Notebook.Evaluation.Function
import Notebook.Text.Split

/-!
# The functions that every query may call

`contains`, `length`, `lower`, `upper`, `startswith`, `endswith` and `default`. Each one takes a
missing value for its first argument without an error, and refuses values of a kind it cannot work
on.
-/

namespace Notebook.Evaluation

open Value

/-- A failure because of the kind of a value. -/
def typeError {α : Type} (message : String) : Except Stop α := .error (.error (.type message ""))

/-- Whether a text or a list holds a value. A list holds what equals one of its items; a text holds
the texts that occur in it, and a number whose text does. -/
def contains (collection item : Value) : Except Stop Value :=
  match collection with
  | absent => .ok (boolean false)
  | null => .ok (boolean false)
  | list items => .ok (boolean (items.any (looselyEquals · item)))
  | string s =>
    match item with
    | string part => .ok (boolean (Text.occursIn part.toList s.toList))
    | absent => .ok (boolean false)
    | null => .ok (boolean false)
    | other =>
      if other.isNumber then .ok (boolean (Text.occursIn other.text.toList s.toList))
      else typeError ("contains() cannot search a string for " ++ other.kindName)
  | other => typeError ("contains() expects a string or array, got " ++ other.kindName)

/-- The count of characters of a text or of items of a list. -/
def length (v : Value) : Except Stop Value :=
  match v with
  | absent => .ok (integer 0)
  | null => .ok (integer 0)
  | string s => .ok (integer (.ofNat s.toList.length))
  | list items => .ok (integer (.ofNat items.length))
  | other => typeError ("length() expects a string or array, got " ++ other.kindName)

/-- A text with its characters changed; a missing value stays. -/
def mapText (name : String) (f : List Char → List Char) (v : Value) : Except Stop Value :=
  match v with
  | string s => .ok (string (String.ofList (f s.toList)))
  | other =>
    if other.isMissing then .ok other
    else typeError (name ++ "() expects a string, got " ++ other.kindName)

/-- Whether two texts pass a test; a missing subject does not. -/
def testTexts (name : String) (test : List Char → List Char → Bool) (subject pattern : Value) :
    Except Stop Value :=
  match subject, pattern with
  | string s, string p => .ok (boolean (test s.toList p.toList))
  | s, p =>
    if s.isMissing then .ok (boolean false)
    else typeError
      (name ++ "() expects two strings, got " ++ s.kindName ++ " and " ++ p.kindName)

/-- **The registry of the built-in functions.** -/
def builtins : Registry :=
  Registry.register (Registry.register (Registry.register (Registry.register
    (Registry.register (Registry.register (Registry.register Dictionary.empty
      "contains" 2 fun v => contains v[0] v[1])
      "length" 1 fun v => length v[0])
      "lower" 1 fun v => mapText "lower" Unicode.lowercase v[0])
      "upper" 1 fun v => mapText "upper" Unicode.uppercase v[0])
      "startswith" 2 fun v => testTexts "startswith" (fun s p => p.isPrefixOf s) v[0] v[1])
      "endswith" 2 fun v => testTexts "endswith" (fun s p => p.isSuffixOf s) v[0] v[1])
      "default" 2 fun v => .ok (if v[0].isMissing then v[1] else v[0])

end Notebook.Evaluation
