import Notebook.Json.Reading

/-!
# Reading records

Readers of given shapes: texts, truth values, whole numbers, values that may be `null`, lists, and
records. A record is written as an object, whose keys come in any order and of which unknown ones
are passed over, or as an array of its fields in order, of which the last ones may be left out. The
fields of a record are its `Notebook.Json.Slot`s.
-/

namespace Notebook.Json

/-! ### Leaves -/

/-- Reports a shape that was not expected. A leaf is read through first, so that a fault inside it
comes before that of its shape. -/
def wrongShape {α : Type} : Reader α := fun s =>
  match skipSpace s with
  | [] => .error .ended
  | '[' :: _ => .error .mismatched
  | '{' :: _ => .error .mismatched
  | _ =>
    match readDocument true 0 s with
    | .error fault => .error fault
    | .ok _ => .error .mismatched

/-- Reads a text. -/
def readText : Reader String := fun s =>
  match skipSpace s with
  | '"' :: rest => readQuoted true [] rest
  | _ => wrongShape s

/-- Reads a truth value. -/
def readBoolean : Reader Bool := fun s =>
  match skipSpace s with
  | 't' :: rest => do return (true, (← readWord ['r', 'u', 'e'] rest).2)
  | 'f' :: rest => do return (false, (← readWord ['a', 'l', 's', 'e'] rest).2)
  | _ => wrongShape s

/-- Reads a whole number that is not negative. -/
def readNatural : Reader Nat := fun s =>
  if (skipSpace s).head?.any (fun c => c == '-' || c.isDigit) then do
    match ← readDocument true 0 s with
    | (integer n, rest) => if 0 ≤ n then .ok (n.toNat, rest) else .error .mismatched
    | _ => .error .mismatched
  else wrongShape s

/-- Reads `null`, or a value with a reader. -/
def readOptional {α : Type} (reader : Reader α) : Reader (Option α) := fun s =>
  match skipSpace s with
  | 'n' :: rest => do return (none, (← readWord ['u', 'l', 'l'] rest).2)
  | _ => do
    let (value, rest) ← reader s
    return (some value, rest)

/-! ### Lists and maps -/

/-- Reads an array, where `depth` brackets may be open, with a reader for its items. -/
def readList {α : Type} (item : (depth : Nat) → Reader α) : (depth : Nat) → Reader (List α)
  | depth, s =>
    match skipSpace s with
    | '[' :: rest =>
      match depth with
      | 0 => .error .malformed
      | depth + 1 => do
        let (items, rest) ← foldItems (fun items s => do
          let (x, s) ← item depth s
          return (x :: items, s)) true [] rest
        return (items.reverse, rest)
    | _ => wrongShape s

/-- Reads an object with any keys, where `depth` brackets may be open, putting each member into a
result that starts as `start`. -/
def readMembers {σ : Type} (put : String → Json → σ → σ) (start : σ) : (depth : Nat) → Reader σ
  | depth, s =>
    match skipSpace s with
    | '{' :: rest =>
      match depth with
      | 0 => .error .malformed
      | depth + 1 =>
        foldMembers true (fun state key s => do
          let (value, s) ← readDocument true depth (← readColon s)
          return (put key value state, s)) true start rest
    | _ => wrongShape s

/-! ### Records -/

/-- **A field of a record** that is built up as a value of type `σ`. -/
structure Slot (σ : Type) where
  /-- The key of the field. -/
  key : String
  /-- Whether a record without the field is refused. -/
  required : Bool := false
  /-- Reads the value of the field into the record, where so many brackets may be open. -/
  read : (depth : Nat) → σ → Reader σ

/-- A slot that reads a value of its own and puts it into the record. -/
def Slot.of {σ α : Type} (key : String) (reader : Reader α) (put : σ → α → σ) : Slot σ where
  key := key
  read := fun _ record s => do
    let (value, rest) ← reader s
    return (put record value, rest)

/-- Reads the fields of a record from an array after its opening bracket. -/
def readSlots {σ : Type} (depth : Nat) (first : Bool) (record : σ) :
    List (Slot σ) → List Char → Except Fault (σ × List Char)
  | [], s =>
    match skipSpace s with
    | [] => .error .ended
    | ']' :: rest => .ok (record, rest)
    | _ => .error .malformed
  | slot :: slots, s => do
    let read (s : List Char) : Except Fault (σ × List Char) := do
      let (record, rest) ← slot.read depth record s
      readSlots depth false record slots rest
    match skipSpace s with
    | [] => .error .ended
    | ']' :: rest =>
      if (slot :: slots).any (·.required) then .error .mismatched else .ok (record, rest)
    | c :: rest =>
      if first then read (c :: rest)
      else if c = ',' then
        match skipSpace rest with
        | [] => .error .ended
        | ']' :: _ => .error .malformed
        | after => read after
      else .error .malformed

/-- Reads one member of a record, whose keys so far are `seen`. -/
def readField {σ : Type} (slots : List (Slot σ)) (depth : Nat) (state : σ × List String)
    (key : String) : Reader (σ × List String) := fun s =>
  match slots.find? (·.key == key) with
  | none => do
    let ((), rest) ← skipDocument (← readColon s)
    return (state, rest)
  | some slot =>
    if state.2.contains key then .error .mismatched
    else do
      let (record, rest) ← slot.read depth state.1 (← readColon s)
      return ((record, key :: state.2), rest)

/-- **Reads a record** with the given fields, which starts as `start`. -/
def readRecord {σ : Type} (slots : List (Slot σ)) (start : σ) : (depth : Nat) → Reader σ
  | depth, s =>
    match skipSpace s with
    | '[' :: rest =>
      match depth with
      | 0 => .error .malformed
      | depth + 1 => readSlots depth true start slots rest
    | '{' :: rest =>
      match depth with
      | 0 => .error .malformed
      | depth + 1 => do
        let ((record, seen), rest) ← foldMembers true (readField slots depth) true (start, []) rest
        if slots.any (fun slot => slot.required && !seen.contains slot.key) then .error .mismatched
        else return (record, rest)
    | _ => wrongShape s

end Notebook.Json
