import Notebook.Json.Basic

/-!
# Reading JSON

Reading from left to right, with the first problem reported by its kind, a `Notebook.Json.Fault`:
the text ended early, the text is not JSON, or it is JSON of another shape than the reader wants.
A reader of a given shape checks the shape while it reads, so that the first problem in the text is
the one that counts.

The leaves are read here: white space, words, texts in quotes, and numbers. A whole number that fits
64 bits stays whole; `-0` and every other number become binary numbers. A number with a fraction or
an exponent is rounded twice: its digits make a whole number, as many as fit 64 bits, which is
rounded and then multiplied or divided by a rounded power of ten.
-/

namespace Notebook.Json

open Number

/-- **What is wrong** with a text that is read. -/
inductive Fault
  /-- The text ends too early. -/
  | ended
  /-- The text is not JSON. -/
  | malformed
  /-- The text is JSON of another shape. -/
  | mismatched
  deriving DecidableEq, Repr

/-- **A reader**: takes something off the front of a text, or reports a fault. -/
abbrev Reader (α : Type) := StateT (List Char) (Except Fault) α

/-- A reader that reports a fault. -/
def fail {α : Type} (fault : Fault) : Reader α := fun _ => .error fault

/-! ### White space and words -/

/-- Whether a character is white space between the parts of a document. -/
def isSpace (c : Char) : Bool := c == ' ' || c == '\n' || c == '\t' || c == '\r'

/-- The text without white space at its start. -/
def skipSpace (s : List Char) : List Char := s.dropWhile isSpace

/-- Reads the characters of a word. -/
def readWord : List Char → Reader Unit
  | [] => pure ()
  | c :: word => fun s =>
    match s with
    | [] => .error .ended
    | d :: rest => if d = c then readWord word rest else .error .malformed

/-! ### Texts in quotes -/

/-- The value of a digit of base sixteen. -/
def hexValue? (c : Char) : Option Nat :=
  if c.isDigit then some (digitValue c)
  else if 'a' ≤ c ∧ c ≤ 'f' then some (c.toNat - 'a'.toNat + 10)
  else if 'A' ≤ c ∧ c ≤ 'F' then some (c.toNat - 'A'.toNat + 10)
  else none

/-- The number that four digits of base sixteen at the start of a text spell. The text has ended
early when it holds less than four bytes more. -/
def hexCode (s : List Char) : Except Fault Nat :=
  let four := s.take 4
  if four.foldl (fun size c => size + c.utf8Size) 0 < 4 then .error .ended
  else
    match four.mapM hexValue? with
    | some [a, b, c, d] => .ok (((a * 16 + b) * 16 + c) * 16 + d)
    | _ => .error .malformed

/-- The character for the letter after a backslash. -/
def escapeLetter? : Char → Option Char
  | '"' => some '"'
  | '\\' => some '\\'
  | '/' => some '/'
  | 'b' => some '\x08'
  | 'f' => some '\x0c'
  | 'n' => some '\n'
  | 'r' => some '\r'
  | 't' => some '\t'
  | _ => none

/-- The character for a code after `\u`, and how many characters after the code belong to it: a code
of the first half of a pair needs the second half right after it. -/
def unitCharacter (code : Nat) (rest : List Char) : Except Fault (Char × Nat) :=
  if 0xDC00 ≤ code ∧ code ≤ 0xDFFF then .error .malformed
  else if code < 0xD800 ∨ 0xDBFF < code then .ok (Char.ofNat code, 0)
  else
    match rest with
    | [] => .error .ended
    | '\\' :: [] => .error .ended
    | '\\' :: 'u' :: rest => do
      let second ← hexCode rest
      if second < 0xDC00 ∨ 0xDFFF < second then .error .malformed
      else .ok (Char.ofNat (0x10000 + (code - 0xD800) * 1024 + (second - 0xDC00)), 6)
    | _ => .error .malformed

/-- Reads a text after its opening quote; `before` is what has been read, reversed. Halves of pairs
are paired only when `strict`. -/
def readQuoted (strict : Bool) (before : List Char) (s : List Char) :
    Except Fault (String × List Char) :=
  match s with
  | [] => .error .ended
  | '"' :: rest => .ok (String.ofList before.reverse, rest)
  | '\\' :: [] => .error .ended
  | '\\' :: 'u' :: rest =>
    match hexCode rest with
    | .error fault => .error fault
    | .ok code =>
      if strict then
        match unitCharacter code (rest.drop 4) with
        | .error fault => .error fault
        | .ok (c, more) => readQuoted strict (c :: before) (rest.drop (4 + more))
      else readQuoted strict before (rest.drop 4)
  | '\\' :: letter :: rest =>
    match escapeLetter? letter with
    | some c => readQuoted strict (c :: before) rest
    | none => .error .malformed
  | c :: rest => if c.toNat < 32 then .error .malformed else readQuoted strict (c :: before) rest
termination_by s.length
decreasing_by all_goals (simp only [List.length_cons, List.length_drop]; omega)

/-! ### Numbers -/

/-- Whole numbers are read into 64 bits. -/
def wholeBound : Nat := Nat.pow 2 64

/-- Appends digits to a whole number while it stays in its bound; also gives the digits left
over. -/
def appendDigits (n : Nat) : List Char → Nat × List Char
  | [] => (n, [])
  | c :: rest =>
    let next := n * 10 + digitValue c
    if next < wholeBound then appendDigits next rest else (n, c :: rest)

/-- A power of ten as a binary number. -/
def powerOfTen (n : Nat) : Binary64 := .ofDecimal false 1 n

/-- Multiplies or divides a binary number by a power of ten, in steps of `10 ^ 308`. Going beyond
the greatest number is a fault. -/
def scale (x : Binary64) (exponent : Int) : Except Fault Binary64 :=
  if exponent.natAbs ≤ 308 then
    match x, powerOfTen exponent.natAbs with
    | .finite x, .finite p =>
      if 0 ≤ exponent then
        match Binary64.product x p with
        | .infinite _ => .error .malformed
        | y => .ok y
      else .ok (Binary64.ratio x p)
    | x, _ => .ok x
  else if x.isZero then .ok x
  else if 0 ≤ exponent then .error .malformed
  else
    match x, powerOfTen 308 with
    | .finite x, .finite p => scale (Binary64.ratio x p) (exponent + 308)
    | x, _ => .ok x
termination_by exponent.natAbs
decreasing_by omega

/-- The number with a sign, digits, and a power of ten. -/
def realNumber (negative : Bool) (digits : Nat) (exponent : Int) : Except Fault Json := do
  let x ← scale (.ofInt digits) exponent
  return number (if negative then x.negate else x)

/-- Reads an exponent after its letter. An exponent beyond 32 bits is settled by its sign. -/
def readExponent (negative : Bool) (digits : Nat) (start : Int) (s : List Char) :
    Except Fault (Json × List Char) := do
  let (toLeft, s) := match s with
    | '+' :: rest => (false, rest)
    | '-' :: rest => (true, rest)
    | _ => (false, s)
  match s with
  | [] => .error .ended
  | c :: _ =>
    if !c.isDigit then .error .malformed
    else
      let exponent := s.takeWhile Char.isDigit
      let rest := s.dropWhile Char.isDigit
      let size : Int := wholeOf exponent
      if size < Nat.pow 2 31 then
        return (← realNumber negative digits (if toLeft then start - size else start + size), rest)
      else if digits ≠ 0 ∧ !toLeft then .error .malformed
      else return (number (.zero negative), rest)

/-- Reads what may follow the digits of a number with a fraction, or of a long whole number. -/
def readAfterDigits (negative : Bool) (digits : Nat) (exponent : Int) (s : List Char) :
    Except Fault (Json × List Char) :=
  match s with
  | 'e' :: rest => readExponent negative digits exponent rest
  | 'E' :: rest => readExponent negative digits exponent rest
  | _ => return (← realNumber negative digits exponent, s)

/-- Reads a fraction after its point, at least one digit. -/
def readFraction (negative : Bool) (digits : Nat) (exponent : Int) (s : List Char) :
    Except Fault (Json × List Char) :=
  let places := s.takeWhile Char.isDigit
  let rest := s.dropWhile Char.isDigit
  if places.isEmpty then .error (if rest.isEmpty then .ended else .malformed)
  else
    let (digits, left) := appendDigits digits places
    readAfterDigits negative digits (exponent - (places.length - left.length : Nat)) rest

/-- A whole number with a sign. Zero with a minus sign, and numbers that need more than 64 bits with
their sign, are binary numbers. -/
def wholeNumber (negative : Bool) (n : Nat) : Json :=
  if !negative then integer n
  else if 0 < n ∧ n ≤ Nat.pow 2 63 then integer (-n)
  else number (Binary64.ofInt n).negate

/-- **Reads a number** after its sign. -/
def readNumber (negative : Bool) (s : List Char) : Except Fault (Json × List Char) :=
  match s with
  | [] => .error .ended
  | c :: others =>
    if !c.isDigit then .error .malformed
    else if c = '0' ∧ (others.head?.any Char.isDigit) then .error .malformed
    else
      let rest := s.dropWhile Char.isDigit
      let (digits, left) := appendDigits 0 (s.takeWhile Char.isDigit)
      match rest with
      | '.' :: rest => readFraction negative digits left.length rest
      | 'e' :: rest => readExponent negative digits left.length rest
      | 'E' :: rest => readExponent negative digits left.length rest
      | _ =>
        if left.isEmpty then .ok (wholeNumber negative digits, rest)
        else return (← realNumber negative digits left.length, rest)

/-- Reads past at least one digit. -/
def passDigits : Reader Unit := fun s =>
  if (s.takeWhile Char.isDigit).isEmpty then .error .malformed
  else .ok ((), s.dropWhile Char.isDigit)

/-- Reads past the whole part of a number, which has no zero in front of other digits. -/
def passWhole : Reader Unit := fun s =>
  match s with
  | '0' :: rest =>
    if rest.head?.any Char.isDigit then .error .malformed else .ok ((), rest)
  | _ => passDigits s

/-- Reads past the point and the digits of a fraction, if there is one. -/
def passFraction : Reader Unit := fun s =>
  match s with
  | '.' :: rest => passDigits rest
  | _ => .ok ((), s)

/-- Reads past an exponent, if there is one. -/
def passExponent : Reader Unit := fun s =>
  match s with
  | c :: '+' :: rest => if c = 'e' ∨ c = 'E' then passDigits rest else .ok ((), s)
  | c :: '-' :: rest => if c = 'e' ∨ c = 'E' then passDigits rest else .ok ((), s)
  | c :: rest => if c = 'e' ∨ c = 'E' then passDigits rest else .ok ((), s)
  | [] => .ok ((), s)

/-- Reads past a number after its sign without taking its value. A number that breaks off is no
number here, whether or not the text ends with it. -/
def passNumber : Reader Json := do
  passWhole
  passFraction
  passExponent
  return null

/-! ### Arrays and objects -/

/-- Reads the items of an array after its opening bracket, through the closing one, with `step` for
each item. -/
def foldItems {σ : Type} (step : σ → Reader σ) (first : Bool) (state : σ) (s : List Char) :
    Except Fault (σ × List Char) :=
  let item (at_ : List Char) : Except Fault (σ × List Char) :=
    match step state at_ with
    | .error fault => .error fault
    | .ok (state, rest) =>
      if rest.length < s.length then foldItems step false state rest else .error .malformed
  match skipSpace s with
  | [] => .error .ended
  | ']' :: rest => .ok (state, rest)
  | c :: rest =>
    if first then item (c :: rest)
    else if c = ',' then
      match skipSpace rest with
      | [] => .error .ended
      | ']' :: _ => .error .malformed
      | after => item after
    else .error .malformed
termination_by s.length

/-- Reads the colon after a key. -/
def readColon (s : List Char) : Except Fault (List Char) :=
  match skipSpace s with
  | [] => .error .ended
  | ':' :: rest => .ok rest
  | _ => .error .malformed

/-- Reads the members of an object after its opening brace, through the closing one. For each member
`step` is given the key, and reads the colon and the value. -/
def foldMembers {σ : Type} (strict : Bool) (step : σ → String → Reader σ) (first : Bool) (state : σ)
    (s : List Char) : Except Fault (σ × List Char) :=
  let member (at_ : List Char) : Except Fault (σ × List Char) :=
    match readQuoted strict [] at_ with
    | .error fault => .error fault
    | .ok (key, rest) =>
      match step state key rest with
      | .error fault => .error fault
      | .ok (state, rest) =>
        if rest.length < s.length then foldMembers strict step false state rest
        else .error .malformed
  match skipSpace s with
  | [] => .error .ended
  | '}' :: rest => .ok (state, rest)
  | '"' :: rest => if first then member rest else .error .malformed
  | c :: rest =>
    if !first && c == ',' then
      match skipSpace rest with
      | [] => .error .ended
      | '"' :: rest => member rest
      | _ => .error .malformed
    else .error .malformed
termination_by s.length

/-! ### Documents -/

/-- The members of an object in the order of their keys, with a member put in; an earlier member
with the same key gives way. -/
def putMember (key : String) (value : Json) : List (String × Json) → List (String × Json)
  | [] => [(key, value)]
  | member :: members =>
    if key < member.1 then (key, value) :: member :: members
    else if key = member.1 then (key, value) :: members
    else member :: putMember key value members

/-- Reads a document in which at most `depth` brackets are open at a time. When not `strict`,
numbers and texts are checked for their form alone. -/
def readDocument (strict : Bool) (depth : Nat) (s : List Char) : Except Fault (Json × List Char) :=
  match skipSpace s with
  | [] => .error .ended
  | 'n' :: rest => do return (null, (← readWord ['u', 'l', 'l'] rest).2)
  | 't' :: rest => do return (boolean true, (← readWord ['r', 'u', 'e'] rest).2)
  | 'f' :: rest => do return (boolean false, (← readWord ['a', 'l', 's', 'e'] rest).2)
  | '-' :: rest => if strict then readNumber true rest else passNumber rest
  | '"' :: rest => do
    let (value, rest) ← readQuoted strict [] rest
    return (string value, rest)
  | '[' :: rest =>
    match depth with
    | 0 => .error .malformed
    | depth + 1 => do
      let (items, rest) ← foldItems (fun items s => do
        let (item, s) ← readDocument strict depth s
        return (item :: items, s)) true [] rest
      return (array items.reverse, rest)
  | '{' :: rest =>
    match depth with
    | 0 => .error .malformed
    | depth + 1 => do
      let (members, rest) ← foldMembers strict (fun members key s => do
        let (value, s) ← readDocument strict depth (← readColon s)
        return (putMember key value members, s)) true [] rest
      return (object members, rest)
  | c :: rest =>
    if c.isDigit then (if strict then readNumber false (c :: rest) else passNumber (c :: rest))
    else .error .malformed

/-- At most so many brackets may be open at a time. -/
def maxDepth : Nat := 127

/-- Reads past a document of any depth. -/
def skipDocument : Reader Unit := fun s => do
  let (_, rest) ← readDocument false s.length s
  return ((), rest)

/-- **Reads a whole text** with a reader; only white space may follow. -/
def readAll {α : Type} (reader : Reader α) (s : String) : Except Fault α := do
  let (value, rest) ← reader s.toList
  if (skipSpace rest).isEmpty then return value else .error .malformed

/-- **The document that a text spells.** -/
def ofText (s : String) : Except Fault Json := readAll (readDocument true maxDepth) s

end Notebook.Json
