/-!
# Digits

Whole numbers and their decimal digits, in both directions, and the bound of the integers that a
value can hold.
-/

namespace Notebook.Number

/-! ### Reading -/

/-- The value of a decimal digit. -/
def digitValue (c : Char) : Nat := c.toNat - '0'.toNat

/-- **The number that decimal digits spell**; no digits spell zero. -/
def wholeOf (digits : List Char) : Nat :=
  digits.foldl (fun n c => n * 10 + digitValue c) 0

/-- The integer that an optional sign and at least one digit spell. -/
def signedWhole? (s : List Char) : Option Int :=
  let (negative, digits) := match s with
    | '-' :: rest => (true, rest)
    | '+' :: rest => (false, rest)
    | _ => (false, s)
  if digits.isEmpty || !digits.all Char.isDigit then none
  else some (if negative then -(wholeOf digits : Int) else wholeOf digits)

/-- **Whether an integer has 64 bits** with its sign. -/
def fitsInteger (n : Int) : Bool :=
  -(Nat.pow 2 63 : Nat) ≤ n && n < (Nat.pow 2 63 : Nat)

/-! ### Writing -/

/-- The decimal digits of a natural number. -/
def digitsOf (n : Nat) : String := toString n

/-- A text of zeros. -/
def zeros (n : Nat) : String := String.ofList (List.replicate n '0')

/-- A natural number in at least `width` digits, filled with zeros on the left. -/
def padded (width n : Nat) : String :=
  zeros (width - (digitsOf n).length) ++ digitsOf n

/-- The integer in decimal, with a minus sign when it is negative. -/
def integerText (n : Int) : String :=
  (if n < 0 then "-" else "") ++ digitsOf n.natAbs

end Notebook.Number
