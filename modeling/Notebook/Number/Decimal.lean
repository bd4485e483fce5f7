import Notebook.Number.Notation

/-!
# Decimal numbers

Numbers with up to 28 decimal places, as whole multiples of `10 ^ (-28)`. Values of different kinds
are compared in this form, where `0.1` is exactly one tenth.

Three things become decimals: an integer, exactly; a text, by `Notebook.Number.Decimal.ofText?`; and
a binary number, by `Notebook.Number.Decimal.ofBinary?`. The last two work in a **coefficient** of
96 bits and a count of places. A text with more digits than fit is rounded where they stop; a binary
number with a fraction is cut to the fifteen or sixteen digits that such a number can vouch for, so
that a sum such as `0.1 + 0.2` is three tenths again.
-/

namespace Notebook.Number

/-- **A decimal number**, counted in units of `10 ^ (-28)`. -/
structure Decimal where
  /-- The number as a multiple of `10 ^ (-28)`. -/
  units : Int
  deriving DecidableEq

namespace Decimal

/-- The greatest count of decimal places. -/
def maxPlaces : Nat := 28

/-- Coefficients are below this bound. -/
def coefficientBound : Nat := Nat.pow 2 96

/-- The order of two decimals. -/
def order (x y : Decimal) : Ordering := compare x.units y.units

/-- The decimal with a sign, a coefficient and a count of places up to `maxPlaces`. -/
def ofCoefficient (negative : Bool) (coefficient places : Nat) : Decimal :=
  let magnitude : Int := (coefficient * Nat.pow 10 (maxPlaces - places) : Nat)
  ⟨if negative then -magnitude else magnitude⟩

/-- A whole number as a decimal. -/
def ofInt (n : Int) : Decimal := ⟨n * (Nat.pow 10 maxPlaces : Nat)⟩

/-! ### Reading a text -/

/-- What has been read of a decimal text. -/
structure Reading where
  /-- The digits so far. -/
  coefficient : Nat := 0
  /-- How many of them come after the point. -/
  places : Nat := 0
  /-- Whether the point has been read. -/
  pointSeen : Bool := false
  /-- Whether a digit has been read. -/
  digitSeen : Bool := false

/-- The next greater coefficient; one that would pass the bound gives up a place instead. -/
def roundUp? (coefficient places : Nat) : Option (Nat × Nat) :=
  if coefficient + 1 < coefficientBound then some (coefficient + 1, places)
  else if places = 0 then none
  else some ((coefficient + 5) / 10, places - 1)

/-- Rounds a full coefficient by the first digit that no longer fits. The digits after that one have
no say, but nothing else than digits and underscores may follow. -/
def roundFull (coefficient places : Nat) (rest : List Char) : Option (Nat × Nat) :=
  if !rest.all (fun c => c.isDigit || c == '_') then none
  else if (rest.find? Char.isDigit).any (5 ≤ digitValue ·) then roundUp? coefficient places
  else some (coefficient, places)

/-- Reads digits, at most one point, and underscores after a digit; the coefficient and the
places. -/
def readDigits (r : Reading) : List Char → Option (Nat × Nat)
  | [] => if r.digitSeen then some (r.coefficient, r.places) else none
  | c :: rest =>
    if r.digitSeen && r.places == maxPlaces then roundFull r.coefficient r.places (c :: rest)
    else if c.isDigit then
      let coefficient := r.coefficient * 10 + digitValue c
      if coefficient < coefficientBound then
        readDigits { r with
          coefficient := coefficient
          places := if r.pointSeen then r.places + 1 else 0
          digitSeen := true } rest
      else if r.pointSeen then roundFull r.coefficient r.places (c :: rest)
      else none
    else if c = '.' && !r.pointSeen then readDigits { r with pointSeen := true } rest
    else if c = '_' && r.digitSeen then readDigits r rest
    else none

/-- Reads an optional sign and the digits after it. -/
def readSigned : List Char → Option (Bool × Nat × Nat)
  | '-' :: rest => (readDigits {} rest).map (true, ·)
  | '+' :: rest => (readDigits {} rest).map (false, ·)
  | text => (readDigits {} text).map (false, ·)

/-- Reads an optional plus sign and at least one digit, as a number. -/
def readNatural? (s : List Char) : Option Nat :=
  let digits := match s with
    | '+' :: rest => rest
    | _ => s
  if digits.isEmpty || !digits.all Char.isDigit then none
  else some (wholeOf digits)

/-- Moves the point of a coefficient by a power of ten of at most 28 in size. To the left, what
passes the last place is rounded, half away from zero; to the right, the coefficient has to stay in
its bound. -/
def shift? (coefficient places : Nat) (toLeft : Bool) (count : Nat) : Option (Nat × Nat) :=
  if maxPlaces < count then none
  else if toLeft then
    if places + count ≤ maxPlaces then some (coefficient, places + count)
    else some (roundQuotient .up coefficient (Nat.pow 10 (places + count - maxPlaces)), maxPlaces)
  else if count ≤ places then some (coefficient, places - count)
  else
    let moved := coefficient * Nat.pow 10 (count - places)
    if moved < coefficientBound then some (moved, 0) else none

/-- Reads a text with an exponent, which stands after the first `e` or `E`. -/
def readScientific (s : List Char) : Option (Bool × Nat × Nat) := do
  let isMark (c : Char) : Bool := c == 'e' || c == 'E'
  let (negative, coefficient, places) ← readSigned (s.takeWhile (!isMark ·))
  let exponent := (s.dropWhile (!isMark ·)).drop 1
  let (toLeft, digits) := match exponent with
    | '-' :: rest => (true, rest)
    | _ => (false, exponent)
  let count ← readNatural? digits
  let moved ← shift? coefficient places toLeft count
  return (negative, moved)

/-- **The decimal that a text spells**, without white space around it. -/
def ofText? (s : List Char) : Option Decimal :=
  ((readSigned s).or (readScientific s)).map fun (negative, coefficient, places) =>
    ofCoefficient negative coefficient places

/-! ### Converting a binary number -/

/-- A magnitude that is a whole number; from `2 ^ 96` on there is no coefficient for it. -/
def ofWhole? (n : Nat) : Option (Nat × Nat) := if n < coefficientBound then some (n, 0) else none

/-- Takes `halvings` factors of two out of a coefficient. An odd coefficient is multiplied by five
instead, at one more place; where that would pass the bound it is halved all the same. -/
def takeHalves : (halvings coefficient places : Nat) → Nat × Nat
  | 0, coefficient, places => (coefficient, places)
  | n + 1, coefficient, places =>
    if coefficient % 2 = 0 then takeHalves n (coefficient / 2) places
    else if coefficient * 5 < coefficientBound then takeHalves n (coefficient * 5) (places + 1)
    else takeHalves n (coefficient / 2) places

/-- Drops places beyond the last one, rounding half up at each step; a coefficient that a step would
leave at zero is zero. -/
def dropExcessPlaces : (places coefficient : Nat) → Nat × Nat
  | 0, coefficient => (coefficient, 0)
  | p + 1, coefficient =>
    if p + 1 ≤ maxPlaces then (coefficient, p + 1)
    else if coefficient / 10 = 0 then (0, 0)
    else dropExcessPlaces p (roundQuotient .up coefficient 10)

/-- Drops places while the coefficient has more digits than a binary number vouches for. -/
def dropExcessDigits : (places coefficient : Nat) → Nat × Nat
  | 0, coefficient => (coefficient, 0)
  | p + 1, coefficient =>
    if coefficient < Nat.pow 2 52 then (coefficient, p + 1)
    else dropExcessDigits p (roundQuotient .up coefficient 10)

/-- The coefficient and the places of a magnitude. -/
def ofMagnitude? (x : Finite) : Option (Nat × Nat) :=
  if 0 ≤ x.exponent then ofWhole? (x.significand * Nat.pow 2 x.exponent.toNat)
  else
    let (coefficient, places) := takeHalves (-x.exponent).toNat x.significand 0
    let (coefficient, places) := dropExcessPlaces places coefficient
    some (dropExcessDigits places coefficient)

/-- **The decimal for a binary number**; there is none for not-a-number, an infinity, or a magnitude
from `2 ^ 96` on. -/
def ofBinary? : Binary64 → Option Decimal
  | .finite x => (ofMagnitude? x).map fun (coefficient, places) =>
      ofCoefficient x.negative coefficient places
  | _ => none

/-! ### Writing -/

/-- The text of a decimal, without zeros at the end of its places. -/
def text (x : Decimal) : String :=
  let one := Nat.pow 10 maxPlaces
  let places := (padded maxPlaces (x.units.natAbs % one)).toList.reverse.dropWhile (· == '0')
  (if x.units < 0 then "-" else "") ++ digitsOf (x.units.natAbs / one) ++
    (if places.isEmpty then "" else "." ++ String.ofList places.reverse)

end Decimal

end Notebook.Number
