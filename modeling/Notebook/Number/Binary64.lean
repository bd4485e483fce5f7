import Notebook.Number.Rounding

/-!
# Binary floating point

Numbers with 53 significant bits and exponents from -1074 to 971, together with two infinities and
not-a-number: the format called binary64. A finite number is held by its sign, its significand and
its exponent in the one form that `Notebook.Number.Canonical` describes, so that equal
representations and equal signed values are the same thing.

Every finite number is a whole multiple of the least positive one, `2 ^ (-1074)`.
`Notebook.Number.Finite.units` is that multiple, an integer, and numbers are compared by it; there
is no rounding in a comparison. Numbers are made by `Notebook.Number.Binary64.ofQuotient`, which
rounds an exact quotient to the nearest number, ties to even.
-/

namespace Notebook.Number

/-! ### The format -/

/-- A significand and an exponent **in canonical form**: the significand has 53 bits, or fewer when
the exponent is the least one. -/
def Canonical (significand : Nat) (exponent : Int) : Prop :=
  significand < Nat.pow 2 53 ∧ -1074 ≤ exponent ∧ exponent ≤ 971 ∧
    (Nat.pow 2 52 ≤ significand ∨ exponent = -1074)

instance (significand : Nat) (exponent : Int) : Decidable (Canonical significand exponent) :=
  inferInstanceAs (Decidable (_ ∧ _ ∧ _ ∧ _))

/-- A finite number, `significand * 2 ^ exponent` with a sign; zero has both signs. -/
structure Finite where
  /-- Whether the sign is minus. -/
  negative : Bool
  /-- The digits of the number in base two. -/
  significand : Nat
  /-- The power of two that the significand is multiplied by. -/
  exponent : Int
  /-- There is one representation of each number. -/
  canonical : Canonical significand exponent
  deriving DecidableEq

/-- **A binary floating point number.** -/
inductive Binary64
  /-- Not a number. -/
  | nan
  /-- An infinity with its sign. -/
  | infinite (negative : Bool)
  /-- A finite number. -/
  | finite (number : Finite)
  deriving DecidableEq

/-! ### Values -/

namespace Finite

/-- The magnitude as a multiple of `2 ^ (-1074)`. -/
def magnitude (x : Finite) : Nat := x.significand * Nat.pow 2 (x.exponent + 1074).toNat

/-- **The value** as a multiple of `2 ^ (-1074)`. -/
def units (x : Finite) : Int := if x.negative then -x.magnitude else x.magnitude

/-- The magnitude as a quotient of natural numbers. -/
def quotient (x : Finite) : Nat × Nat :=
  if 0 ≤ x.exponent then (x.significand * Nat.pow 2 x.exponent.toNat, 1)
  else (x.significand, Nat.pow 2 (-x.exponent).toNat)

end Finite

namespace Binary64

/-- Zero with a sign. -/
def zero (negative : Bool) : Binary64 :=
  finite ⟨negative, 0, -1074, by decide⟩

/-- Whether this is not-a-number. -/
def isNan (x : Binary64) : Bool := x matches nan

/-- Whether this is zero, of either sign. -/
def isZero : Binary64 → Bool
  | finite x => x.significand == 0
  | _ => false

/-- The number with its sign turned around. -/
def negate : Binary64 → Binary64
  | nan => nan
  | infinite negative => infinite !negative
  | finite x => finite { x with negative := !x.negative }

/-- **The order of two numbers**, where neither is not-a-number; the two zeros are equal. -/
def compare? : Binary64 → Binary64 → Option Ordering
  | nan, _ | _, nan => none
  | infinite s, infinite t => some (compare t s)
  | infinite s, finite _ => some (if s then .lt else .gt)
  | finite _, infinite t => some (if t then .gt else .lt)
  | finite x, finite y => some (compare x.units y.units)

/-- Whether two numbers are equal; not-a-number equals nothing. -/
def equals (x y : Binary64) : Bool := compare? x y == some .eq

/-! ### Rounding to the format -/

/-- The exponent at which the quotient of two positive numbers has a significand of 53 bits, or the
least exponent when that is greater. -/
def exponentOf (numerator denominator : Nat) : Int :=
  let k : Int := numerator.log2 - denominator.log2
  let small :=
    if 0 ≤ k then numerator < denominator * Nat.pow 2 k.toNat
    else numerator * Nat.pow 2 (-k).toNat < denominator
  max ((if small then k - 1 else k) - 52) (-1074)

/-- The number with a given sign, significand and exponent, an infinity when the exponent is too
large. A significand of `2 ^ 53`, which rounding up can give, moves to the next exponent. -/
def ofParts (negative : Bool) (significand : Nat) (exponent : Int) : Binary64 :=
  if h : Canonical significand exponent then finite ⟨negative, significand, exponent, h⟩
  else if h : significand = Nat.pow 2 53 ∧ Canonical (Nat.pow 2 52) (exponent + 1) then
    finite ⟨negative, Nat.pow 2 52, exponent + 1, h.2⟩
  else infinite negative

/-- **The number nearest to a quotient**, ties to even; an infinity beyond the greatest number. -/
def ofQuotient (negative : Bool) (numerator denominator : Nat) : Binary64 :=
  if numerator = 0 then zero negative
  else
    let e := exponentOf numerator denominator
    let significand :=
      if 0 ≤ e then roundQuotient .even numerator (denominator * Nat.pow 2 e.toNat)
      else roundQuotient .even (numerator * Nat.pow 2 (-e).toNat) denominator
    ofParts negative significand e

/-- The number nearest to the product of two finite numbers. -/
def product (x y : Finite) : Binary64 :=
  ofQuotient (x.negative != y.negative) (x.quotient.1 * y.quotient.1) (x.quotient.2 * y.quotient.2)

/-- The number nearest to the quotient of two finite numbers, of which the second is not zero. -/
def ratio (x y : Finite) : Binary64 :=
  ofQuotient (x.negative != y.negative) (x.quotient.1 * y.quotient.2) (x.quotient.2 * y.quotient.1)

/-- The number nearest to an integer. -/
def ofInt (n : Int) : Binary64 := ofQuotient (n < 0) n.natAbs 1

/-- **The number nearest to `digits * 10 ^ exponent`** with a sign. Exponents that put the value
beyond the greatest number, or under half of the least one, are settled without the power. -/
def ofDecimal (negative : Bool) (digits : Nat) (exponent : Int) : Binary64 :=
  if digits = 0 then zero negative
  else if 400 < exponent then infinite negative
  else if exponent + digits.log2 < -1200 then zero negative
  else if 0 ≤ exponent then ofQuotient negative (digits * Nat.pow 10 exponent.toNat) 1
  else ofQuotient negative digits (Nat.pow 10 (-exponent).toNat)

end Binary64

end Notebook.Number
