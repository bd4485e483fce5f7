import Notebook.Number.Binary64

/-!
# The fewest digits that read back

`Notebook.Number.shortest` gives, for a positive finite number, the decimal with the fewest digits
that rounds to it. On each decimal grid, from one digit to seventeen, the points next to the number
are tried, the nearest one first; the first that reads back as the number wins. Reading back is
tested with the rounding of `Notebook.Number.Binary64.ofDecimal` itself, so what is found reads back
by construction. When two points of a grid are equally near, `Notebook.Number.Tie` says which one is
tried first.

Seventeen digits are always enough. The definition does not rest on that: it ends in the exact
decimal expansion, which every finite number has.
-/

namespace Notebook.Number

/-- A positive decimal number, `digits * 10 ^ exponent`. -/
structure Scaled where
  /-- The digits, as a whole number. -/
  digits : Nat
  /-- The power of ten that they are multiplied by. -/
  exponent : Int
  deriving DecidableEq, Repr

namespace Scaled

/-- The same number without zeros at the end of its digits. -/
def dropZeros (x : Scaled) : Scaled :=
  if x.digits = 0 ∨ x.digits % 10 ≠ 0 then x
  else dropZeros ⟨x.digits / 10, x.exponent + 1⟩
termination_by x.digits
decreasing_by omega

end Scaled

namespace Finite

/-- The quotient of two positive numbers in units of `10 ^ exponent`. -/
def inUnits (q : Nat × Nat) (exponent : Int) : Nat × Nat :=
  if 0 ≤ exponent then (q.1, q.2 * Nat.pow 10 exponent.toNat)
  else (q.1 * Nat.pow 10 (-exponent).toNat, q.2)

/-- The power of ten of the first digit of a positive quotient. Logarithms to base two give a lower
bound that is at most three short. -/
def leadingExponent (q : Nat × Nat) : Int :=
  let bound := (((q.1.log2 : Int) - q.2.log2 - 1) * 30103).fdiv 100000 - 1
  let reaches (p : Int) : Bool := let u := inUnits q p; u.2 ≤ u.1
  if reaches (bound + 3) then bound + 3
  else if reaches (bound + 2) then bound + 2
  else if reaches (bound + 1) then bound + 1
  else bound

/-- Whether a decimal rounds to the magnitude of a number. -/
def readsBack (x : Finite) (decimal : Scaled) : Bool :=
  Binary64.ofDecimal false decimal.digits decimal.exponent = .finite { x with negative := false }

/-- The decimals next to a number on the grid of `10 ^ exponent`, nearest first. -/
def neighbours (tie : Tie) (q : Nat × Nat) (exponent : Int) : List Scaled :=
  let u := inUnits q exponent
  [roundQuotient tie u.1 u.2, u.1 / u.2, u.1 / u.2 + 1].map (⟨·, exponent⟩)

/-- The exact decimal expansion of the magnitude. -/
def expansion (x : Finite) : Scaled :=
  if 0 ≤ x.exponent then ⟨x.significand * Nat.pow 2 x.exponent.toNat, 0⟩
  else ⟨x.significand * Nat.pow 5 (-x.exponent).toNat, x.exponent⟩

/-- **The fewest digits** that read back as the magnitude of a number other than zero. -/
def shortest (tie : Tie) (x : Finite) : Scaled :=
  let q := x.quotient
  let first := leadingExponent q
  let found := (List.range 17).findSome? fun (n : Nat) =>
    (neighbours tie q (first - n)).find? x.readsBack
  (found.getD x.expansion).dropZeros

end Finite

end Notebook.Number
