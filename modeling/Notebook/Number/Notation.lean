import Notebook.Number.Digits
import Notebook.Number.Shortest

/-!
# Number texts

How a number is written. The digits come from `Notebook.Number.Finite.shortest`; where the point
goes, when an exponent is written, and how the special numbers are spelled is one
`Notebook.Number.Layout` per format. `Notebook.Number.hundredthsText` writes a number with two
places instead.
-/

namespace Notebook.Number

/-! ### Layouts -/

/-- **The decisions of a number format.** -/
structure Layout where
  /-- The powers of ten of the first digit for which no exponent is written; all when missing. -/
  positional : Option (Int × Int)
  /-- What follows a whole number written without an exponent. -/
  wholeEnding : String
  /-- Where a tie between two shortest texts goes. -/
  tie : Tie
  deriving Repr

/-- Digits written without an exponent. -/
def Layout.positionalText (layout : Layout) (x : Scaled) : String :=
  let text := digitsOf x.digits
  if 0 ≤ x.exponent then text ++ zeros x.exponent.toNat ++ layout.wholeEnding
  else
    let places := (-x.exponent).toNat
    let filled := (padded (places + 1) x.digits).toList
    let whole := filled.length - places
    String.ofList (filled.take whole) ++ "." ++ String.ofList (filled.drop whole)

/-- Digits written with an exponent: one digit, the others after a point, and the power of ten of
the first digit with its sign. -/
def exponentText (x : Scaled) (leading : Int) : String :=
  let text := (digitsOf x.digits).toList
  let others := text.drop 1
  String.ofList (text.take 1) ++ (if others.isEmpty then "" else "." ++ String.ofList others) ++
    "e" ++ (if leading < 0 then "-" else "+") ++ digitsOf leading.natAbs

/-- A positive decimal in a layout. -/
def Layout.scaledText (layout : Layout) (x : Scaled) : String :=
  let leading : Int := x.exponent + (digitsOf x.digits).length - 1
  match layout.positional with
  | none => layout.positionalText x
  | some (least, greatest) =>
    if least ≤ leading ∧ leading ≤ greatest then layout.positionalText x
    else exponentText x leading

/-- **The text of a number** in a layout. -/
def Layout.text (layout : Layout) : Binary64 → String
  | .nan => "NaN"
  | .infinite negative => (if negative then "-" else "") ++ "inf"
  | .finite x =>
    (if x.negative then "-" else "") ++
      (if x.significand = 0 then "0" ++ layout.wholeEnding
       else layout.scaledText (x.shortest layout.tie))

/-- Numbers in a query and in its results: never an exponent, and a whole number without a point. -/
def plain : Layout := ⟨none, "", .up⟩

/-- The plain text of a number. -/
def Binary64.text (x : Binary64) : String := plain.text x

/-! ### Fixed places -/

/-- **A number with two places**: the exact value rounded, half to even. -/
def hundredthsText : Binary64 → String
  | .finite x =>
    let q := x.quotient
    let hundredths := roundQuotient .even (q.1 * 100) q.2
    (if x.negative then "-" else "") ++ digitsOf (hundredths / 100) ++ "." ++
      padded 2 (hundredths % 100)
  | special => plain.text special

end Notebook.Number
