import Notebook.Number.Binary64
import Notebook.Number.Digits

/-!
# Reading binary numbers

The texts that spell a binary number: digits with at most one point among them, an exponent, and a
sign in front of both; and the names of infinity and not-a-number in any case of letters. The value
is the nearest number, rounded once.
-/

namespace Notebook.Number

namespace Binary64

/-- The exponent after the digits of a number, zero when there is none. -/
def exponentOfText? : List Char → Option Int
  | [] => some 0
  | c :: rest => if c = 'e' ∨ c = 'E' then signedWhole? rest else none

/-- The number that a text without a sign spells. -/
def ofUnsignedText? (negative : Bool) (s : List Char) : Option Binary64 :=
  let name := s.map Char.toLower
  if name = ['i', 'n', 'f'] ∨ name = ['i', 'n', 'f', 'i', 'n', 'i', 't', 'y'] then
    some (infinite negative)
  else if name = ['n', 'a', 'n'] then some nan
  else
    let whole := s.takeWhile Char.isDigit
    let rest := s.dropWhile Char.isDigit
    let (places, rest) := match rest with
      | '.' :: rest => (rest.takeWhile Char.isDigit, rest.dropWhile Char.isDigit)
      | _ => ([], rest)
    if whole.isEmpty && places.isEmpty then none
    else (exponentOfText? rest).map fun exponent =>
      ofDecimal negative (wholeOf (whole ++ places)) (exponent - places.length)

/-- **The number that a text spells.** -/
def ofText? : List Char → Option Binary64
  | '-' :: rest => ofUnsignedText? true rest
  | '+' :: rest => ofUnsignedText? false rest
  | s => ofUnsignedText? false s

end Binary64

end Notebook.Number
