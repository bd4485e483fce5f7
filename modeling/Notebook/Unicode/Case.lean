import Notebook.Unicode.CaseTables

/-!
# Changing case

The full case mappings of a text. Most characters go to one character; some go to several (the sharp
s becomes two capitals), and the capital sigma has two small forms: `ς` where it ends a word and `σ`
elsewhere. It ends a word when a cased character stands before it and none after it, not counting
the characters that case ignores, such as apostrophes and combining marks.

The mappings for letters of the first 128 code points alone are `Notebook.Unicode.asciiLowercase`
and its companion `Notebook.Unicode.equalIgnoringAsciiCase`.
-/

namespace Notebook.Unicode

/-! ### One character -/

/-- The image of a code point under one run, if the run holds it. -/
def CaseRun.image? (run : CaseRun) (code : Nat) : Option Nat :=
  if run.first ≤ code ∧ code ≤ run.last ∧ (code - run.first) % run.stride = 0 then
    some (code + run.distance).toNat
  else none

/-- The image of a character from 128 on: its expansion, else its image under a run, else itself. -/
def mapCase (expansions : List (Nat × List Nat)) (runs : List CaseRun) (c : Char) : List Char :=
  match expansions.lookup c.toNat with
  | some codes => codes.map Char.ofNat
  | none =>
    match runs.findSome? (·.image? c.toNat) with
    | some code => [Char.ofNat code]
    | none => [c]

/-- The lower case of a character that stands alone. -/
def lowercaseChar (c : Char) : List Char :=
  if isAscii c then [c.toLower] else mapCase lowercaseExpansions lowercaseRuns c

/-- The upper case of a character. -/
def uppercaseChar (c : Char) : List Char :=
  if isAscii c then [c.toUpper] else mapCase uppercaseExpansions uppercaseRuns c

/-! ### A text -/

/-- Whether a character is a letter with case, or a mark that counts as one. -/
def isCased (c : Char) : Bool :=
  if isAscii c then c.isAlpha else cased.contains c

/-- Whether the first character that case does not ignore is a cased one. -/
def reachesCased (s : List Char) : Bool :=
  match s.dropWhile caseIgnorable.contains with
  | c :: _ => isCased c
  | [] => false

/-- Whether a sigma between the reversed text `before` and the text `after` **ends a word**. -/
def endsWord (before after : List Char) : Bool :=
  reachesCased before && !reachesCased after

/-- The lower case of a text, where `before` is what precedes it, reversed. -/
def lowercaseAfter (before : List Char) : List Char → List Char
  | [] => []
  | c :: rest =>
    let image := if c = 'Σ' then [if endsWord before rest then 'ς' else 'σ'] else lowercaseChar c
    image ++ lowercaseAfter (c :: before) rest

/-- **The lower case of a text.** -/
def lowercase (s : List Char) : List Char := lowercaseAfter [] s

/-- **The upper case of a text.** -/
def uppercase (s : List Char) : List Char := s.flatMap uppercaseChar

/-! ### Letters of the first 128 code points -/

/-- The text with its letters `A` to `Z` made small and everything else kept. -/
def asciiLowercase (s : List Char) : List Char := s.map Char.toLower

/-- Whether two texts differ at most in the case of the letters `A` to `Z`. -/
def equalIgnoringAsciiCase (s t : List Char) : Bool := asciiLowercase s == asciiLowercase t

end Notebook.Unicode
