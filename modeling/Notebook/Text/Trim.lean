import Notebook.Unicode.WhiteSpace

/-!
# Trimming

Removing characters of one class from the ends of a text. A text is a list of characters here, as in
every module that looks inside one.
-/

namespace Notebook.Text

/-- The text without the characters of a class at its end. -/
def dropEndWhile (p : Char → Bool) (s : List Char) : List Char :=
  (s.reverse.dropWhile p).reverse

/-- The text without the characters of a class at both ends. -/
def dropAroundWhile (p : Char → Bool) (s : List Char) : List Char :=
  dropEndWhile p (s.dropWhile p)

/-- The text without white space at its start. -/
def trimStart (s : List Char) : List Char := s.dropWhile Unicode.isWhiteSpace

/-- The text without white space at its end. -/
def trimEnd (s : List Char) : List Char := dropEndWhile Unicode.isWhiteSpace s

/-- **The text without white space at both ends.** -/
def trim (s : List Char) : List Char := trimEnd (trimStart s)

/-- Whether a text holds nothing but white space. -/
def isBlank (s : List Char) : Bool := s.all Unicode.isWhiteSpace

end Notebook.Text
