import Notebook.Unicode.Ranges

/-!
# White space

The property `White_Space`: the controls from tabulation to carriage return, the space, the next
line control, the no-break and typographic spaces, and the line and paragraph separators. The zero
width space and the byte order mark do not have it.
-/

namespace Notebook.Unicode

/-- The code points with the property `White_Space`. -/
def whiteSpace : Ranges :=
  [(0x9, 0xD), (0x20, 0x20), (0x85, 0x85), (0xA0, 0xA0), (0x1680, 0x1680), (0x2000, 0x200A),
   (0x2028, 0x2029), (0x202F, 0x202F), (0x205F, 0x205F), (0x3000, 0x3000)]

/-- Whether a character is **white space**. -/
def isWhiteSpace (c : Char) : Bool := whiteSpace.contains c

end Notebook.Unicode
