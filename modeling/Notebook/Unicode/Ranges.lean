/-!
# Classes of characters

The Unicode standard defines its character properties by tables of code point ranges. This file
gives the form that every such table takes here: a list of inclusive ranges in increasing order, and
the membership test `Notebook.Unicode.Ranges.contains`.

Each property has a file of its own. Its test settles the first 128 code points by a rule that can
be read off, and asks the table for the others.

Two editions of the standard are in use. The text of a query is read by edition 17: the properties
`Alphabetic` and alphanumeric, and the changes of case. Tags, fields and tasks in a note are found
by edition 16: the categories of letters, numbers and decimal digits. White space is the same in
both.
-/

namespace Notebook.Unicode

/-- The inclusive ranges of code points that make up a class of characters, in increasing order. -/
abbrev Ranges := List (Nat × Nat)

/-- Whether a character lies in one of the ranges. -/
def Ranges.contains (table : Ranges) (c : Char) : Bool :=
  table.any fun range => Nat.ble range.1 c.toNat && Nat.ble c.toNat range.2

/-- Whether a character is one of the first 128, for which every class has a plain rule. -/
def isAscii (c : Char) : Bool := c.toNat < 128

end Notebook.Unicode
