import Notebook.Sorting.Insertion

/-!
# Sorting a short list by halves

The halves of a short list are sorted by insertion, each from its first four items on when it has
so many, and then merged from both ends at once: the front takes as many items as there are in the
left half, and the back takes as many, neither of them with an eye to the other one.

When the comparison is an order, the two ends meet, and where the number of items is odd the one
between them is left over. A comparison that is none can make them cross: an item is taken twice
and another one not at all. Then there is no answer.
-/

namespace Notebook.Sorting

variable {α : Type}

/-! ### Four items -/

/-- Two items in order. -/
def sortTwo (less : α → α → Bool) (x y : α) : α × α := if less y x then (y, x) else (x, y)

/-- Two pairs in order as four items in order: the first and the last one, and then the two items in
between. -/
def joinPairs (less : α → α → Bool) : α × α → α × α → List α
  | (a, b), (c, d) =>
    let between (inner : α × α) := [inner.1, inner.2]
    match less c a, less d b with
    | false, false => a :: between (sortTwo less b c) ++ [d]
    | false, true => a :: between (sortTwo less c d) ++ [b]
    | true, false => c :: between (sortTwo less a b) ++ [d]
    | true, true => c :: between (sortTwo less a d) ++ [b]

/-- **Four items in order.** -/
def sortFour (less : α → α → Bool) (x₁ x₂ x₃ x₄ : α) : List α :=
  joinPairs less (sortTwo less x₁ x₂) (sortTwo less x₃ x₄)

/-! ### Both ends -/

/-- The first items of two sorted lists that are merged, and what is left of both. -/
def takeMerged (less : α → α → Bool) : Nat → List α → List α → List α × List α × List α
  | 0, xs, ys => ([], xs, ys)
  | count + 1, x :: xs, y :: ys =>
    if less y x then
      let (front, rest) := takeMerged less count (x :: xs) ys
      (y :: front, rest)
    else
      let (front, rest) := takeMerged less count xs (y :: ys)
      (x :: front, rest)
  | _ + 1, xs, ys => ([], xs, ys)

/-- **Merges two sorted lists from both ends.** There is no answer when an item is taken from both
of them. -/
def mergeEnds? (less : α → α → Bool) (left right : List α) : Option (List α) :=
  let (front, left₁, right₁) := takeMerged less left.length left right
  let (back, right₂, left₂) :=
    takeMerged (fun x y => less y x) left.length right.reverse left.reverse
  if left.length ≤ left₁.length + left₂.length ∧
      right.length ≤ right₁.length + right₂.length then
    some (front ++ left₁.take (left₁.length + left₂.length - left.length) ++
      right₁.take (right₁.length + right₂.length - right.length) ++ back.reverse)
  else none

/-! ### Halves -/

/-- A half in order, by insertion; `fours` is whether its first four items are sorted at once. -/
def sortHalf (less : α → α → Bool) (fours : Bool) : List α → List α
  | x₁ :: x₂ :: x₃ :: x₄ :: rest =>
    if fours then insertAll less (sortFour less x₁ x₂ x₃ x₄) rest
    else byInsertion less (x₁ :: x₂ :: x₃ :: x₄ :: rest)
  | items => byInsertion less items

/-- **The items of a short list in order.** -/
def byHalves? (less : α → α → Bool) (items : List α) : Option (List α) :=
  if items.length < 2 then some items
  else
    let half := items.length / 2
    let fours := decide (8 ≤ items.length)
    mergeEnds? less (sortHalf less fours (items.take half)) (sortHalf less fours (items.drop half))

end Notebook.Sorting
