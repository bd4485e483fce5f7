import Notebook.Sorting.Runs

/-!
# Sorting by pivots

One of the items is the pivot; those that are less than it go to its left, and the others to its
right, and both sides are sorted. The pivot is the middle one of three items in different places, of
which each stands for others in the same way.

An item that is not greater than the pivot to the left of which it is cannot be on this side of that
pivot but equal to it. So when a pivot is equal to one before, or when nothing is less than it,
all items that are equal to it are taken out at once. And when there were too many pivots, the rest
is sorted by runs, each of which is sorted by halves at once.
-/

namespace Notebook.Sorting

variable {α : Type}

/-- The middle one of three places. -/
def middleOfThree (less : Nat → Nat → Bool) (i j k : Nat) : Nat :=
  if less i j = less i k then (if less j k = less i j then j else k) else i

/-- **The place of a pivot** among items from some place on. -/
def pivotPlace (less : Nat → Nat → Bool) (start length : Nat) : Nat :=
  if length < 8 then start
  else
    let eighth := length / 8
    middleOfThree less (pivotPlace less start eighth)
      (pivotPlace less (start + 4 * eighth) eighth) (pivotPlace less (start + 7 * eighth) eighth)
termination_by length

/-- Whether the item at one place is less than that at another one. -/
def lessAt (less : α → α → Bool) (items : List α) (i j : Nat) : Bool :=
  match items[i]?, items[j]? with
  | some x, some y => less x y
  | _, _ => false

/-- The items on the side of a pivot on which it is. -/
def sideWith (stays : α → Bool) (before : List α) (pivot : α) (after : List α) : List α :=
  before.filter stays ++ pivot :: after.filter stays

/-- The items in order, by pivots: `limit` is how many pivots there may be, and no item is less than
`ancestor`. -/
def byPivots? (less : α → α → Bool) (limit : Nat) (ancestor : Option α) (items : List α) :
    Option (List α) :=
  if items.length ≤ 32 then byHalves? less items
  else
    match limit with
    | 0 => byRuns? less (byHalves? less) true items
    | limit + 1 =>
      let place := pivotPlace (lessAt less items) 0 items.length
      let before := items.take place
      match items.drop place with
      | [] => some items
      | pivot :: after =>
        let smaller := (before ++ after).filter (less · pivot)
        if ancestor.any (!less · pivot) || smaller.isEmpty then
          let others := (before ++ after).filter (less pivot ·)
          let same := sideWith (!less pivot ·) before pivot after
          (byPivots? less limit none others).map (same ++ ·)
        else do
          let others := sideWith (!less · pivot) before pivot after
          let right ← byPivots? less limit (some pivot) others
          let left ← byPivots? less limit ancestor smaller
          return left ++ right

/-- **The items in order**, by pivots. -/
def quickly? (less : α → α → Bool) (items : List α) : Option (List α) :=
  byPivots? less (2 * (items.length ||| 1).log2) none items

end Notebook.Sorting
