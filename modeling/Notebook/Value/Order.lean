import Notebook.Value.Basic

/-!
# Comparing values

Two comparisons of values. `Notebook.Value.looselyEquals` is the equality of queries, which sees
through kinds: a number equals a text that spells it, and a date a text that names it.
`Notebook.Value.sortOrder` is the order of sorting, which ranks values of different kinds by kind
and never looks through a text.

Numbers are compared as decimals, exactly. Where one of two values is no decimal, because it is too
great or no number at all, both are compared as binary numbers:
`Notebook.Value.compareNumbers`.
-/

namespace Notebook.Value

open Number

/-- **The order of two values with a numeric view**; those without an order count as equal. -/
def compareNumbers (a b : Value) : Ordering :=
  match a.decimal?, b.decimal? with
  | some x, some y => x.order y
  | _, _ =>
    match a.binary?, b.binary? with
    | some x, some y => (x.compare? y).getD .eq
    | _, _ => .eq

/-- Whether two values, of which one is a number, are the same number. -/
def numbersEqual (a b : Value) : Bool :=
  match a.decimal?, b.decimal? with
  | some x, some y => x == y
  | _, _ =>
    match a.binary?, b.binary? with
    | some x, some y => x.equals y
    | _, _ => false

/-- Whether two values, of which one is a date, are the same date. -/
def datesEqual (a b : Value) : Bool :=
  match a.date?, b.date? with
  | some t, some u => t == u
  | _, _ => false

mutual

/-- **Equality in a query.** An absent value equals nothing, and null equals null alone. -/
def looselyEquals : Value → Value → Bool
  | absent, _ => false
  | _, absent => false
  | null, null => true
  | null, _ => false
  | _, null => false
  | boolean a, boolean b => a == b
  | string a, string b => a == b
  | list xs, list ys => allLooselyEqual xs ys
  | a, b =>
    if a.isNumber || b.isNumber then numbersEqual a b
    else if a.isDate || b.isDate then datesEqual a b
    else false

/-- Whether two lists have equal items in order. -/
def allLooselyEqual : List Value → List Value → Bool
  | [], [] => true
  | x :: xs, y :: ys => looselyEquals x y && allLooselyEqual xs ys
  | _, _ => false

end

/-- The rank of the kind of a value. -/
def rank : Value → Nat
  | absent => 0
  | null => 0
  | boolean _ => 1
  | integer _ => 2
  | real _ => 2
  | date _ => 3
  | string _ => 4
  | list _ => 5

mutual

/-- **The order of sorting.** -/
def sortOrder : Value → Value → Ordering
  | boolean a, boolean b => compare a b
  | date t, date u => t.order u
  | string a, string b => compare a b
  | list xs, list ys => listOrder xs ys
  | a, b => if a.isNumber && b.isNumber then compareNumbers a b else compare a.rank b.rank

/-- Lists are ordered by their first different items, and a list comes before those that continue
it. -/
def listOrder : List Value → List Value → Ordering
  | [], [] => .eq
  | [], _ :: _ => .lt
  | _ :: _, [] => .gt
  | x :: xs, y :: ys => (sortOrder x y).then (listOrder xs ys)

end

end Notebook.Value
