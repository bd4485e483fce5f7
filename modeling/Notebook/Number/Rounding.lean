/-!
# Rounding a quotient

A quotient of natural numbers is rounded to one of its two neighbours: the nearer one, and of two
equally near ones the one that a `Notebook.Number.Tie` names. Everything in this library that rounds
goes through `Notebook.Number.roundQuotient`.
-/

namespace Notebook.Number

/-- Which neighbour a quotient exactly in the middle goes to. -/
inductive Tie
  /-- The even neighbour. -/
  | even
  /-- The greater neighbour. -/
  | up
  deriving DecidableEq, Repr

/-- **The nearest natural number** to `numerator / denominator`, with ties as `tie` says. -/
def roundQuotient (tie : Tie) (numerator denominator : Nat) : Nat :=
  let floor := numerator / denominator
  let twiceRest := 2 * (numerator % denominator)
  if twiceRest < denominator then floor
  else if denominator < twiceRest then floor + 1
  else match tie with
    | .even => floor + floor % 2
    | .up => floor + 1

/-- Any tie is broken between the two neighbours of the quotient. -/
theorem roundQuotient_bounds (tie : Tie) (n d : Nat) :
    n / d ≤ roundQuotient tie n d ∧ roundQuotient tie n d ≤ n / d + 1 := by
  unfold roundQuotient
  cases tie <;> simp only <;> split <;> (try split) <;> omega

end Notebook.Number
