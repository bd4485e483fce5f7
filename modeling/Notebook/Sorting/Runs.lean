import Notebook.Sorting.Halves

/-!
# Sorting by runs

A long list is taken apart into runs. Where it goes up, or strictly down, for long enough, that is a
run, and it is sorted when the one that goes down is turned around; elsewhere some items make up a
run that is not sorted yet, or is sorted by halves at once.

The runs are joined two by two along a tree, in which the border of two runs is the deeper the
closer they are to each other. Two runs are merged when one of them is sorted, and otherwise put
together as they are, to be sorted later; how they are sorted then is a parameter here.
-/

namespace Notebook.Sorting

variable {α : Type}

/-- **A run**: items next to each other. -/
structure Run (α : Type) where
  /-- The items. -/
  items : List α
  /-- Whether they are sorted. -/
  sorted : Bool

/-! ### Finding runs -/

/-- The items that follow a first one, each going on from the one before it, and the rest. -/
def splitChain (goesOn : α → α → Bool) (x : α) : List α → List α × List α
  | [] => ([], [])
  | y :: ys =>
    if goesOn x y then
      let (chain, rest) := splitChain goesOn y ys
      (y :: chain, rest)
    else ([], y :: ys)

/-- The items at the start that go up, or strictly down, and the rest. Those that go down are turned
around. -/
def splitRun (less : α → α → Bool) : List α → List α × List α
  | x :: y :: ys =>
    if less y x then
      let (chain, rest) := splitChain (fun a b => less b a) x (y :: ys)
      ((x :: chain).reverse, rest)
    else
      let (chain, rest) := splitChain (fun a b => !less b a) x (y :: ys)
      (x :: chain, rest)
  | items => (items, [])

/-- **The first run**, and the rest: the items at the start that are sorted, when they are `good` or
more; otherwise a short list that is sorted now, or some items that are sorted later. -/
def firstRun? (less : α → α → Bool) (good : Nat) (eager : Bool) (items : List α) :
    Option (Run α × List α) :=
  let (run, rest) := splitRun less items
  if good ≤ run.length then some (⟨run, true⟩, rest)
  else if eager then
    (byHalves? less (items.take 32)).map fun sorted => (⟨sorted, true⟩, items.drop 32)
  else some (⟨items.take good, false⟩, items.drop good)

theorem splitChain_append (goesOn : α → α → Bool) (x : α) (ys : List α) :
    (splitChain goesOn x ys).1 ++ (splitChain goesOn x ys).2 = ys := by
  induction ys generalizing x with
  | nil => rfl
  | cons y ys ih =>
    unfold splitChain
    split
    · exact congrArg (y :: ·) (ih y)
    · rfl

theorem length_splitRun (less : α → α → Bool) (items : List α) :
    (splitRun less items).1.length + (splitRun less items).2.length = items.length := by
  unfold splitRun
  split
  · next x y ys =>
    split
    · have h := congrArg List.length (splitChain_append (fun a b => less b a) x (y :: ys))
      rw [List.length_append] at h
      simp only [List.length_reverse, List.length_cons] at h ⊢
      omega
    · have h := congrArg List.length (splitChain_append (fun a b => !less b a) x (y :: ys))
      rw [List.length_append] at h
      simp only [List.length_cons] at h ⊢
      omega
  · rfl

/-- The rest after a run is shorter. -/
theorem length_lt_of_firstRun? {less : α → α → Bool} {good : Nat} {eager : Bool} {x : α}
    {xs rest : List α} {run : Run α} (hgood : 0 < good)
    (h : firstRun? less good eager (x :: xs) = some (run, rest)) :
    rest.length < (x :: xs).length := by
  have hlength := length_splitRun less (x :: xs)
  unfold firstRun? at h
  dsimp only at h
  split at h
  · next hrun =>
    cases h
    omega
  · split at h
    · obtain ⟨sorted, -, hrest⟩ := Option.map_eq_some_iff.mp h
      cases hrest
      rw [List.length_drop, List.length_cons]
      omega
    · cases h
      rw [List.length_drop, List.length_cons]
      omega

/-- **The runs of a list.** -/
def runs? (less : α → α → Bool) (good : Nat) (hgood : 0 < good) (eager : Bool) :
    List α → Option (List (Run α))
  | [] => some []
  | x :: xs =>
    match _h : firstRun? less good eager (x :: xs) with
    | none => none
    | some (run, rest) => (runs? less good hgood eager rest).map (run :: ·)
termination_by items => items.length
decreasing_by exact length_lt_of_firstRun? hgood _h

/-! ### Joining runs -/

/-- Merges two sorted lists, from the front when the left one is not the longer one, and from the
back otherwise. -/
def mergeSorted (less : α → α → Bool) (left right : List α) : List α :=
  if left.length ≤ right.length then left.merge right fun x y => !less y x
  else (right.reverse.merge left.reverse fun y x => !less y x).reverse

/-- The items of a run in order. -/
def Run.settle? (later : List α → Option (List α)) (run : Run α) : Option (List α) :=
  if run.sorted then some run.items else later run.items

/-- **Two runs as one.** There is room to sort so many items later. -/
def joinRuns? (less : α → α → Bool) (later : List α → Option (List α)) (room : Nat)
    (left right : Run α) : Option (Run α) :=
  if room < left.items.length + right.items.length ∨ left.sorted ∨ right.sorted then do
    let xs ← left.settle? later
    let ys ← right.settle? later
    return ⟨mergeSorted less xs ys, true⟩
  else some ⟨left.items ++ right.items, false⟩

/-- How many of the 64 bits of a number come before its first one that is set. -/
def leadingZeros (n : Nat) : Nat := if n = 0 then 64 else 63 - n.log2

/-- **How deep in the tree** the border in the middle of two runs is: after how many halvings of the
whole list it is told apart from the middles of both. -/
def borderDepth (total start middle stop : Nat) : Nat :=
  let scale := (1 <<< 62 + total - 1) / total
  leadingZeros ((scale * (start + middle)) ^^^ (scale * (middle + stop)))

/-- Joins a run with those before it whose borders are as deep or deeper, the last of which comes
first. -/
def joinDeeper? (join : Run α → Run α → Option (Run α)) (depth : Nat) :
    List (Run α × Nat) → Run α → Option (List (Run α × Nat) × Run α)
  | [], run => some ([], run)
  | (left, border) :: before, run =>
    if depth ≤ border then do
      let joined ← join left run
      joinDeeper? join depth before joined
    else some ((left, border) :: before, run)

/-- Joins all runs: those before one that starts somewhere, with the borders after them, that one,
and those after it. -/
def joinAll? (join : Run α → Run α → Option (Run α)) (total : Nat) :
    List (Run α × Nat) → Nat → Run α → List (Run α) → Option (Run α)
  | before, _, run, [] => (joinDeeper? join 0 before run).map Prod.snd
  | before, start, run, next :: after => do
    let middle := start + run.items.length
    let depth := borderDepth total start middle (middle + next.items.length)
    let (before, joined) ← joinDeeper? join depth before run
    joinAll? join total ((joined, depth) :: before) middle next after

/-! ### The whole list -/

/-- How many sorted items are worth to be a run: half of the items, at most 64, and in a very long
list about the square root of their number. -/
def goodLength (total : Nat) : Nat :=
  if total ≤ 4096 then max 1 (min (total - total / 2) 64)
  else
    let shift := (1 + total.log2) / 2
    max 1 ((1 <<< shift + total >>> shift) / 2)

theorem goodLength_pos (total : Nat) : 0 < goodLength total := by
  unfold goodLength
  split <;> exact Nat.lt_of_lt_of_le Nat.one_pos (Nat.le_max_left ..)

/-- How many items there is room to sort later: all of them, up to what eight million bytes hold,
and half of them in any case. -/
def roomFor (total : Nat) : Nat := max (max (total - total / 2) (min total 66666)) 48

/-- **The items in order**, by runs. -/
def byRuns? (less : α → α → Bool) (later : List α → Option (List α)) (eager : Bool)
    (items : List α) : Option (List α) := do
  let total := items.length
  match ← runs? less (goodLength total) (goodLength_pos total) eager items with
  | [] => return []
  | run :: after =>
    let join := joinRuns? less later (roomFor total)
    (← joinAll? join total [] 0 run after).settle? later

end Notebook.Sorting
