import Notebook.Value.Order
import Notebook.Proofs.Number.Range
import Notebook.Proofs.Order.Ranking

/-!
# The order of sorting is a total preorder

Numbers are compared in two ways, as decimals where both are decimals and as binary numbers where
one of them is not. The two ways fit together because what is no decimal is further from zero than
every decimal: each number has a place on one scale (`Notebook.Value.place`), and both ways compare
places (`Notebook.Value.compareNumbers_eq`). The one thing without a place is not-a-number, which
counts as equal to everything.

So the order of sorting ranks the values that do not hold not-a-number at any depth
(`Notebook.Value.ranks_sortOrder`): kinds by their rank, numbers by their places, and lists by what
is in them, which is where the induction is.
-/

namespace Notebook.Value

open Number

/-! ### Not-a-number at any depth -/

mutual

/-- Whether a value **is or holds** not-a-number. -/
def holdsNan : Value → Bool
  | real x => x.isNan
  | list items => anyHoldsNan items
  | _ => false

/-- Whether one of several values is or holds not-a-number. -/
def anyHoldsNan : List Value → Bool
  | [] => false
  | item :: items => item.holdsNan || anyHoldsNan items

end

theorem anyHoldsNan_eq_any (items : List Value) : anyHoldsNan items = items.any holdsNan := by
  induction items with
  | nil => rfl
  | cons item items ih => rw [anyHoldsNan, ih, List.any_cons]

/-- A value **without not-a-number** in it. -/
def IsOrdered (v : Value) : Prop := v.holdsNan = false

instance (v : Value) : Decidable v.IsOrdered := inferInstanceAs (Decidable (_ = _))

theorem isOrdered_list {items : List Value} :
    (list items).IsOrdered ↔ ∀ item ∈ items, item.IsOrdered := by
  unfold IsOrdered
  rw [holdsNan, anyHoldsNan_eq_any, List.any_eq_false]
  simp only [Bool.not_eq_true]

/-! ### Places of numbers -/

/-- A binary number **beyond the decimals**: an infinity, or one that reaches the bound. -/
inductive Far : Binary64 → Prop
  /-- A finite number that reaches the bound. -/
  | finite (x : Finite) (hle : decimalRange ≤ x.magnitude) : Far (.finite x)
  /-- An infinity. -/
  | infinite (negative : Bool) : Far (.infinite negative)

/-- Where a number stands: among the decimals, or beyond them. -/
inductive Stands (v : Value) : Prop
  /-- A decimal, whose binary number is below the bound. -/
  | near (d : Decimal) (x : Finite) (hd : v.decimal? = some d) (hx : v.binary? = some (.finite x))
    (hlt : x.magnitude < decimalRange)
  /-- A binary number that is no decimal. -/
  | far (x : Binary64) (hd : v.decimal? = none) (hx : v.binary? = some x) (hfar : Far x)

theorem natAbs_toInt_lt (n : Int64) : n.toInt.natAbs < Nat.pow 2 64 := by
  have hlow := n.le_toInt
  have hhigh := n.toInt_lt
  have hpow : Nat.pow 2 64 = 2 ^ 64 := rfl
  omega

theorem stands {v : Value} (hnumber : v.isNumber = true) (h : v.IsOrdered) : Stands v := by
  cases v with
  | integer n =>
    obtain ⟨x, hx, hlt⟩ := Binary64.exists_ofInt (natAbs_toInt_lt n)
    exact .near (.ofInt n.toInt) x rfl (congrArg some hx) hlt
  | real x =>
    cases x with
    | nan => cases h
    | infinite negative => exact .far _ rfl rfl (.infinite negative)
    | finite x =>
      by_cases hle : decimalRange ≤ x.magnitude
      · exact .far _ (Decimal.ofBinary?_eq_none_iff.mpr hle) rfl (.finite x hle)
      · obtain ⟨d, hd⟩ := Option.ne_none_iff_exists'.mp (mt Decimal.ofBinary?_eq_none_iff.mp hle)
        exact .near d x hd rfl (Nat.lt_of_not_le hle)
  | _ => cases hnumber

/-- The place of a number beyond the decimals: on which side and how far out, then where it is
there. -/
def farPlace : Binary64 → Int × Int
  | .finite x => (if x.negative then -1 else 1, x.units)
  | .infinite negative => (if negative then -2 else 2, 0)
  | .nan => (0, 0)

/-- **The place of a number**; the decimals are in the middle. -/
def place (v : Value) : Int × Int :=
  match v.decimal? with
  | some d => (0, d.units)
  | none => (v.binary?.map farPlace).getD (0, 0)

/-- The order of places. -/
def placeOrder (p q : Int × Int) : Ordering := (compare p.1 q.1).then (compare p.2 q.2)

theorem ranks_placeOrder (S : Int × Int → Prop) : Ranks placeOrder S :=
  (Ranks.of_compare Prod.fst).lexicographic (.of_compare Prod.snd)

/-- Of two numbers of different magnitude, the sign of the greater one decides. -/
theorem compare_units_of_lt {x y : Finite} (h : x.magnitude < y.magnitude) :
    compare x.units y.units = if y.negative then .gt else .lt := by
  unfold Finite.units
  cases y.negative <;> cases x.negative <;>
    simp only [reduceIte, Bool.false_eq_true, Int.compare_eq_lt, Int.compare_eq_gt] <;> omega

theorem compare?_near_far {x : Finite} {y : Binary64} (u : Int) (hx : x.magnitude < decimalRange)
    (hy : Far y) : (Binary64.finite x).compare? y = some (placeOrder (0, u) (farPlace y)) := by
  cases hy with
  | finite y hle =>
    refine congrArg some ((compare_units_of_lt (Nat.lt_of_lt_of_le hx hle)).trans ?_)
    simp only [placeOrder, farPlace]
    cases y.negative <;> rfl
  | infinite t => cases t <;> rfl

theorem compare?_far_near {x : Binary64} {y : Finite} (u : Int) (hx : Far x)
    (hy : y.magnitude < decimalRange) :
    x.compare? (.finite y) = some (placeOrder (farPlace x) (0, u)) := by
  cases hx with
  | finite x hle =>
    refine congrArg some ?_
    have hswap : compare x.units y.units = (compare y.units x.units).swap := Std.OrientedCmp.eq_swap
    rw [hswap, compare_units_of_lt (Nat.lt_of_lt_of_le hy hle)]
    simp only [placeOrder, farPlace]
    cases x.negative <;> rfl
  | infinite s => cases s <;> rfl

theorem compare?_far_far {x y : Binary64} (hx : Far x) (hy : Far y) :
    x.compare? y = some (placeOrder (farPlace x) (farPlace y)) := by
  have hpos := decimalRange_pos
  cases hx with
  | finite x hle =>
    cases hy with
    | finite y hle' =>
      refine congrArg some ?_
      simp only [placeOrder, farPlace, Finite.units]
      cases y.negative <;> cases x.negative
      · rfl
      · exact Int.compare_eq_lt.mpr (by simp only [reduceIte, Bool.false_eq_true]; omega)
      · exact Int.compare_eq_gt.mpr (by simp only [reduceIte, Bool.false_eq_true]; omega)
      · rfl
    | infinite t =>
      simp only [placeOrder, farPlace]
      cases x.negative <;> cases t <;> rfl
  | infinite s =>
    cases hy with
    | finite y hle =>
      simp only [placeOrder, farPlace]
      cases s <;> cases y.negative <;> rfl
    | infinite t => cases s <;> cases t <;> rfl

/-- **Both ways of comparing numbers compare their places.** -/
theorem compareNumbers_eq {a b : Value} (ha : Stands a) (hb : Stands b) :
    a.compareNumbers b = placeOrder a.place b.place := by
  unfold compareNumbers place
  cases ha with
  | near d x hd hx hlt =>
    cases hb with
    | near e y he hy hlt' =>
      rw [hd, he]
      rfl
    | far y he hy hfar => simp [hd, he, hx, hy, compare?_near_far d.units hlt hfar]
  | far x hd hx hfar =>
    cases hb with
    | near e y he hy hlt => simp [hd, he, hx, hy, compare?_far_near e.units hfar hlt]
    | far y he hy hfar' => simp [hd, he, hx, hy, compare?_far_far hfar hfar']

/-! ### Dates -/

theorem ranks_dayOrder (S : Calendar.Day → Prop) : Ranks Calendar.Day.order S :=
  (Ranks.of_compare _).lexicographic ((Ranks.of_compare _).lexicographic (.of_compare _))

theorem ranks_instantOrder (S : Calendar.Instant → Prop) : Ranks Calendar.Instant.order S :=
  Ranks.lexicographic ((ranks_dayOrder fun _ => True).of_key Calendar.Instant.day
    (fun _ _ => trivial) fun _ _ _ _ => rfl)
    ((Ranks.of_compare _).lexicographic (.of_compare _))

/-! ### Lists -/

/-- Lists are ranked by what is in them. -/
theorem ranks_listOrder {S : Value → Prop} (h : Ranks sortOrder S) :
    Ranks listOrder fun items => ∀ item ∈ items, S item where
  swap {xs ys} hxs hys := by
    induction xs generalizing ys with
    | nil => cases ys <;> rfl
    | cons x xs ih =>
      cases ys with
      | nil => rfl
      | cons y ys =>
        obtain ⟨hx, hxs⟩ := List.forall_mem_cons.mp hxs
        obtain ⟨hy, hys⟩ := List.forall_mem_cons.mp hys
        rw [listOrder, listOrder, h.swap hx hy, ih hxs hys, Ordering.swap_then]
  trans {xs ys zs} hxs hys hzs hxy hyz := by
    induction xs generalizing ys zs with
    | nil => cases zs <;> rfl
    | cons x xs ih =>
      match ys, zs with
      | [], _ => cases hxy
      | _ :: _, [] => cases hyz
      | y :: ys, z :: zs =>
        obtain ⟨hx, hxs⟩ := List.forall_mem_cons.mp hxs
        obtain ⟨hy, hys⟩ := List.forall_mem_cons.mp hys
        obtain ⟨hz, hzs⟩ := List.forall_mem_cons.mp hzs
        rw [listOrder] at hxy hyz ⊢
        exact h.isLE_then hx hy hz (ih hxs hys hzs) hxy hyz

/-! ### Kinds -/

theorem isNumber_iff {v : Value} : v.isNumber = true ↔ v.rank = 2 := by
  cases v <;> simp [isNumber, rank]

/-- Values of different kinds are ordered by the ranks of their kinds. -/
theorem sortOrder_of_rank_ne {a b : Value} (h : a.rank ≠ b.rank) :
    a.sortOrder b = compare a.rank b.rank := by
  cases a <;> cases b <;> first | rfl | exact absurd rfl h

theorem sortOrder_of_numbers {a b : Value} (ha : a.isNumber = true) (hb : b.isNumber = true) :
    a.sortOrder b = a.compareNumbers b := by
  rw [isNumber_iff] at ha hb
  cases a <;> cases ha <;> cases b <;> cases hb <;> rfl

/-- The order ranks values as soon as it ranks what is in the lists among them. -/
theorem ranks_sortOrder_of_items {S T : Value → Prop} (hordered : ∀ v, S v → v.IsOrdered)
    (hitems : ∀ items, S (list items) → ∀ item ∈ items, T item) (h : Ranks sortOrder T) :
    Ranks sortOrder S := by
  refine .of_kinds rank (fun a b _ _ => sortOrder_of_rank_ne) fun kind => ?_
  match kind with
  | 0 =>
    refine .of_eq ?_
    rintro a b ⟨-, ha⟩ ⟨-, hb⟩
    cases a <;> cases ha <;> cases b <;> cases hb <;> rfl
  | 1 =>
    refine (Ranks.of_compare id : Ranks _ fun _ => True).of_image boolean ?_ fun _ _ => rfl
    rintro a ⟨-, ha⟩
    cases a <;> cases ha
    exact ⟨_, trivial, rfl⟩
  | 2 =>
    have hstands : ∀ v, S v ∧ v.rank = 2 → v.isNumber = true ∧ Stands v := fun v hv =>
      ⟨isNumber_iff.mpr hv.2, stands (isNumber_iff.mpr hv.2) (hordered v hv.1)⟩
    refine (ranks_placeOrder fun _ => True).of_key place (fun _ _ => trivial) fun a b ha hb => ?_
    obtain ⟨hna, hsa⟩ := hstands a ha
    obtain ⟨hnb, hsb⟩ := hstands b hb
    rw [sortOrder_of_numbers hna hnb, compareNumbers_eq hsa hsb]
  | 3 =>
    refine (ranks_instantOrder fun _ => True).of_image date ?_ fun _ _ => rfl
    rintro a ⟨-, ha⟩
    cases a <;> cases ha
    exact ⟨_, trivial, rfl⟩
  | 4 =>
    refine (Ranks.of_compare id : Ranks _ fun _ => True).of_image string ?_ fun _ _ => rfl
    rintro a ⟨-, ha⟩
    cases a <;> cases ha
    exact ⟨_, trivial, rfl⟩
  | 5 =>
    refine (ranks_listOrder h).of_image list ?_ fun _ _ => rfl
    rintro a ⟨hS, ha⟩
    cases a <;> cases ha
    exact ⟨_, hitems _ hS, rfl⟩
  | k + 6 =>
    refine .of_eq ?_
    rintro a b ⟨-, ha⟩
    cases a <;> cases ha

theorem ranks_sortOrder_of_lt (n : Nat) :
    Ranks sortOrder fun v => v.IsOrdered ∧ sizeOf v < n := by
  induction n with
  | zero => exact .of_eq fun a b ha => absurd ha.2 (Nat.not_lt_zero _)
  | succ n ih =>
    refine ranks_sortOrder_of_items (fun _ hv => hv.1) (fun items hv item hitem => ?_) ih
    have hlt := List.sizeOf_lt_of_mem hitem
    have hsize : sizeOf (list items) = 1 + sizeOf items := by simp
    exact ⟨isOrdered_list.mp hv.1 item hitem, by omega⟩

/-- The order of sorting ranks the values without not-a-number. -/
theorem ranks_sortOrder : Ranks sortOrder IsOrdered where
  swap {a b} ha hb := (ranks_sortOrder_of_lt (sizeOf a + sizeOf b + 1)).swap
    ⟨ha, by omega⟩ ⟨hb, by omega⟩
  trans {a b c} ha hb hc := (ranks_sortOrder_of_lt (sizeOf a + sizeOf b + sizeOf c + 1)).trans
    ⟨ha, by omega⟩ ⟨hb, by omega⟩ ⟨hc, by omega⟩

/-- **The order of sorting is a total preorder** on the values without not-a-number: two of them
turned around have the opposite outcome, and what does not come after a value comes after nothing
that the value does not come after. -/
theorem sortOrder_totalPreorder {a b c : Value} (ha : a.IsOrdered) (hb : b.IsOrdered)
    (hc : c.IsOrdered) :
    b.sortOrder a = (a.sortOrder b).swap ∧
      (a.sortOrder b ≠ .gt → b.sortOrder c ≠ .gt → a.sortOrder c ≠ .gt) := by
  refine ⟨ranks_sortOrder.swap ha hb, fun hab hbc => ?_⟩
  have hab : (a.sortOrder b).isLE = true := Ordering.isLE_iff_ne_gt.mpr hab
  have hbc : (b.sortOrder c).isLE = true := Ordering.isLE_iff_ne_gt.mpr hbc
  exact Ordering.isLE_iff_ne_gt.mp (ranks_sortOrder.trans ha hb hc hab hbc)

/-- Three lists, with an integer, a number beyond the decimals and an infinity at their heads. -/
theorem sortOrder_totalPreorder_of_lists :
    let a := list [integer 3, string "b"]
    let b := list [real (.ofDecimal false 1 30), null]
    let c := list [real (.infinite false), list []]
    b.sortOrder a = (a.sortOrder b).swap ∧ a.sortOrder c ≠ .gt := by
  intro a b c
  have ha : a.IsOrdered := rfl
  have hb : b.IsOrdered := by decide +kernel
  have hc : c.IsOrdered := rfl
  obtain ⟨hswap, htrans⟩ := sortOrder_totalPreorder ha hb hc
  have hab : a.sortOrder b ≠ .gt := by decide +kernel
  have hbc : b.sortOrder c ≠ .gt := by decide +kernel
  exact ⟨hswap, htrans hab hbc⟩

-- Not-a-number spoils it: 2 is at most not-a-number, which is at most 1.
example : (integer 2).sortOrder (real .nan) ≠ .gt ∧ (real .nan).sortOrder (integer 1) ≠ .gt ∧
    (integer 2).sortOrder (integer 1) = .gt := by decide +kernel

end Notebook.Value
