import Notebook.Proofs.Number.ReadBack

/-!
# Whole numbers are written without a point

The search for the fewest digits of a number goes from its first digit to the right. A whole number
is read back from the grid of the whole numbers at the latest, where one of the points that are
tried is the number itself, so the search never goes to the places after the point: if the number is
so great that the search ends before that grid, its exact expansion has no places either
(`Notebook.Number.Finite.exponent_shortest`).

So the text of a whole number is digits with a sign perhaps
(`Notebook.Number.Finite.exists_text_of_isWhole`), and nothing in it tells that it is the text of a
number with a point.
-/

namespace Notebook.Number

namespace Finite

/-! ### The first digit -/

/-- That a quotient **reaches a power of ten**. -/
def Reaches (q : Nat × Nat) (p : Int) : Prop := (inUnits q p).2 ≤ (inUnits q p).1

/-- **The power of ten of the first digit** is one of four from a bound on, and the greatest of them
that the quotient reaches. -/
theorem leadingExponent_spec (n d : Nat) : ∃ bound : Int,
    bound = (((n.log2 : Int) - d.log2 - 1) * 30103) / 100000 - 1 ∧
      bound ≤ leadingExponent (n, d) ∧ leadingExponent (n, d) ≤ bound + 3 ∧
      (bound < leadingExponent (n, d) → Reaches (n, d) (leadingExponent (n, d))) ∧
      (leadingExponent (n, d) < bound + 3 → ¬Reaches (n, d) (leadingExponent (n, d) + 1)) := by
  refine ⟨_, rfl, ?_⟩
  unfold leadingExponent Reaches
  dsimp only
  rw [Int.fdiv_eq_ediv_of_nonneg _ (by decide)]
  generalize (((n.log2 : Int) - d.log2 - 1) * 30103) / 100000 - 1 = bound
  simp only [decide_eq_true_eq]
  split
  · next hthird => exact ⟨by omega, by omega, fun _ => hthird, by omega⟩
  next hthird =>
  split
  · next hsecond =>
    refine ⟨by omega, by omega, fun _ => hsecond, fun _ => ?_⟩
    simpa [Int.add_assoc] using hthird
  next hsecond =>
  split
  · next hfirst =>
    refine ⟨by omega, by omega, fun _ => hfirst, fun _ => ?_⟩
    simpa [Int.add_assoc] using hsecond
  · next hfirst => exact ⟨by omega, by omega, by omega, fun _ => hfirst⟩

/-- A quotient of at least one reaches every power of ten that is no greater than one. -/
theorem reaches_of_le {n d : Nat} (h : d ≤ n) {p : Int} (hp : p ≤ 0) : Reaches (n, d) p := by
  unfold Reaches inUnits
  split
  · rw [show p.toNat = 0 by omega]
    simpa using h
  · exact Nat.le_trans h (Nat.le_mul_of_pos_right n (pow_pos 10 _ (by decide)))

/-- The first digit of a quotient of at least one stands in front of the point. -/
theorem leadingExponent_nonneg {n d : Nat} (hd : d ≠ 0) (h : d ≤ n) :
    0 ≤ leadingExponent (n, d) := by
  obtain ⟨bound, hbound, hlow, hhigh, -, hnext⟩ := leadingExponent_spec n d
  have hlog : d.log2 ≤ n.log2 :=
    (Nat.le_log2 (by omega)).mpr (Nat.le_trans (Nat.log2_self_le hd) h)
  apply Int.le_of_not_gt
  intro hneg
  exact hnext (by omega) (reaches_of_le h (by omega))

/-- The first digit of a number below `2 ^ 53` is among the last seventeen in front of the point. -/
theorem leadingExponent_le {n d : Nat} (hd : 0 < d) (h : n < Nat.pow 2 53) :
    leadingExponent (n, d) ≤ 16 := by
  obtain ⟨bound, hbound, hlow, hhigh, hreaches, -⟩ := leadingExponent_spec n d
  have hlog : n.log2 ≤ 52 := by
    rcases Nat.eq_zero_or_pos n with rfl | hn
    · decide
    · exact Nat.le_of_lt_succ ((Nat.log2_lt (by omega)).mpr h)
  apply Int.le_of_not_gt
  intro hgt
  have hseventeen : leadingExponent (n, d) = 17 := by omega
  have hn : Reaches (n, d) 17 := hseventeen ▸ hreaches (by omega)
  -- ten to the seventeenth is more than two to the 53rd
  have hle : d * Nat.pow 10 17 ≤ n := hn
  have hpow : Nat.pow 2 53 < Nat.pow 10 17 := by decide
  have := Nat.le_mul_of_pos_left (Nat.pow 10 17) hd
  omega

/-! ### The grid of the whole numbers -/

variable {x : Finite}

theorem quotient_fst_ne_zero (h : x.significand ≠ 0) : x.quotient.1 ≠ 0 := by
  unfold quotient
  split
  · exact Nat.mul_ne_zero h (Nat.pos_iff_ne_zero.mp (pow_pos 2 _ (by decide)))
  · exact h

theorem quotient_snd_pos (x : Finite) : 0 < x.quotient.2 := by
  unfold quotient
  split
  · exact Nat.one_pos
  · exact pow_pos 2 _ (by decide)

/-- **A whole number is read back** from its own digits. -/
theorem readsBack_of_isWhole (hx : x.IsWhole) (h : x.significand ≠ 0) :
    x.readsBack ⟨x.quotient.1 / x.quotient.2, 0⟩ = true := by
  obtain ⟨value, hvalue⟩ := hx
  have hpos := x.quotient_snd_pos
  have hne : value ≠ 0 := by
    rintro rfl
    exact quotient_fst_ne_zero h hvalue
  have hexact : Binary64.ofQuotient false x.quotient.1 x.quotient.2 =
      .finite { x with negative := false } :=
    Binary64.ofQuotient_quotient (x := { x with negative := false }) h
  have hdigits : x.quotient.1 / x.quotient.2 = value := by
    rw [hvalue, Nat.mul_div_cancel_left _ hpos]
  rw [hvalue] at hexact
  rw [readsBack_iff, hdigits]
  calc Binary64.ofDecimal false value 0 = Binary64.ofQuotient false value 1 := by
        rw [Binary64.ofDecimal, if_neg hne, if_neg (by decide), if_neg (by omega),
          if_pos (by decide)]
        exact congrArg (Binary64.ofQuotient false · 1) (Nat.mul_one value)
    _ = Binary64.ofQuotient false (x.quotient.2 * value) (x.quotient.2 * 1) :=
        (Binary64.ofQuotient_mul_left false hpos hne Nat.one_ne_zero).symm
    _ = .finite { x with negative := false } := by rw [Nat.mul_one, hexact]

theorem mem_neighbours_zero (tie : Tie) (q : Nat × Nat) : ⟨q.1 / q.2, 0⟩ ∈ neighbours tie q 0 := by
  have hunits : inUnits q 0 = (q.1, q.2) := congrArg (q.1, ·) (Nat.mul_one q.2)
  rw [neighbours, hunits]
  exact List.mem_cons_of_mem _ (List.mem_cons_self ..)

theorem exponent_of_mem_neighbours {tie : Tie} {q : Nat × Nat} {p : Int} {decimal : Scaled}
    (h : decimal ∈ neighbours tie q p) : decimal.exponent = p := by
  obtain ⟨digits, -, rfl⟩ := List.mem_map.mp h
  rfl

/-! ### The search -/

theorem exponent_le_dropZeros (decimal : Scaled) :
    decimal.exponent ≤ decimal.dropZeros.exponent := by
  fun_induction Scaled.dropZeros decimal with
  | case1 => exact Int.le_refl _
  | case2 decimal _ ih => exact Int.le_trans (Int.le_of_lt (Int.lt_succ _)) ih

/-- A search through the first numbers finds something at one of them or before it, if there is
something. -/
theorem exists_findSome?_range {α : Type} {f : Nat → Option α} {k m : Nat} (hm : m < k)
    (h : (f m).isSome = true) :
    ∃ n ≤ m, ∃ a, f n = some a ∧ (List.range k).findSome? f = some a := by
  obtain ⟨rest, rfl⟩ := Nat.exists_eq_add_of_le hm
  rw [List.range_add, List.findSome?_append]
  cases hfound : (List.range (m + 1)).findSome? f with
  | none =>
    rw [List.findSome?_eq_none_iff] at hfound
    simp [hfound m (List.mem_range.mpr (Nat.lt_succ_self m))] at h
  | some a =>
    obtain ⟨n, hn, ha⟩ := List.exists_of_findSome?_eq_some hfound
    exact ⟨n, Nat.le_of_lt_succ (List.mem_range.mp hn), a, ha, rfl⟩

/-- What the search finds on one of its grids. -/
def onGrid (tie : Tie) (x : Finite) (n : Nat) : Option Scaled :=
  (neighbours tie x.quotient (leadingExponent x.quotient - n)).find? x.readsBack

theorem shortest_eq (tie : Tie) (x : Finite) : x.shortest tie =
    (((List.range 17).findSome? (onGrid tie x)).getD x.expansion).dropZeros := rfl

theorem exponent_of_onGrid {tie : Tie} {n : Nat} {decimal : Scaled}
    (h : onGrid tie x n = some decimal) : decimal.exponent = leadingExponent x.quotient - n :=
  exponent_of_mem_neighbours (List.mem_of_find?_eq_some h)

/-- **The fewest digits of a whole number** have no places. -/
theorem exponent_shortest (tie : Tie) (hx : x.IsWhole) (h : x.significand ≠ 0) :
    0 ≤ (x.shortest tie).exponent := by
  have hone : x.quotient.2 ≤ x.quotient.1 :=
    Nat.le_of_dvd (Nat.pos_of_ne_zero (quotient_fst_ne_zero h)) hx
  have hfirst : 0 ≤ leadingExponent x.quotient :=
    leadingExponent_nonneg (Nat.pos_iff_ne_zero.mp x.quotient_snd_pos) hone
  rw [shortest_eq]
  refine Int.le_trans ?_ (exponent_le_dropZeros _)
  by_cases hlast : leadingExponent x.quotient ≤ 16
  · -- the search comes to the grid of the whole numbers, if it does not end before
    have hm : (leadingExponent x.quotient).toNat < 17 := by omega
    have hwhole : (onGrid tie x (leadingExponent x.quotient).toNat).isSome = true := by
      rw [onGrid, show leadingExponent x.quotient - (leadingExponent x.quotient).toNat = 0 by omega,
        List.find?_isSome]
      exact ⟨_, mem_neighbours_zero tie _, readsBack_of_isWhole hx h⟩
    obtain ⟨n, hn, decimal, hdecimal, hfound⟩ := exists_findSome?_range hm hwhole
    rw [hfound, Option.getD_some, exponent_of_onGrid hdecimal]
    omega
  · rcases hfound : (List.range 17).findSome? (onGrid tie x) with _ | decimal
    · -- a number with so many digits in front of the point has no places in base two either
      have hexponent : 0 ≤ x.exponent := by
        apply Int.le_of_not_gt
        intro hneg
        refine hlast ?_
        rw [quotient, if_neg (by omega)]
        exact leadingExponent_le (pow_pos 2 _ (by decide)) x.canonical.1
      have hzero : (Option.none.getD x.expansion).exponent = 0 := by
        rw [Option.getD_none, expansion, if_pos hexponent]
      exact Int.le_of_eq hzero.symm
    · obtain ⟨n, hn, hdecimal⟩ := List.exists_of_findSome?_eq_some hfound
      have hn := List.mem_range.mp hn
      rw [Option.getD_some, exponent_of_onGrid hdecimal]
      omega

end Finite

/-! ### The text -/

theorem Layout.toList_positionalText (layout : Layout) {decimal : Scaled}
    (h : 0 ≤ decimal.exponent) : (layout.positionalText decimal).toList =
      (digitsOf decimal.digits).toList ++ List.replicate decimal.exponent.toNat '0' ++
        layout.wholeEnding.toList := by
  rw [positionalText]
  dsimp only
  rw [if_pos h, String.toList_append, String.toList_append, toList_zeros]

/-- **A whole number is written as digits**, after a sign if it has one. -/
theorem Finite.exists_text_of_isWhole {x : Finite} (hx : x.IsWhole) : ∃ digits : List Char,
    (Binary64.finite x).text.toList = (if x.negative then ['-'] else []) ++ digits ∧
      digits ≠ [] ∧ ∀ c ∈ digits, c.isDigit = true := by
  have hsign : ∀ s : String, ((if x.negative then "-" else "") ++ s).toList =
      (if x.negative then ['-'] else []) ++ s.toList := by
    intro s
    rw [String.toList_append]
    cases x.negative <;> rfl
  by_cases h : x.significand = 0
  · refine ⟨['0'], ?_, by simp, by simp⟩
    rw [Binary64.text, Layout.text, hsign, if_pos h]
    rfl
  · have hplain : (Binary64.finite x).text =
        (if x.negative then "-" else "") ++ plain.positionalText (x.shortest .up) := by
      simp only [Binary64.text, Layout.text, if_neg h]
      rfl
    have hending : plain.wholeEnding.toList = [] := rfl
    rw [hplain, hsign, plain.toList_positionalText (x.exponent_shortest .up hx h), hending,
      List.append_nil]
    refine ⟨_, rfl, List.append_ne_nil_of_left_ne_nil (toList_digitsOf_ne_nil _) _, fun c hc => ?_⟩
    rcases List.mem_append.mp hc with hc | hc
    · exact isDigit_of_mem_digitsOf hc
    · rw [List.eq_of_mem_replicate hc]
      rfl

end Notebook.Number
