import Notebook.Number.Notation
import Notebook.Proofs.Number.Digits
import Notebook.Proofs.Number.Quotient

/-!
# Numbers that are read back

The decimal with the fewest digits was tested when it was found, but then it loses the zeros at its
end. These have no part in its value (`Notebook.Number.Finite.readsBack_dropZeros`), and where no
decimal was found the exact expansion takes its place, which is read back as well
(`Notebook.Number.Finite.readsBack_expansion`).

So a number with a fraction is written with a point, and its digits are read as the number itself
(`Notebook.Number.Finite.exists_text`). A whole number is written without a point, which is why it
is left out here.
-/

namespace Notebook.Number

/-- A decimal with places is written as digits with a point among them, as many after it as there
are places; all of them together are the digits of the decimal. -/
theorem Layout.exists_positionalText (layout : Layout) {decimal : Scaled}
    (h : decimal.exponent < 0) :
    ∃ whole places : List Char,
      (layout.positionalText decimal).toList = whole ++ '.' :: places ∧ whole ≠ [] ∧
        (∀ c ∈ whole ++ places, c.isDigit = true) ∧ wholeOf (whole ++ places) = decimal.digits ∧
        -(places.length : Int) = decimal.exponent := by
  have hlength := le_length_padded ((-decimal.exponent).toNat + 1) decimal.digits
  have hwhole := wholeOf_padded ((-decimal.exponent).toNat + 1) decimal.digits
  have hdigits : ∀ c ∈ (padded ((-decimal.exponent).toNat + 1) decimal.digits).toList,
      c.isDigit = true := fun c => isDigit_of_mem_padded
  rw [positionalText]
  dsimp only
  rw [if_neg (show ¬0 ≤ decimal.exponent by omega)]
  -- only the length of the filled digits, what they are and what they spell matters from here on
  generalize (padded ((-decimal.exponent).toNat + 1) decimal.digits).toList = filled
    at hlength hwhole hdigits
  refine ⟨filled.take (filled.length - (-decimal.exponent).toNat),
    filled.drop (filled.length - (-decimal.exponent).toNat), by simp, ?_, ?_, ?_, ?_⟩
  · rw [← List.length_pos_iff, List.length_take]
    omega
  · rwa [List.take_append_drop]
  · rwa [List.take_append_drop]
  · rw [List.length_drop]
    omega

namespace Finite

variable {x : Finite} {decimal : Scaled}

theorem readsBack_iff : x.readsBack decimal = true ↔
    Binary64.ofDecimal false decimal.digits decimal.exponent =
      .finite { x with negative := false } :=
  decide_eq_true_iff

theorem exponent_of_readsBack (hx : ¬x.IsWhole) (h : x.readsBack decimal = true) :
    decimal.exponent < 0 := by
  apply Int.lt_of_not_ge
  intro hexponent
  have hwhole : IsWhole { x with negative := false } :=
    Binary64.isWhole_of_ofDecimal hexponent (readsBack_iff.mp h)
  exact hx hwhole

theorem significand_ne_zero (hx : ¬x.IsWhole) : x.significand ≠ 0 :=
  fun h => hx (isWhole_of_significand (n := 0) (by rw [h, Nat.zero_mul]))

/-- **Zeros at the end have no part in the value.** -/
theorem readsBack_dropZeros (hx : ¬x.IsWhole) (h : x.readsBack decimal = true) :
    x.readsBack decimal.dropZeros = true := by
  fun_induction Scaled.dropZeros decimal with
  | case1 decimal hend => exact h
  | case2 decimal hzero ih =>
    apply ih
    have hexponent := exponent_of_readsBack hx h
    obtain ⟨hdigits, hdvd⟩ : decimal.digits ≠ 0 ∧ decimal.digits % 10 = 0 := by omega
    have hten : decimal.digits = 10 * (decimal.digits / 10) := by omega
    have hpow : Nat.pow 10 (-decimal.exponent).toNat =
        10 * Nat.pow 10 (-(decimal.exponent + 1)).toNat := by
      rw [show (-decimal.exponent).toNat = (-(decimal.exponent + 1)).toNat + 1 by omega, pow_succ,
        Nat.mul_comm]
    have hquotient := readsBack_iff.mp h
    rw [Binary64.ofDecimal_of_neg _ _ hexponent, hten, hpow,
      Binary64.ofQuotient_mul_left _ (by decide) (by omega)
        (Nat.pos_iff_ne_zero.mp (pow_pos 10 _ (by decide)))] at hquotient
    by_cases hlast : decimal.exponent + 1 < 0
    · rw [readsBack_iff, Binary64.ofDecimal_of_neg _ _ hlast]
      exact hquotient
    · -- the last place was a zero, so that the value would be whole
      rw [show (-(decimal.exponent + 1)).toNat = 0 by omega] at hquotient
      have hwhole : IsWhole { x with negative := false } := Binary64.isWhole_of_ofQuotient hquotient
      exact absurd hwhole hx

/-- **The exact expansion is read back.** -/
theorem readsBack_expansion (hx : ¬x.IsWhole) : x.readsBack x.expansion = true := by
  have hexponent : ¬0 ≤ x.exponent := fun h => hx (isWhole_of_exponent h)
  have hten : Nat.pow 10 (-x.exponent).toNat =
      Nat.pow 5 (-x.exponent).toNat * Nat.pow 2 (-x.exponent).toNat := Nat.mul_pow 5 2 _
  have hexact := Binary64.ofQuotient_quotient (x := { x with negative := false })
    (significand_ne_zero hx)
  unfold quotient at hexact
  rw [if_neg hexponent] at hexact
  -- the factor five that the expansion has in both parts is taken out of the quotient
  rw [readsBack_iff, expansion, if_neg hexponent,
    Binary64.ofDecimal_of_neg _ _ (show x.exponent < 0 by omega), hten, Nat.mul_comm x.significand,
    Binary64.ofQuotient_mul_left _ (pow_pos 5 _ (by decide)) (significand_ne_zero hx)
      (Nat.pos_iff_ne_zero.mp (pow_pos 2 _ (by decide)))]
  exact hexact

/-- **The fewest digits are read back.** -/
theorem readsBack_shortest (tie : Tie) (hx : ¬x.IsWhole) : x.readsBack (x.shortest tie) = true := by
  unfold shortest
  dsimp only
  apply readsBack_dropZeros hx
  cases hfound : (List.range 17).findSome? fun (n : Nat) =>
      (neighbours tie x.quotient (leadingExponent x.quotient - n)).find? x.readsBack with
  | none => exact readsBack_expansion hx
  | some decimal =>
    obtain ⟨n, -, hn⟩ := List.exists_of_findSome?_eq_some hfound
    exact List.find?_some hn

/-- **A number with a fraction is written as digits with a point among them**, which are read as the
number. -/
theorem exists_text (hx : ¬x.IsWhole) : ∃ whole places : List Char,
    (Binary64.finite x).text.toList =
        (if x.negative then ['-'] else []) ++ (whole ++ '.' :: places) ∧
      whole ≠ [] ∧ places ≠ [] ∧ (∀ c ∈ whole ++ places, c.isDigit = true) ∧
      Binary64.ofDecimal x.negative (wholeOf (whole ++ places)) (-places.length) = .finite x := by
  have hback := readsBack_shortest .up hx
  have hexponent := exponent_of_readsBack hx hback
  have hread := Binary64.ofDecimal_sign x.negative (readsBack_iff.mp hback)
  obtain ⟨whole, places, htext, hwhole, hdigits, hvalue, hplaces⟩ :=
    plain.exists_positionalText hexponent
  refine ⟨whole, places, ?_, hwhole, ?_, hdigits, ?_⟩
  · have hplain : (Binary64.finite x).text =
        (if x.negative then "-" else "") ++ plain.positionalText (x.shortest .up) := by
      simp only [Binary64.text, Layout.text, if_neg (significand_ne_zero hx)]
      rfl
    rw [hplain, String.toList_append, htext]
    cases x.negative <;> rfl
  · rintro rfl
    rw [← hplaces] at hexponent
    exact absurd hexponent (by decide)
  · rw [hvalue, hplaces]
    exact hread

end Finite

end Notebook.Number
