import Notebook.Number.Decimal
import Notebook.Proofs.Number.Quotient

/-!
# Which binary numbers are decimals

A finite binary number has a decimal unless its magnitude is `2 ^ 96` or more
(`Notebook.Number.Decimal.ofBinary?_eq_none_iff`), and the binary number of a 64-bit integer is
finite and far below that (`Notebook.Number.Binary64.exists_ofInt`). So a number without a decimal
is further from zero than every number with one, also after an integer was rounded.
-/

namespace Notebook.Number

/-- The count of binary places of the least binary number. -/
def binaryPlaces : Nat := 1074

/-- **The bound of decimals** in units of the least binary number. -/
def decimalRange : Nat := Decimal.coefficientBound * Nat.pow 2 binaryPlaces

/-- The offset of the units is on both sides of a comparison with the bound. -/
theorem reaches_iff {bound significand exponent offset k : Nat} (hk : k = exponent + offset) :
    bound * Nat.pow 2 offset ≤ significand * Nat.pow 2 k ↔
      bound ≤ significand * Nat.pow 2 exponent := by
  rw [hk, pow_add, ← Nat.mul_assoc]
  exact Nat.mul_le_mul_right_iff (pow_pos 2 offset (by decide))

theorem not_reaches {significand offset k : Nat} (h : significand < Nat.pow 2 53)
    (hk : k ≤ 43 + offset) :
    significand * Nat.pow 2 k < Decimal.coefficientBound * Nat.pow 2 offset := by
  calc significand * Nat.pow 2 k < Nat.pow 2 53 * Nat.pow 2 k :=
        Nat.mul_lt_mul_of_pos_right h (pow_pos 2 k (by decide))
    _ ≤ Nat.pow 2 53 * Nat.pow 2 (43 + offset) :=
        Nat.mul_le_mul_left _ (Nat.pow_le_pow_right (by decide) hk)
    _ = Nat.pow 2 53 * Nat.pow 2 43 * Nat.pow 2 offset := by rw [pow_add, Nat.mul_assoc]
    _ = Decimal.coefficientBound * Nat.pow 2 offset :=
        congrArg (· * Nat.pow 2 offset) (by decide)

namespace Finite

/-- A number whose last digit is in the whole part reaches the bound when its whole part does. -/
theorem decimalRange_le_iff {x : Finite} (h : 0 ≤ x.exponent) :
    decimalRange ≤ x.magnitude ↔
      Decimal.coefficientBound ≤ x.significand * Nat.pow 2 x.exponent.toNat :=
  reaches_iff (by unfold binaryPlaces; omega)

/-- A number whose last digit is far enough to the right does not reach the bound. -/
theorem magnitude_lt {x : Finite} (h : x.exponent ≤ 43) : x.magnitude < decimalRange :=
  not_reaches x.canonical.1 (by unfold binaryPlaces; omega)

end Finite

theorem decimalRange_pos : 0 < decimalRange :=
  Nat.zero_lt_of_lt (@Finite.magnitude_lt ⟨false, 0, -1074, by decide⟩ (by decide))

namespace Decimal

theorem ofWhole?_eq_none_iff {n : Nat} : ofWhole? n = none ↔ coefficientBound ≤ n := by
  unfold ofWhole?
  split <;> simp only [reduceCtorEq, false_iff, true_iff] <;> omega

theorem ofMagnitude?_eq_none_iff {x : Finite} :
    ofMagnitude? x = none ↔ decimalRange ≤ x.magnitude := by
  unfold ofMagnitude?
  split
  · next h => rw [ofWhole?_eq_none_iff, x.decimalRange_le_iff h]
  · next h =>
    have hlt : x.magnitude < decimalRange := Finite.magnitude_lt (by omega)
    simp only [reduceCtorEq, false_iff]
    exact Nat.not_le.mpr hlt

/-- **A finite number is no decimal** when its magnitude reaches the bound. -/
theorem ofBinary?_eq_none_iff {x : Finite} :
    ofBinary? (.finite x) = none ↔ decimalRange ≤ x.magnitude := by
  rw [← ofMagnitude?_eq_none_iff, ofBinary?, Option.map_eq_none_iff]

end Decimal

namespace Binary64

/-- The rounded significand of a whole number has 53 bits, or is the next power of two. -/
theorem significand_bounds {n : Nat} (h : n ≠ 0) :
    let e : Int := n.log2 - 52
    let significand := if 0 ≤ e then roundQuotient .even n (1 * Nat.pow 2 e.toNat)
      else roundQuotient .even (n * Nat.pow 2 (-e).toNat) 1
    Nat.pow 2 52 ≤ significand ∧ significand ≤ Nat.pow 2 53 := by
  obtain ⟨hlow, hhigh⟩ := log2_bounds h
  rw [Nat.mul_comm, ← pow_succ] at hhigh
  dsimp only
  split
  · next he =>
    obtain ⟨k, hk⟩ : ∃ k, n.log2 = 52 + k := ⟨n.log2 - 52, by omega⟩
    rw [show ((n.log2 : Int) - 52).toNat = k by omega, Nat.one_mul]
    rw [hk, pow_add] at hlow
    rw [hk, show 52 + k + 1 = 53 + k by omega, pow_add] at hhigh
    have hfloor := (Nat.le_div_iff_mul_le (pow_pos 2 k (by decide))).mpr hlow
    have hceil := Nat.div_lt_of_lt_mul (Nat.mul_comm _ _ ▸ hhigh)
    have hround := roundQuotient_bounds .even n (Nat.pow 2 k)
    omega
  · next he =>
    obtain ⟨k, hk⟩ : ∃ k, n.log2 + k = 52 := ⟨52 - n.log2, by omega⟩
    rw [show (-((n.log2 : Int) - 52)).toNat = k by omega, ← Nat.mul_one (n * Nat.pow 2 k),
      roundQuotient_mul_right _ _ Nat.one_pos]
    have hlow := Nat.mul_le_mul_right (Nat.pow 2 k) hlow
    have hhigh := Nat.mul_le_mul_right (Nat.pow 2 k) (Nat.le_of_lt hhigh)
    rw [← pow_add, hk] at hlow
    rw [← pow_add, show n.log2 + 1 + k = 53 by omega] at hhigh
    exact ⟨hlow, hhigh⟩

/-- **The number of an integer of 64 bits** is finite, and below the bound of decimals. -/
theorem exists_ofInt {n : Int} (h : n.natAbs < Nat.pow 2 64) :
    ∃ x, ofInt n = finite x ∧ x.magnitude < decimalRange := by
  unfold ofInt ofQuotient
  split
  · exact ⟨_, rfl, Finite.magnitude_lt (show (-1074 : Int) ≤ 43 by decide)⟩
  next hn =>
  have hlog : n.natAbs.log2 < 64 := (Nat.log2_lt hn).mpr h
  obtain ⟨hlow, hhigh⟩ := log2_bounds hn
  have hleads : Leads n.natAbs 1 n.natAbs.log2 :=
    ⟨n.natAbs.log2, 0, by omega, by simpa using hlow, by simpa using hhigh⟩
  have hexponent : exponentOf n.natAbs 1 = n.natAbs.log2 - 52 := by
    rw [exponentOf_of_leads hn (by decide) hleads]
    omega
  obtain ⟨hleast, hmost⟩ := significand_bounds hn
  dsimp only at hleast hmost ⊢
  rw [hexponent]
  generalize (if 0 ≤ (n.natAbs.log2 : Int) - 52 then _ else _) = significand at hleast hmost ⊢
  unfold ofParts
  split
  · exact ⟨_, rfl, Finite.magnitude_lt (show (n.natAbs.log2 : Int) - 52 ≤ 43 by omega)⟩
  next hparts =>
  -- what is no significand of 53 bits was rounded up to the next power of two
  have hup : significand = Nat.pow 2 53 := Nat.le_antisymm hmost
    (Nat.le_of_not_lt fun hlt => hparts ⟨hlt, by omega, by omega, .inl hleast⟩)
  rw [dif_pos ⟨hup, by decide, by omega, by omega, .inl (Nat.le_refl _)⟩]
  exact ⟨_, rfl, Finite.magnitude_lt (show (n.natAbs.log2 : Int) - 52 + 1 ≤ 43 by omega)⟩

end Binary64

end Notebook.Number
