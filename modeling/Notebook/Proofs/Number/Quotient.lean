import Notebook.Number.Binary64

/-!
# The nearest number to a quotient

Rounding looks at a numerator and a denominator, but what it gives depends on their quotient alone
(`Notebook.Number.Binary64.ofQuotient_mul_left`). The point is the exponent, which is found by
logarithms to base two and a comparison: `Notebook.Number.Leads` says of a power of two that it is
the greatest one that the quotient reaches, there is one such power only, and the exponent belongs
to it.

A finite number is the nearest one to its own value
(`Notebook.Number.Binary64.ofQuotient_quotient`), and a whole quotient has a whole nearest number
(`Notebook.Number.Binary64.isWhole_of_ofQuotient`).
-/

namespace Notebook.Number

/-! ### Powers -/

theorem pow_pos (b k : Nat) (hb : 0 < b) : 0 < Nat.pow b k := Nat.pow_pos hb

theorem pow_succ (b k : Nat) : Nat.pow b (k + 1) = Nat.pow b k * b := rfl

theorem pow_add (b m n : Nat) : Nat.pow b (m + n) = Nat.pow b m * Nat.pow b n := Nat.pow_add b m n

theorem pow_lt_pow_iff (m n : Nat) : Nat.pow 2 m < Nat.pow 2 n ↔ m < n :=
  Nat.pow_lt_pow_iff_right (by decide)

/-! ### The leading power of two -/

/-- **A power of two leads a quotient** when the quotient reaches it and does not reach the next
one. The power is the quotient of two others, so that everything stays a natural number. -/
def Leads (n d : Nat) (t : Int) : Prop :=
  ∃ a b : Nat, t = a - b ∧ d * Nat.pow 2 a ≤ n * Nat.pow 2 b ∧
    n * Nat.pow 2 b < 2 * (d * Nat.pow 2 a)

theorem Leads.le {n d : Nat} {s t : Int} (h : Leads n d s) (h' : Leads n d t) : s ≤ t := by
  obtain ⟨a, b, rfl, hlow, -⟩ := h
  obtain ⟨a', b', rfl, -, hhigh⟩ := h'
  -- both sides times the two denominators, which leaves exponents to compare
  have hchain : d * Nat.pow 2 (a + b') < d * Nat.pow 2 (a' + b + 1) := by
    calc d * Nat.pow 2 (a + b') = d * Nat.pow 2 a * Nat.pow 2 b' := by rw [pow_add, Nat.mul_assoc]
      _ ≤ n * Nat.pow 2 b * Nat.pow 2 b' := Nat.mul_le_mul_right _ hlow
      _ = n * Nat.pow 2 b' * Nat.pow 2 b := by ac_rfl
      _ < 2 * (d * Nat.pow 2 a') * Nat.pow 2 b :=
        Nat.mul_lt_mul_of_pos_right hhigh (pow_pos 2 b (by decide))
      _ = d * Nat.pow 2 (a' + b + 1) := by
        rw [pow_succ, pow_add]
        ac_rfl
  have hlt := (pow_lt_pow_iff _ _).mp (Nat.lt_of_mul_lt_mul_left hchain)
  omega

/-- **One power of two leads a quotient.** -/
theorem Leads.unique {n d : Nat} {s t : Int} (h : Leads n d s) (h' : Leads n d t) : s = t :=
  Int.le_antisymm (h.le h') (h'.le h)

theorem Leads.mul_left {n d c : Nat} {t : Int} (hc : 0 < c) (h : Leads n d t) :
    Leads (c * n) (c * d) t := by
  obtain ⟨a, b, rfl, hlow, hhigh⟩ := h
  refine ⟨a, b, rfl, ?_, ?_⟩
  · rw [Nat.mul_assoc, Nat.mul_assoc]
    exact Nat.mul_le_mul_left c hlow
  · rw [Nat.mul_assoc, Nat.mul_assoc, Nat.mul_left_comm 2]
    exact Nat.mul_lt_mul_of_pos_left hhigh hc

theorem log2_bounds {n : Nat} (h : n ≠ 0) : Nat.pow 2 n.log2 ≤ n ∧ n < 2 * Nat.pow 2 n.log2 := by
  refine ⟨Nat.log2_self_le h, ?_⟩
  have hlt : n < Nat.pow 2 (n.log2 + 1) := Nat.lt_log2_self
  rwa [pow_succ, Nat.mul_comm] at hlt

/-! ### The exponent -/

namespace Binary64

/-- The comparison after the logarithms, without a case for each sign of their difference. -/
theorem small_iff (n d i j : Nat) :
    (if 0 ≤ (i : Int) - j then n < d * Nat.pow 2 ((i : Int) - j).toNat
      else n * Nat.pow 2 (-((i : Int) - j)).toNat < d) ↔ n * Nat.pow 2 j < d * Nat.pow 2 i := by
  split
  · next h =>
    obtain ⟨k, rfl⟩ : ∃ k, i = k + j := ⟨i - j, by omega⟩
    rw [show (((k + j : Nat) : Int) - j).toNat = k by omega, pow_add, ← Nat.mul_assoc]
    exact (Nat.mul_lt_mul_right (pow_pos 2 j (by decide))).symm
  · next h =>
    obtain ⟨k, rfl⟩ : ∃ k, j = k + i := ⟨j - i, by omega⟩
    rw [show (-((i : Int) - (k + i : Nat))).toNat = k by omega, pow_add, ← Nat.mul_assoc]
    exact (Nat.mul_lt_mul_right (pow_pos 2 i (by decide))).symm

/-- **The exponent of a quotient** is that of its leading power with 53 bits, or the least one. -/
theorem exists_leads {n d : Nat} (hn : n ≠ 0) (hd : d ≠ 0) :
    ∃ t, Leads n d t ∧ exponentOf n d = max (t - 52) (-1074) := by
  obtain ⟨hnlow, hnhigh⟩ := log2_bounds hn
  obtain ⟨hdlow, hdhigh⟩ := log2_bounds hd
  have hsmall := small_iff n d n.log2 d.log2
  by_cases h : n * Nat.pow 2 d.log2 < d * Nat.pow 2 n.log2
  -- the difference of the logarithms is too great by one
  · refine ⟨(n.log2 : Int) - d.log2 - 1, ⟨n.log2, d.log2 + 1, by omega, ?_, ?_⟩, ?_⟩
    · calc d * Nat.pow 2 n.log2 ≤ 2 * Nat.pow 2 d.log2 * n :=
          Nat.mul_le_mul (Nat.le_of_lt hdhigh) hnlow
        _ = n * Nat.pow 2 (d.log2 + 1) := by
          rw [pow_succ]
          ac_rfl
    · rw [pow_succ, ← Nat.mul_assoc, Nat.mul_comm]
      exact Nat.mul_lt_mul_of_pos_left h (by decide)
    · simp only [exponentOf]
      rw [if_pos (hsmall.mpr h)]
  -- the difference of the logarithms is the exponent
  · refine ⟨(n.log2 : Int) - d.log2, ⟨n.log2, d.log2, rfl, Nat.le_of_not_lt h, ?_⟩, ?_⟩
    · calc n * Nat.pow 2 d.log2 < 2 * Nat.pow 2 n.log2 * Nat.pow 2 d.log2 :=
          Nat.mul_lt_mul_of_pos_right hnhigh (pow_pos 2 _ (by decide))
        _ ≤ 2 * Nat.pow 2 n.log2 * d := Nat.mul_le_mul_left _ hdlow
        _ = 2 * (d * Nat.pow 2 n.log2) := by ac_rfl
    · simp only [exponentOf]
      rw [if_neg (mt hsmall.mp h)]

theorem exponentOf_of_leads {n d : Nat} {t : Int} (hn : n ≠ 0) (hd : d ≠ 0) (h : Leads n d t) :
    exponentOf n d = max (t - 52) (-1074) := by
  obtain ⟨s, hs, heq⟩ := exists_leads hn hd
  rw [heq, hs.unique h]

theorem exponentOf_mul_left {n d c : Nat} (hc : 0 < c) (hn : n ≠ 0) (hd : d ≠ 0) :
    exponentOf (c * n) (c * d) = exponentOf n d := by
  obtain ⟨t, ht, heq⟩ := exists_leads hn hd
  have hcn := Nat.mul_ne_zero (Nat.pos_iff_ne_zero.mp hc) hn
  have hcd := Nat.mul_ne_zero (Nat.pos_iff_ne_zero.mp hc) hd
  rw [heq, exponentOf_of_leads hcn hcd (ht.mul_left hc)]

end Binary64

/-! ### Rounding -/

theorem roundQuotient_mul_left (tie : Tie) {n d c : Nat} (hc : 0 < c) :
    roundQuotient tie (c * n) (c * d) = roundQuotient tie n d := by
  have hless : 2 * (c * (n % d)) < c * d ↔ 2 * (n % d) < d := by
    rw [Nat.mul_left_comm]
    exact Nat.mul_lt_mul_left hc
  have hmore : c * d < 2 * (c * (n % d)) ↔ d < 2 * (n % d) := by
    rw [Nat.mul_left_comm]
    exact Nat.mul_lt_mul_left hc
  simp only [roundQuotient, Nat.mul_div_mul_left n d hc, Nat.mul_mod_mul_left, hless, hmore]

/-- A quotient without a rest is not rounded. -/
theorem roundQuotient_mul_right (tie : Tie) (n : Nat) {d : Nat} (hd : 0 < d) :
    roundQuotient tie (n * d) d = n := by
  simp [roundQuotient, hd]

/-- A quotient under one half is rounded to zero. -/
theorem roundQuotient_of_small (tie : Tie) {n d : Nat} (h : 2 * n < d) :
    roundQuotient tie n d = 0 := by
  have hlt : n < d := by omega
  simp [roundQuotient, Nat.div_eq_of_lt hlt, Nat.mod_eq_of_lt hlt, h]

namespace Binary64

/-- **The nearest number depends on the quotient alone**, not on how it is written. -/
theorem ofQuotient_mul_left (negative : Bool) {n d c : Nat} (hc : 0 < c) (hn : n ≠ 0) (hd : d ≠ 0) :
    ofQuotient negative (c * n) (c * d) = ofQuotient negative n d := by
  have hcn := Nat.mul_ne_zero (Nat.pos_iff_ne_zero.mp hc) hn
  simp only [ofQuotient, if_neg hn, if_neg hcn, exponentOf_mul_left hc hn hd, Nat.mul_assoc,
    roundQuotient_mul_left .even hc]

/-- The number that parts make has these parts, or those of the next exponent. -/
theorem ofParts_eq_finite {negative : Bool} {significand : Nat} {exponent : Int} {x : Finite}
    (h : ofParts negative significand exponent = finite x) : x.negative = negative ∧
      ((x.significand = significand ∧ x.exponent = exponent) ∨
        (significand = Nat.pow 2 53 ∧ x.significand = Nat.pow 2 52 ∧
          x.exponent = exponent + 1)) := by
  unfold ofParts at h
  split at h
  · obtain rfl := finite.inj h
    exact ⟨rfl, .inl ⟨rfl, rfl⟩⟩
  · split at h
    · next hnext =>
      obtain rfl := finite.inj h
      exact ⟨rfl, .inr ⟨hnext.1, rfl, rfl⟩⟩
    · cases h

/-- The sign has no part in the rest of the number. -/
theorem ofParts_sign {s : Bool} (negative : Bool) {significand : Nat} {exponent : Int} {x : Finite}
    (h : ofParts s significand exponent = finite x) :
    ofParts negative significand exponent = finite { x with negative := negative } := by
  unfold ofParts at h ⊢
  split at h
  · next hparts =>
    obtain rfl := finite.inj h
    rw [dif_pos hparts]
  · next hparts =>
    rw [dif_neg hparts]
    split at h
    · next hnext =>
      obtain rfl := finite.inj h
      rw [dif_pos hnext]
    · cases h

theorem ofQuotient_sign {s : Bool} (negative : Bool) {n d : Nat} {x : Finite}
    (h : ofQuotient s n d = finite x) :
    ofQuotient negative n d = finite { x with negative := negative } := by
  unfold ofQuotient at h ⊢
  split at h
  · next hn =>
    obtain rfl := finite.inj h
    rw [if_pos hn]
    rfl
  · next hn =>
    rw [if_neg hn]
    exact ofParts_sign negative h

end Binary64

/-! ### Whole numbers -/

/-- **A number without a fraction.** -/
def Finite.IsWhole (x : Finite) : Prop := x.quotient.2 ∣ x.quotient.1

instance (x : Finite) : Decidable x.IsWhole := inferInstanceAs (Decidable (_ ∣ _))

theorem Finite.isWhole_of_exponent {x : Finite} (h : 0 ≤ x.exponent) : x.IsWhole := by
  unfold IsWhole quotient
  rw [if_pos h]
  exact Nat.one_dvd _

theorem Finite.isWhole_of_significand {x : Finite} {n : Nat}
    (h : x.significand = n * Nat.pow 2 (-x.exponent).toNat) : x.IsWhole := by
  by_cases hexponent : 0 ≤ x.exponent
  · exact isWhole_of_exponent hexponent
  · unfold IsWhole quotient
    rw [if_neg hexponent, h]
    exact Nat.dvd_mul_left _ _

namespace Binary64

theorem isWhole_of_zero {negative : Bool} {x : Finite} (h : zero negative = finite x) :
    x.IsWhole := by
  obtain rfl := finite.inj h
  exact Finite.isWhole_of_significand (n := 0) (Nat.zero_mul _).symm

/-- **A whole quotient has a whole nearest number.** -/
theorem isWhole_of_ofQuotient {negative : Bool} {n : Nat} {x : Finite}
    (h : ofQuotient negative n 1 = finite x) : x.IsWhole := by
  unfold ofQuotient at h
  split at h
  · exact isWhole_of_zero h
  obtain ⟨-, hparts⟩ := ofParts_eq_finite h
  by_cases hexponent : 0 ≤ exponentOf n 1
  · have hx : 0 ≤ x.exponent := by omega
    exact Finite.isWhole_of_exponent hx
  rw [if_neg hexponent, ← Nat.mul_one (n * _), roundQuotient_mul_right _ _ Nat.one_pos] at hparts
  obtain ⟨hsignificand, heq⟩ | ⟨hsignificand, hx, heq⟩ := hparts
  · exact Finite.isWhole_of_significand (heq ▸ hsignificand)
  -- the significand was rounded up to the next power of two, so that the exponent is one more
  · by_cases hnext : 0 ≤ x.exponent
    · exact Finite.isWhole_of_exponent hnext
    refine Finite.isWhole_of_significand (n := n) ?_
    have hpow : (-exponentOf n 1).toNat = (-x.exponent).toNat + 1 := by omega
    rw [hpow, pow_succ, ← Nat.mul_assoc] at hsignificand
    rw [hx]
    exact (Nat.mul_right_cancel (m := 2) (by decide) hsignificand).symm

end Binary64

/-! ### Exact numbers -/

namespace Binary64

/-- The exponent of a number is the one that is found from its value. -/
theorem exponentOf_quotient {x : Finite} (hx : x.significand ≠ 0) :
    exponentOf x.quotient.1 x.quotient.2 = x.exponent := by
  obtain ⟨hlt, hleast, -, hnormal⟩ := x.canonical
  have hlow : ∀ k, Nat.pow 2 52 ≤ x.significand →
      Nat.pow 2 (52 + k) ≤ x.significand * Nat.pow 2 k := by
    intro k h
    rw [pow_add]
    exact Nat.mul_le_mul_right _ h
  have hhigh : ∀ k, x.significand * Nat.pow 2 k < 2 * Nat.pow 2 (52 + k) := by
    intro k
    rw [pow_add, ← Nat.mul_assoc]
    exact Nat.mul_lt_mul_of_pos_right hlt (pow_pos 2 k (by decide))
  have hpos : ∀ k, x.significand * Nat.pow 2 k ≠ 0 := fun k =>
    Nat.mul_ne_zero hx (Nat.pos_iff_ne_zero.mp (pow_pos 2 k (by decide)))
  unfold Finite.quotient
  by_cases hexponent : 0 ≤ x.exponent
  · rw [if_pos hexponent]
    have h := hnormal.resolve_right (by omega)
    have hleads : Leads (x.significand * Nat.pow 2 x.exponent.toNat) 1 (52 + x.exponent) := by
      refine ⟨52 + x.exponent.toNat, 0, by omega, ?_, ?_⟩
      · rw [Nat.one_mul, show Nat.pow 2 0 = 1 from rfl, Nat.mul_one]
        exact hlow _ h
      · rw [Nat.one_mul, show Nat.pow 2 0 = 1 from rfl, Nat.mul_one]
        exact hhigh _
    rw [exponentOf_of_leads (hpos _) (by decide) hleads]
    omega
  · rw [if_neg hexponent]
    have hd : Nat.pow 2 (-x.exponent).toNat ≠ 0 := Nat.pos_iff_ne_zero.mp (pow_pos 2 _ (by decide))
    obtain ⟨t, hleads, heq⟩ := exists_leads hx hd
    rw [heq]
    rcases hnormal with h | h
    · have hnormal : Leads x.significand (Nat.pow 2 (-x.exponent).toNat) (52 + x.exponent) := by
        refine ⟨52, (-x.exponent).toNat, by omega, ?_, ?_⟩
        · rw [← pow_add, Nat.add_comm]
          exact hlow _ h
        · rw [← pow_add, Nat.add_comm]
          exact hhigh _
      rw [hleads.unique hnormal]
      omega
    · -- below the normal numbers the quotient leads at most to the least exponent
      obtain ⟨a, b, rfl, hquotient, -⟩ := hleads
      have hpow : Nat.pow 2 ((-x.exponent).toNat + a) < Nat.pow 2 (53 + b) := by
        rw [pow_add, pow_add]
        exact Nat.lt_of_le_of_lt hquotient
          (Nat.mul_lt_mul_of_pos_right hlt (pow_pos 2 b (by decide)))
      have hbound := (pow_lt_pow_iff _ _).mp hpow
      omega

/-- **A number is the nearest one to its own value.** -/
theorem ofQuotient_quotient {x : Finite} (hx : x.significand ≠ 0) :
    ofQuotient x.negative x.quotient.1 x.quotient.2 = finite x := by
  have hn : x.quotient.1 ≠ 0 := by
    unfold Finite.quotient
    split
    · exact Nat.mul_ne_zero hx (Nat.pos_iff_ne_zero.mp (pow_pos 2 _ (by decide)))
    · exact hx
  have hround : (if 0 ≤ x.exponent then
      roundQuotient .even x.quotient.1 (x.quotient.2 * Nat.pow 2 x.exponent.toNat)
      else roundQuotient .even (x.quotient.1 * Nat.pow 2 (-x.exponent).toNat) x.quotient.2) =
      x.significand := by
    unfold Finite.quotient
    split
    · rw [Nat.one_mul]
      exact roundQuotient_mul_right _ _ (pow_pos 2 _ (by decide))
    · exact roundQuotient_mul_right _ _ (pow_pos 2 _ (by decide))
  -- at its own exponent the quotient has no rest, and its parts are those of the number
  unfold ofQuotient
  rw [if_neg hn]
  dsimp only
  rw [exponentOf_quotient hx, hround, ofParts, dif_pos x.canonical]

/-! ### Powers of ten -/

/-- A quotient far below the least number is rounded to zero. -/
theorem ofQuotient_of_small (negative : Bool) {n d k : Nat} (hk : 1076 ≤ k) (hd : d ≠ 0)
    (h : n * Nat.pow 2 k ≤ d) : ofQuotient negative n d = zero negative := by
  unfold ofQuotient
  split
  · rfl
  next hn =>
  have hnpos : 0 < n := Nat.pos_of_ne_zero hn
  obtain ⟨t, ⟨a, b, rfl, hquotient, -⟩, heq⟩ := exists_leads hn hd
  have hpow : n * Nat.pow 2 (k + a) < n * Nat.pow 2 (b + 1) := by
    calc n * Nat.pow 2 (k + a) = n * Nat.pow 2 k * Nat.pow 2 a := by rw [pow_add, Nat.mul_assoc]
      _ ≤ d * Nat.pow 2 a := Nat.mul_le_mul_right _ h
      _ ≤ n * Nat.pow 2 b := hquotient
      _ < n * Nat.pow 2 (b + 1) :=
        Nat.mul_lt_mul_of_pos_left ((pow_lt_pow_iff _ _).mpr (Nat.lt_succ_self b)) hnpos
  have hbound := (pow_lt_pow_iff _ _).mp (Nat.lt_of_mul_lt_mul_left hpow)
  have hexponent : exponentOf n d = -1074 := by omega
  -- at the least exponent the quotient is still under one half
  have hround : ∀ j, j + 1 < k → roundQuotient .even (n * Nat.pow 2 j) d = 0 := by
    intro j hj
    apply roundQuotient_of_small
    calc 2 * (n * Nat.pow 2 j) = n * Nat.pow 2 (j + 1) := by rw [pow_succ]; ac_rfl
      _ < n * Nat.pow 2 k := Nat.mul_lt_mul_of_pos_left ((pow_lt_pow_iff _ _).mpr hj) hnpos
      _ ≤ d := h
  dsimp only
  rw [hexponent, if_neg (show ¬(0 : Int) ≤ -1074 by decide), hround _ (by omega)]
  rfl

/-- **A decimal with places is the nearest number to its quotient**: where it is so small that no
power is taken, the quotient is rounded to zero as well. -/
theorem ofDecimal_of_neg (negative : Bool) (digits : Nat) {exponent : Int} (h : exponent < 0) :
    ofDecimal negative digits exponent =
      ofQuotient negative digits (Nat.pow 10 (-exponent).toNat) := by
  unfold ofDecimal
  split
  · next hdigits => rw [hdigits, ofQuotient, if_pos rfl]
  next hdigits =>
  rw [if_neg (by omega)]
  split
  · next hsmall =>
    obtain ⟨-, hlog⟩ := log2_bounds hdigits
    -- ten to the places is so much more than the digits that a large power of two fits between
    obtain ⟨k, hk⟩ : ∃ k, (-exponent).toNat = digits.log2 + 1 + k :=
      ⟨(-exponent).toNat - (digits.log2 + 1), by omega⟩
    refine (ofQuotient_of_small negative (show 1076 ≤ k by omega)
      (Nat.pos_iff_ne_zero.mp (pow_pos 10 _ (by decide))) ?_).symm
    calc digits * Nat.pow 2 k ≤ 2 * Nat.pow 2 digits.log2 * Nat.pow 2 k :=
          Nat.mul_le_mul_right _ (Nat.le_of_lt hlog)
      _ = Nat.pow 2 (-exponent).toNat := by
        rw [hk, pow_add, pow_succ]
        ac_rfl
      _ ≤ Nat.pow 10 (-exponent).toNat := Nat.pow_le_pow_left (by decide) _
  · rw [if_neg (by omega)]

theorem ofDecimal_sign {s : Bool} (negative : Bool) {digits : Nat} {exponent : Int} {x : Finite}
    (h : ofDecimal s digits exponent = finite x) :
    ofDecimal negative digits exponent = finite { x with negative := negative } := by
  have hzero : zero s = finite x → zero negative = finite { x with negative := negative } := by
    intro heq
    obtain rfl := finite.inj heq
    rfl
  unfold ofDecimal at h ⊢
  split at h
  · next hdigits => rw [if_pos hdigits, hzero h]
  next hdigits =>
  rw [if_neg hdigits]
  split at h
  · cases h
  next hlarge =>
  rw [if_neg hlarge]
  split at h
  · next hsmall => rw [if_pos hsmall, hzero h]
  next hsmall =>
  rw [if_neg hsmall]
  split at h
  · next hexponent => rw [if_pos hexponent, ofQuotient_sign negative h]
  · next hexponent => rw [if_neg hexponent, ofQuotient_sign negative h]

/-- A decimal without places is a whole number. -/
theorem isWhole_of_ofDecimal {negative : Bool} {digits : Nat} {exponent : Int} {x : Finite}
    (hexponent : 0 ≤ exponent) (h : ofDecimal negative digits exponent = finite x) : x.IsWhole := by
  unfold ofDecimal at h
  split at h
  · exact isWhole_of_zero h
  split at h
  · cases h
  split at h
  · exact isWhole_of_zero h
  exact isWhole_of_ofQuotient h

end Binary64

end Notebook.Number
