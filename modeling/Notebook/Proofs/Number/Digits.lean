import Notebook.Number.Digits
import Notebook.Unicode.WhiteSpace

/-!
# Digits and the number they spell

Writing a natural number and reading the digits gives the number back, also with zeros in front.
What is written is made of digits, at least one of them, and at least as many as asked for; as many
as asked for, where the number has no more (`Notebook.Number.length_padded`).
-/

namespace Notebook.Number

/-! ### The class of digits -/

theorem toNat_of_isDigit {c : Char} (h : c.isDigit = true) : 48 ≤ c.toNat ∧ c.toNat ≤ 57 := by
  simpa [Char.isDigit, UInt32.le_iff_toNat_le] using h

theorem isWhiteSpace_of_isDigit {c : Char} (h : c.isDigit = true) :
    Unicode.isWhiteSpace c = false := by
  have hbounds := toNat_of_isDigit h
  simp only [Unicode.isWhiteSpace, Unicode.Ranges.contains, Unicode.whiteSpace, List.any_cons,
    List.any_nil, ← Bool.not_eq_true, Bool.or_eq_true, Bool.and_eq_true, Nat.ble_eq,
    Bool.false_eq_true, or_false]
  omega

/-! ### Digits that are written -/

theorem toList_digitsOf (n : Nat) : (digitsOf n).toList = Nat.toDigits 10 n := Nat.toList_repr

theorem isDigit_of_mem_digitsOf {n : Nat} {c : Char} (h : c ∈ (digitsOf n).toList) :
    c.isDigit = true :=
  Nat.isDigit_of_mem_toDigits (by decide) (by decide) (toList_digitsOf n ▸ h)

theorem toList_digitsOf_ne_nil (n : Nat) : (digitsOf n).toList ≠ [] := by
  rw [toList_digitsOf]
  exact Nat.toDigits_ne_nil

theorem wholeOf_eq_ofDigitChars (ds : List Char) : wholeOf ds = Nat.ofDigitChars 10 ds 0 := by
  simp only [wholeOf, Nat.ofDigitChars, digitValue, Nat.mul_comm]

/-- **Digits that were written are read** as the number they were written for. -/
@[simp] theorem wholeOf_digitsOf (n : Nat) : wholeOf (digitsOf n).toList = n := by
  rw [wholeOf_eq_ofDigitChars, toList_digitsOf]
  exact Nat.ofDigitChars_ten_toDigits

/-! ### Zeros in front -/

@[simp] theorem toList_zeros (n : Nat) : (zeros n).toList = List.replicate n '0' := by simp [zeros]

theorem toList_padded (width n : Nat) : (padded width n).toList =
    List.replicate (width - (digitsOf n).toList.length) '0' ++ (digitsOf n).toList := by
  simp [padded, String.length_toList]

theorem wholeOf_zeros_append (k : Nat) (ds : List Char) :
    wholeOf (List.replicate k '0' ++ ds) = wholeOf ds := by
  induction k with
  | zero => rfl
  | succ k ih => exact ih

@[simp] theorem wholeOf_padded (width n : Nat) : wholeOf (padded width n).toList = n := by
  rw [toList_padded, wholeOf_zeros_append, wholeOf_digitsOf]

theorem isDigit_of_mem_padded {width n : Nat} {c : Char} (h : c ∈ (padded width n).toList) :
    c.isDigit = true := by
  rw [toList_padded, List.mem_append] at h
  rcases h with h | h
  · rw [List.eq_of_mem_replicate h]
    rfl
  · exact isDigit_of_mem_digitsOf h

theorem le_length_padded (width n : Nat) : width ≤ (padded width n).toList.length := by
  rw [toList_padded, List.length_append, List.length_replicate]
  omega

/-- **A number that is not too great is written in exactly the digits** that are asked for. -/
theorem length_padded {width n : Nat} (hwidth : 0 < width) (h : n < Nat.pow 10 width) :
    (padded width n).toList.length = width := by
  have hle : (digitsOf n).toList.length ≤ width := by
    rw [toList_digitsOf]
    exact (Nat.length_toDigits_le_iff (by decide) hwidth).mpr h
  rw [toList_padded, List.length_append, List.length_replicate]
  omega

theorem head?_padded_any {p : Char → Bool} {width n : Nat} (hwidth : 0 < width)
    (h : ∀ c : Char, c.isDigit = true → p c = false) (rest : List Char) :
    ((padded width n).toList ++ rest).head?.any p = false := by
  cases hdigits : (padded width n).toList with
  | nil =>
    have hle := le_length_padded width n
    rw [hdigits] at hle
    exact absurd hle (Nat.not_le.mpr hwidth)
  | cons c cs => exact h c (isDigit_of_mem_padded (hdigits ▸ List.mem_cons_self ..))

end Notebook.Number
