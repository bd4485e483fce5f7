import Mathlib.Algebra.GroupWithZero.Nat
import Mathlib.Data.List.Basic
import Notebook.Unicode.Case
import Notebook.Unicode.WhiteSpace

/-!
# Lower case

No character is lost when a text is written in lower case: the image of a character has a character
at least, whatever is around it. So a text is longer in lower case than each text that it goes on
from (`Notebook.Unicode.length_lowercase_lt`), and two texts of which one goes on from the other are
told apart without regard to case.

The lower case of the first 128 characters changes letters into letters and nothing else: characters
that agree without regard to case are the same, or letters both of them
(`Notebook.Unicode.isAlpha_of_toLower`).
-/

namespace Notebook.Unicode

/-! ### Length -/

theorem mapCase_ne_nil {expansions : List (Nat × List Nat)}
    (h : ∀ entry ∈ expansions, entry.2 ≠ []) (runs : List CaseRun) (c : Char) :
    mapCase expansions runs c ≠ [] := by
  rw [mapCase]
  split
  · next codes hcodes =>
    obtain ⟨before, after, rfl, -⟩ := List.lookup_eq_some_iff.mp hcodes
    exact mt List.map_eq_nil_iff.mp (h _ (List.mem_append_right _ (List.mem_cons_self ..)))
  · split <;> exact List.cons_ne_nil _ _

theorem lowercaseChar_ne_nil (c : Char) : lowercaseChar c ≠ [] := by
  rw [lowercaseChar]
  split
  · exact List.cons_ne_nil _ _
  · exact mapCase_ne_nil (by decide) lowercaseRuns c

/-- The length of a text in lower case depends on its characters one by one. -/
theorem length_lowercaseAfter (before s : List Char) :
    (lowercaseAfter before s).length = (s.map fun c => (lowercaseChar c).length).sum := by
  induction s generalizing before with
  | nil => rfl
  | cons c s ih =>
    have hsigma : (lowercaseChar 'Σ').length = 1 := by decide
    rw [lowercaseAfter, List.length_append, ih, List.map_cons, List.sum_cons]
    split
    · next hc => rw [hc, hsigma, List.length_singleton]
    · rfl

theorem length_lowercase_append (s t : List Char) :
    (lowercase (s ++ t)).length = (lowercase s).length + (lowercase t).length := by
  simp only [lowercase, length_lowercaseAfter, List.map_append, List.sum_append]

theorem lowercase_ne_nil {s : List Char} (h : s ≠ []) : lowercase s ≠ [] := by
  obtain ⟨c, s, rfl⟩ := List.exists_cons_of_ne_nil h
  have hc := List.length_pos_iff.mpr (lowercaseChar_ne_nil c)
  rw [← List.length_pos_iff, lowercase, length_lowercaseAfter, List.map_cons, List.sum_cons]
  omega

/-- **A text that goes on is longer**, also in lower case. -/
theorem length_lowercase_lt {s t : List Char} (h : s <+: t) (hne : s ≠ t) :
    (lowercase s).length < (lowercase t).length := by
  obtain ⟨rest, rfl⟩ := h
  have hrest : rest ≠ [] := by
    rintro rfl
    exact hne (List.append_nil s).symm
  have hpos := List.length_pos_iff.mpr (lowercase_ne_nil hrest)
  rw [length_lowercase_append]
  omega

/-! ### The two cases of a letter -/

theorem isAlpha_iff {c : Char} : c.isAlpha = true ↔
    65 ≤ c.toNat ∧ c.toNat ≤ 90 ∨ 97 ≤ c.toNat ∧ c.toNat ≤ 122 := by
  change (decide (c.val ≥ 65 ∧ c.val ≤ 90) ||
    (decide (c.val ≥ 97) && decide (c.val ≤ 122))) = true ↔ _
  simp only [ge_iff_le, UInt32.le_iff_toNat_le, Bool.or_eq_true, Bool.and_eq_true,
    decide_eq_true_eq, UInt32.reduceToNat, Char.toNat]

theorem isDigit_of_isAlpha {c : Char} (h : c.isAlpha = true) : c.isDigit = false := by
  rw [isAlpha_iff] at h
  rw [← Bool.not_eq_true, Char.isDigit_iff_toNat, show '9'.toNat = 57 from rfl]
  omega

/-- A character that is written small in another one is a capital letter, and the other one is a
small letter. -/
theorem toNat_of_toLower_ne {c : Char} (h : c.toLower ≠ c) :
    (65 ≤ c.toNat ∧ c.toNat ≤ 90) ∧ 97 ≤ c.toLower.toNat ∧ c.toLower.toNat ≤ 122 := by
  change (if h : c.val ≥ 65 ∧ c.val ≤ 90 then _ else c) ≠ c at h
  split at h
  · next hc =>
    rw [show c.toLower = _ from dif_pos hc]
    simp only [ge_iff_le, UInt32.le_iff_toNat_le, Char.toNat, UInt32.toNat_add] at hc ⊢
    grind
  · exact absurd rfl h

theorem isAlpha_of_toLower_ne {c : Char} (h : c.toLower ≠ c) :
    c.isAlpha = true ∧ c.toLower.isAlpha = true :=
  have hbounds := toNat_of_toLower_ne h
  ⟨isAlpha_iff.mpr (.inl hbounds.1), isAlpha_iff.mpr (.inr hbounds.2)⟩

theorem isAlpha_of_isAlpha_toLower {c : Char} (h : c.toLower.isAlpha = true) :
    c.isAlpha = true := by
  by_cases hc : c.toLower = c
  · rwa [hc] at h
  · exact (isAlpha_of_toLower_ne hc).1

/-- Characters of the same lower case are the same or letters. -/
theorem isAlpha_of_toLower {c d : Char} (h : c.toLower = d.toLower) :
    c = d ∨ c.isAlpha = true ∧ d.isAlpha = true := by
  by_cases hc : c.toLower = c
  · by_cases hd : d.toLower = d
    · exact .inl (hc.symm.trans (h.trans hd))
    · obtain ⟨hd, hlower⟩ := isAlpha_of_toLower_ne hd
      rw [← h, hc] at hlower
      exact .inr ⟨hlower, hd⟩
  · obtain ⟨hc, hlower⟩ := isAlpha_of_toLower_ne hc
    refine .inr ⟨hc, ?_⟩
    by_cases hd : d.toLower = d
    · rwa [h, hd] at hlower
    · exact (isAlpha_of_toLower_ne hd).1

/-- A table without a letter in its ranges holds none. -/
theorem not_contains_of_isAlpha {table : Ranges} (htable : ∀ range ∈ table,
    range.2 < 65 ∨ 90 < range.1 ∧ range.2 < 97 ∨ 122 < range.1) {c : Char}
    (h : c.isAlpha = true) : table.contains c = false := by
  rw [isAlpha_iff] at h
  rw [Ranges.contains, List.any_eq_false]
  intro range hrange
  have hrange := htable range hrange
  simp only [Bool.and_eq_true, Nat.ble_eq]
  omega

theorem not_isWhiteSpace_of_isAlpha {c : Char} (h : c.isAlpha = true) : isWhiteSpace c = false :=
  not_contains_of_isAlpha (by decide) h

/-- A class that holds all letters does not tell cases apart. -/
theorem class_congr {p : Char → Bool} (hp : ∀ c : Char, c.isAlpha = true → p c = true) {c d : Char}
    (h : c.toLower = d.toLower) : p c = p d := by
  rcases isAlpha_of_toLower h with rfl | ⟨hc, hd⟩
  · rfl
  · rw [hp c hc, hp d hd]

theorem all_congr {p : Char → Bool} (hp : ∀ c : Char, c.isAlpha = true → p c = true)
    {cs ds : List Char} (h : asciiLowercase cs = asciiLowercase ds) : cs.all p = ds.all p := by
  induction cs generalizing ds with
  | nil =>
    obtain rfl := List.map_eq_nil_iff.mp h.symm
    rfl
  | cons c cs ih =>
    obtain ⟨d, ds, rfl, hc, hcs⟩ := List.map_eq_cons_iff.mp h.symm
    rw [List.all_cons, List.all_cons, class_congr hp hc, ih hcs.symm]

end Notebook.Unicode
