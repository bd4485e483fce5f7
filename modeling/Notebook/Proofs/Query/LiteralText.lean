import Notebook.Proofs.Number.WholeText
import Notebook.Proofs.Query.Branches
import Notebook.Proofs.Query.ExpressionText

/-!
# The text of a literal

A literal is written so that it can be read again. For a text in quotes, a whole number, a truth
value and the null value, what is written is one token and the one that the literal was made from.

A number with a point is told from a whole number by its point alone
(`Notebook.Query.point_mem_of_scan`), and it is written with one only if it has a fraction: `1.0` is
written as `1`, and a number beyond the greatest one as the name `inf`. So
`Notebook.Query.Literal.lexesAs_text_iff` says exactly which literals are read again.
-/

namespace Notebook.Query

open Number

/-! ### A number with a point is scanned from a point -/

theorem point_mem_of_fractionDigits {cs : List Char} (h : fractionDigits cs ≠ []) : '.' ∈ cs := by
  unfold fractionDigits at h
  split at h
  · exact List.mem_cons_self ..
  · exact absurd rfl h

theorem point_mem_of_scanDigits {negative : Bool} {cs : List Char} {x : Binary64}
    (h : (scanDigits negative cs).outcome = .ok (.real x)) : '.' ∈ cs := by
  unfold scanDigits at h
  dsimp only at h
  split at h
  · obtain ⟨n, hn⟩ := wholeToken_isInteger h
    cases hn
  · next hplaces =>
    have hwithin : cs.dropWhile Char.isDigit <:+ cs := List.dropWhile_suffix _
    exact hwithin.mem (point_mem_of_fractionDigits hplaces)

/-- **A number with a point is scanned only where there is a point.** -/
theorem point_mem_of_scan {cs : List Char} {x : Binary64}
    (h : (scan cs).outcome = .ok (.real x)) : '.' ∈ cs := by
  generalize hs : scan cs = s at h
  have hbranch := branch_scan cs
  rw [hs] at hbranch
  cases hbranch with
  | number negative _ => exact List.mem_append_right _ (point_mem_of_scanDigits h)
  | sign heq =>
    obtain rfl := Except.ok.inj h
    obtain ⟨-, -, -, hreal⟩ := symbol?_isSign heq
    exact absurd rfl (hreal x)
  | quoted _ =>
    obtain ⟨s, hs⟩ := scanString_isString h
    cases hs
  | link cs =>
    obtain ⟨_, _, -, hl⟩ := scanLink_isLink h
    cases hl
  | name _ =>
    obtain ⟨b, heq⟩ | heq | ⟨word, heq⟩ | heq := Token.ofName_cases (List.takeWhile continuesName _)
    all_goals cases heq.symm.trans (Except.ok.inj h)
  | _ => cases h

/-- A text that is read as a number with a point has a point. -/
theorem LexesAs.point_mem {text : String} {x : Binary64} (h : LexesAs text (.real x)) :
    '.' ∈ text.toList := by
  obtain ⟨ds, hds, -, hscan⟩ := exists_scan_of_mem (lexesAs_iff.mp h) (List.mem_singleton_self _)
  exact hds.mem (point_mem_of_scan hscan)

/-- Only a number with a fraction is written with a point. -/
theorem exists_fraction_of_point_mem {x : Binary64} (h : '.' ∈ x.text.toList) :
    ∃ number, x = .finite number ∧ ¬number.IsWhole := by
  rcases x with _ | negative | number
  · exact absurd h (by decide)
  · cases negative <;> exact absurd h (by decide)
  · refine ⟨number, rfl, fun hwhole => ?_⟩
    obtain ⟨digits, htext, -, hdigits⟩ := Finite.exists_text_of_isWhole hwhole
    rw [htext, List.mem_append] at h
    rcases h with h | h
    · split at h <;> simp at h
    · exact absurd (hdigits _ h) (by decide)

/-! ### Reading a literal again -/

/-- **The text of a literal is read as its token**, and as nothing else, exactly when the literal is
no number with a point that is written without one. -/
theorem Literal.lexesAs_text_iff (value : Literal) : LexesAs value.text value.token ↔
    ∀ x, value = .real x → ∃ number, x = .finite number ∧ ¬number.IsWhole := by
  constructor
  · rintro h x rfl
    exact exists_fraction_of_point_mem h.point_mem
  · intro h
    have hlegible : (Expression.literal value).IsLegible := by
      rcases value with _ | _ | x | _ | _
      · trivial
      · trivial
      · exact h x rfl
      · trivial
      · trivial
    exact lexesAs_iff.mpr (Expression.readAs_literal hlegible).tokensOf

/-- One, as a number with a point. -/
def Literal.one : Literal := .real (.ofDecimal false 10 (-1))

/-- The number is read from `1.0` but written as `1`, which is not read as the number. -/
theorem Literal.not_lexesAs_text_of_one : LexesAs "1.0" Literal.one.token ∧
    Literal.one.text = "1" ∧ LexesAs "1" (.integer 1) ∧
      ¬LexesAs Literal.one.text Literal.one.token := by
  have htext : Literal.one.text = "1" := by decide +kernel
  have hreal : LexesAs "1.0" Literal.one.token := by
    rw [lexesAs_iff]
    exact (@readAs_fraction false ['1'] ['0'] (by simp) (by simp) (by simp)).tokensOf
  have hinteger : LexesAs "1" (.integer 1) := lexesAs_iff.mpr (readAs_integer 1).tokensOf
  refine ⟨hreal, htext, hinteger, fun h => ?_⟩
  rw [htext] at h
  exact absurd h.point_mem (by decide)

end Notebook.Query
