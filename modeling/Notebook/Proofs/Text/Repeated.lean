import Mathlib.Data.List.Infix
import Notebook.Text.Split

/-!
# Copies of a mark

Taking copies of a mark off the start of a text leaves an end of the text that does not start with
the mark (`Notebook.Text.not_isPrefix_dropRepeated`), and changes nothing when there is no copy to
take off.
-/

namespace Notebook.Text

variable {mark s : List Char}

theorem isSuffix_dropRepeated (mark s : List Char) : dropRepeated mark s <:+ s := by
  fun_induction dropRepeated mark s with
  | case1 s rest hrest _ ih =>
    obtain rfl := List.append_eq_of_isPrefixOf?_eq_some hrest
    exact ih.trans (List.suffix_append mark rest)
  | case2 => exact List.suffix_rfl
  | case3 => exact List.suffix_rfl

theorem dropRepeated_of_not_isPrefix (h : ¬mark <+: s) : dropRepeated mark s = s := by
  have hnone : mark.isPrefixOf? s = none := Option.eq_none_iff_forall_ne_some.mpr fun rest hrest =>
    h ⟨rest, List.append_eq_of_isPrefixOf?_eq_some hrest⟩
  rw [dropRepeated, hnone]

/-- **What is left does not start with the mark.** -/
theorem not_isPrefix_dropRepeated (hmark : mark ≠ []) (s : List Char) :
    ¬mark <+: dropRepeated mark s := by
  fun_induction dropRepeated mark s with
  | case1 s rest hrest hlt ih => exact ih
  | case2 s rest hrest hlt =>
    obtain rfl := List.append_eq_of_isPrefixOf?_eq_some hrest
    have hpos := List.length_pos_iff.mpr hmark
    rw [List.length_append] at hlt
    omega
  | case3 s hnone =>
    rintro ⟨rest, rfl⟩
    rw [List.isPrefixOf?_eq_some_iff_append_eq.mpr rfl] at hnone
    cases hnone

theorem dropRepeated_eq_self_iff (hmark : mark ≠ []) : dropRepeated mark s = s ↔ ¬mark <+: s :=
  ⟨fun h => h ▸ not_isPrefix_dropRepeated hmark s, dropRepeated_of_not_isPrefix⟩

/-! ### At the end -/

theorem isPrefix_dropEndRepeated (mark s : List Char) : dropEndRepeated mark s <+: s := by
  have h := List.reverse_prefix.mpr (isSuffix_dropRepeated mark.reverse s.reverse)
  rwa [List.reverse_reverse] at h

/-- What is taken off the start is made of characters of the mark. -/
theorem exists_append_dropRepeated (mark s : List Char) :
    ∃ copies, s = copies ++ dropRepeated mark s ∧ ∀ c ∈ copies, c ∈ mark := by
  fun_induction dropRepeated mark s with
  | case1 s rest hrest _ ih =>
    obtain rfl := List.append_eq_of_isPrefixOf?_eq_some hrest
    obtain ⟨copies, hcopies, hmem⟩ := ih
    refine ⟨mark ++ copies, by rw [List.append_assoc, ← hcopies], fun c hc => ?_⟩
    exact (List.mem_append.mp hc).elim id (hmem c)
  | case2 s => exact ⟨[], rfl, nofun⟩
  | case3 s => exact ⟨[], rfl, nofun⟩

/-- **Other characters are not taken off.** -/
theorem mem_dropEndRepeated_iff {c : Char} (hc : c ∉ mark) :
    c ∈ dropEndRepeated mark s ↔ c ∈ s := by
  refine ⟨fun h => (isPrefix_dropEndRepeated mark s).mem h, fun h => ?_⟩
  obtain ⟨copies, hs, hcopies⟩ := exists_append_dropRepeated mark.reverse s.reverse
  rw [← List.mem_reverse, hs, List.mem_append] at h
  rw [dropEndRepeated, List.mem_reverse]
  exact h.resolve_left fun hmem => hc (List.mem_reverse.mp (hcopies c hmem))

end Notebook.Text
