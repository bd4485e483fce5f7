import Mathlib.Data.List.ModifyLast
import Notebook.Proofs.Text.Lines

/-!
# Texts that are written line by line

Lines are written one after another, each with a line feed at its end, and then the white space at
the end of the text is taken off (`Notebook.Text.trimEnd_written`). Cutting such a text at its line
feeds gives the lines back, the last one without the white space at its end
(`Notebook.Text.splitWhere_trimEnd_written`), unless there are line feeds in the lines themselves:
then there are more parts than lines (`Notebook.Text.length_splitWhere_trimEnd_written_iff`).
-/

namespace Notebook.Text

/-- **Lines that are written** one after another. -/
def written (ls : List (List Char)) : List Char := ls.flatMap (· ++ ['\n'])

variable {ls : List (List Char)} {last : List Char}

@[simp] theorem written_cons (line : List Char) (ls : List (List Char)) :
    written (line :: ls) = line ++ '\n' :: written ls := by
  rw [written, List.flatMap_cons, List.append_assoc, List.singleton_append, written]

theorem written_concat (ls : List (List Char)) (last : List Char) :
    written (ls ++ [last]) = written ls ++ (last ++ ['\n']) := by
  rw [written, List.flatMap_append, List.flatMap_singleton, written]

/-! ### Cutting at line feeds -/

/-- A text has one part more than it has separators. -/
theorem length_splitWhere (p : Char → Bool) (s : List Char) :
    (splitWhere p s).length = s.countP p + 1 := by
  induction s with
  | nil => rfl
  | cons c s ih =>
    obtain ⟨part, parts, hparts⟩ := List.exists_cons_of_ne_nil (splitWhere_ne_nil p s)
    rw [hparts] at ih
    rw [splitWhere_cons hparts, List.countP_cons]
    split
    · rw [List.length_cons, ih]
    · rw [List.length_cons] at ih ⊢
      omega

theorem splitWhere_written_append (h : ∀ line ∈ ls, '\n' ∉ line) (s : List Char) :
    splitWhere (· == '\n') (written ls ++ s) = ls ++ splitWhere (· == '\n') s := by
  induction ls with
  | nil => rfl
  | cons line ls ih =>
    obtain ⟨hline, hls⟩ := List.forall_mem_cons.mp h
    rw [written_cons, List.append_assoc, List.cons_append,
      splitWhere_append (not_lineFeed_of_not_mem hline) (by decide), ih hls, List.cons_append]

/-- There are at least as many line feeds as lines. -/
theorem length_le_count_written (ls : List (List Char)) :
    ls.length ≤ (written ls).count '\n' := by
  induction ls with
  | nil => exact Nat.le_refl _
  | cons line ls ih =>
    rw [written_cons, List.count_append, List.count_cons_self, List.length_cons]
    omega

/-- There are as many only if none is in a line. -/
theorem count_written_eq_iff :
    (written ls).count '\n' = ls.length ↔ ∀ line ∈ ls, '\n' ∉ line := by
  induction ls with
  | nil => exact iff_of_true rfl (List.forall_mem_nil _)
  | cons line ls ih =>
    have hle := length_le_count_written ls
    rw [written_cons, List.count_append, List.count_cons_self, List.length_cons,
      List.forall_mem_cons, ← List.count_eq_zero]
    constructor
    · intro h
      exact ⟨by omega, ih.mp (by omega)⟩
    · rintro ⟨hline, hls⟩
      rw [hline, ih.mpr hls, Nat.zero_add]

/-! ### Without the white space at the end -/

/-- The white space at the end of the text is that at the end of the last line. -/
theorem trimEnd_written (ls : List (List Char)) (hlast : isBlank last = false) :
    trimEnd (written (ls ++ [last])) = written ls ++ trimEnd last := by
  have hfeed : isBlank (last ++ ['\n']) = false := by rw [isBlank_append, hlast, Bool.false_and]
  rw [written_concat, trimEnd_append_of_not_isBlank hfeed, trimEnd_append_of_isBlank (by decide)]

theorem modifyLast_eq_self {f : List Char → List Char} (h : ∀ line ∈ ls, f line = line) :
    ls.modifyLast f = ls := by
  rcases List.eq_nil_or_concat' ls with rfl | ⟨others, last, rfl⟩
  · rfl
  · rw [List.modifyLast_concat, h last (List.mem_concat_self ..)]

/-- **The parts of the text are the lines**, the last one without the white space at its end. -/
theorem splitWhere_trimEnd_written (hsome : ls ≠ []) (hblank : ∀ line ∈ ls, isBlank line = false)
    (h : ∀ line ∈ ls, '\n' ∉ line) :
    splitWhere (· == '\n') (trimEnd (written ls)) = ls.modifyLast trimEnd := by
  obtain ⟨others, last, rfl⟩ := (List.eq_nil_or_concat' ls).resolve_left hsome
  obtain ⟨hothers, hlast⟩ := List.forall_mem_append.mp h
  have hend : '\n' ∉ trimEnd last :=
    fun hmem => hlast last (List.mem_singleton_self last) ((isPrefix_dropEndWhile _ _).mem hmem)
  rw [trimEnd_written others (hblank last (List.mem_concat_self ..)),
    splitWhere_written_append hothers, splitWhere_of_forall (not_lineFeed_of_not_mem hend),
    List.modifyLast_concat]

/-- **There are as many parts as lines** if and only if no line feed is in a line, where no line has
line feeds only in the white space at its end. -/
theorem length_splitWhere_trimEnd_written_iff (hsome : ls ≠ [])
    (hblank : ∀ line ∈ ls, isBlank line = false)
    (hkept : ∀ line ∈ ls, '\n' ∈ line → '\n' ∈ trimEnd line) :
    (splitWhere (· == '\n') (trimEnd (written ls))).length = ls.length ↔
      ∀ line ∈ ls, '\n' ∉ line := by
  obtain ⟨others, last, rfl⟩ := (List.eq_nil_or_concat' ls).resolve_left hsome
  have hmem : last ∈ others ++ [last] := List.mem_concat_self ..
  have hlast : '\n' ∉ last ↔ '\n' ∉ trimEnd last :=
    not_congr ⟨hkept last hmem, (isPrefix_dropEndWhile _ _).mem⟩
  have hle := length_le_count_written others
  rw [trimEnd_written others (hblank last hmem), length_splitWhere, ← List.count, List.count_append,
    List.length_append, List.length_singleton, List.forall_mem_append, List.forall_mem_singleton,
    hlast, ← count_written_eq_iff, ← List.count_eq_zero]
  omega

end Notebook.Text
