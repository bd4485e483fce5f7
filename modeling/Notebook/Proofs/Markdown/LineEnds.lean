import Mathlib.Data.List.Basic
import Notebook.Markdown.CodeSpan
import Notebook.Markdown.Fence
import Notebook.Proofs.Text.Lines
import Notebook.Proofs.Text.Trim

/-!
# White space at the end of a line

White space at the end of a line has no part in what the line is: not in whether it is a fence
(`Notebook.Markdown.fence?_trimEnd`), and not in the code spans on it
(`Notebook.Markdown.codeSpans_trimEnd`). So nothing is lost with the end of a text that is trimmed,
nor with a carriage return that belongs to the end of its line.
-/

namespace Notebook.Markdown

open Text

variable {line blanks : List Char}

/-- The longest run of a class does not reach into a text without the class. -/
theorem takeWhile_append_of_forall {p : Char → Bool} {t : List Char} (ht : ∀ c ∈ t, p c = false)
    (s : List Char) : (s ++ t).takeWhile p = s.takeWhile p := by
  rw [List.takeWhile_append]
  split
  · next hlength =>
    have htake : t.takeWhile p = [] := by
      rcases t with _ | ⟨c, t⟩
      · rfl
      · rw [List.takeWhile_cons, if_neg (by simp [ht c (List.mem_cons_self ..)])]
    rw [htake, List.append_nil, List.IsPrefix.eq_of_length (List.takeWhile_prefix p) hlength]
  · rfl

/-! ### Fences -/

theorem fence?_of_isBlank (h : isBlank line = true) : fence? line = none := by
  rw [fence?]
  dsimp only
  split
  · rfl
  · next mark rest hdrop =>
    have hmem : mark ∈ line := (List.drop_suffix _ line).mem (hdrop ▸ List.mem_cons_self ..)
    have hmark : Unicode.isWhiteSpace mark = true := isBlank_iff.mp h mark hmem
    refine if_neg fun hfence => ?_
    rcases hfence.2.1 with rfl | rfl <;> exact absurd hmark (by decide)

/-- The indent of a line with something in it does not reach to the end of the line. -/
theorem length_indent_lt (h : isBlank line = false) :
    (line.takeWhile (· == ' ')).length < line.length := by
  refine Nat.lt_of_le_of_ne (List.takeWhile_prefix _).length_le fun hlength => ?_
  have hall : line.all (· == ' ') = true := by
    have hsame := (List.takeWhile_prefix (· == ' ')).eq_of_length hlength
    rw [← hsame]
    exact List.all_takeWhile
  refine absurd (isBlank_iff.mpr fun c hc => ?_) (Bool.eq_false_iff.mp h)
  rw [beq_iff_eq.mp (List.all_eq_true.mp hall c hc)]
  decide

/-- White space after a line does not make it a fence, nor another one. -/
theorem fence?_append_of_isBlank (h : isBlank blanks = true) :
    fence? (line ++ blanks) = fence? line := by
  cases hline : isBlank line with
  | true =>
    rw [fence?_of_isBlank hline,
      fence?_of_isBlank (by rw [isBlank_append, hline, h, Bool.and_self])]
  | false =>
    have hlt := length_indent_lt hline
    have hindent : (line ++ blanks).takeWhile (· == ' ') = line.takeWhile (· == ' ') := by
      rw [List.takeWhile_append, if_neg (Nat.ne_of_lt hlt)]
    obtain ⟨mark, rest, hrest⟩ := List.exists_cons_of_ne_nil
      (fun hnil => Nat.not_le.mpr hlt (List.drop_eq_nil_iff.mp hnil))
    rw [fence?, fence?, hindent, List.drop_append_of_le_length (Nat.le_of_lt hlt), hrest]
    by_cases hmark : mark = '`' ∨ mark = '~'
    · have hnot : ∀ c ∈ blanks, (c == mark) = false := by
        intro c hc
        have hblank := isBlank_iff.mp h c hc
        rw [beq_eq_false_iff_ne]
        rcases hmark with rfl | rfl <;> (rintro rfl; revert hblank; decide)
      have hrun := takeWhile_append_of_forall hnot (mark :: rest)
      have hle : ((mark :: rest).takeWhile (· == mark)).length ≤ (mark :: rest).length :=
        (List.takeWhile_prefix _).length_le
      dsimp only [List.cons_append] at hrun ⊢
      rw [hrun, ← List.cons_append, List.drop_append_of_le_length hle, trim_append_of_isBlank h]
    · simp [hmark]

theorem fence?_trimEnd (line : List Char) : fence? (trimEnd line) = fence? line := by
  obtain ⟨blanks, hblanks, hline⟩ := exists_trimEnd_append line
  calc fence? (trimEnd line) = fence? (trimEnd line ++ blanks) :=
        (fence?_append_of_isBlank hblanks).symm
    _ = fence? line := by rw [← hline]

theorem fence?_congr {other : List Char} (h : trimEnd line = trimEnd other) :
    fence? line = fence? other := by
  rw [← fence?_trimEnd, h, fence?_trimEnd]

namespace Fence

theorem closedBy_of_isBlank (h : isBlank line = true) (fence : Fence) :
    fence.closedBy line = false := by
  rw [closedBy, fence?_of_isBlank h]

/-- White space at the end of a line has no part in whether the line closes a region. -/
theorem closedBy_congr {other : List Char} (h : trimEnd line = trimEnd other) (fence : Fence) :
    fence.closedBy line = fence.closedBy other := by
  rw [closedBy, fence?_congr h, closedBy]

theorem closedBy_dropCarriageReturn (fence : Fence) (line : List Char) :
    fence.closedBy (dropCarriageReturn line) = fence.closedBy line :=
  closedBy_congr (trimEnd_dropCarriageReturn line) fence

end Fence

/-! ### Code spans -/

theorem backticks_append (h : '`' ∉ blanks) (cs : List Char) :
    backticks (cs ++ blanks) = backticks cs := by
  have hnot : ∀ c ∈ blanks, (c == '`') = false := by
    intro c hc
    rw [beq_eq_false_iff_ne]
    rintro rfl
    exact h hc
  rw [backticks, takeWhile_append_of_forall hnot, backticks]

theorem closeSpan?_of_not_mem (run : Nat) (h : '`' ∉ blanks) : closeSpan? run blanks = none := by
  induction blanks with
  | nil => rw [closeSpan?]
  | cons c cs ih =>
    obtain ⟨hc, hcs⟩ := not_or.mp (List.mem_cons.not.mp h)
    rw [closeSpan?, if_neg (Ne.symm hc), ih hcs, Option.map_none]

/-- What is left after a run of backticks. -/
def afterRun (rest : List Char) : List Char := rest.drop (backticks ('`' :: rest) - 1)

theorem afterRun_append (h : '`' ∉ blanks) (rest : List Char) :
    afterRun (rest ++ blanks) = afterRun rest ++ blanks := by
  have hle : backticks ('`' :: rest) ≤ rest.length + 1 := (List.takeWhile_prefix _).length_le
  rw [afterRun, ← List.cons_append, backticks_append h,
    List.drop_append_of_le_length (Nat.sub_le_of_le_add hle), afterRun]

/-- Characters that are no backticks close no span, and are left after the span that is closed
before them. -/
theorem closeSpan?_append (run : Nat) (h : '`' ∉ blanks) (cs : List Char) :
    closeSpan? run (cs ++ blanks) =
      (closeSpan? run cs).map fun (content, after) => (content, after ++ blanks) := by
  fun_induction closeSpan? run cs with
  | case1 => exact closeSpan?_of_not_mem run h
  | case2 rest found after hfound =>
    have hrun : backticks ('`' :: (rest ++ blanks)) = run :=
      (backticks_append h ('`' :: rest)).trans hfound
    rw [List.cons_append, closeSpan?, if_pos rfl, if_pos hrun]
    exact congrArg (fun after => some ([], after)) (afterRun_append h rest)
  | case3 rest found after hfound ih =>
    have hrun : backticks ('`' :: (rest ++ blanks)) = found := backticks_append h ('`' :: rest)
    have hafter : (rest ++ blanks).drop (found - 1) = after ++ blanks := by
      rw [← hrun]
      exact afterRun_append h rest
    rw [List.cons_append, closeSpan?, if_pos rfl, hrun, if_neg hfound, hafter, ih]
    simp [Function.comp_def]
  | case4 c rest hc ih =>
    rw [List.cons_append, closeSpan?, if_neg hc, ih]
    simp [Function.comp_def]

theorem codeSpans_of_closed {rest content after : List Char}
    (h : closeSpan? (backticks ('`' :: rest)) (afterRun rest) = some (content, after)) :
    codeSpans ('`' :: rest) = content :: codeSpans after := by
  rw [codeSpans, if_pos rfl]
  dsimp only
  split
  · next heq =>
    cases h.symm.trans heq
    rfl
  · next heq => cases h.symm.trans heq

theorem codeSpans_of_unclosed {rest : List Char}
    (h : closeSpan? (backticks ('`' :: rest)) (afterRun rest) = none) :
    codeSpans ('`' :: rest) = [] := by
  rw [codeSpans, if_pos rfl]
  dsimp only
  split
  · next heq => cases h.symm.trans heq
  · rfl

theorem codeSpans_of_not_mem (h : '`' ∉ blanks) : codeSpans blanks = [] := by
  induction blanks with
  | nil => rw [codeSpans]
  | cons c cs ih =>
    obtain ⟨hc, hcs⟩ := not_or.mp (List.mem_cons.not.mp h)
    rw [codeSpans, if_neg (Ne.symm hc), ih hcs]

/-- Characters that are no backticks are in no span when they end a line. -/
theorem codeSpans_append (h : '`' ∉ blanks) (cs : List Char) :
    codeSpans (cs ++ blanks) = codeSpans cs := by
  fun_induction codeSpans cs with
  | case1 => exact codeSpans_of_not_mem h
  | case2 rest content after run hclose ih =>
    have hrun : backticks ('`' :: (rest ++ blanks)) = run := backticks_append h ('`' :: rest)
    have hclosed : closeSpan? (backticks ('`' :: (rest ++ blanks))) (afterRun (rest ++ blanks)) =
        some (content, after ++ blanks) := by
      rw [hrun, afterRun_append h, closeSpan?_append run h, afterRun, hclose, Option.map_some]
    rw [List.cons_append, codeSpans_of_closed hclosed, ih]
  | case3 rest run hclose =>
    have hrun : backticks ('`' :: (rest ++ blanks)) = run := backticks_append h ('`' :: rest)
    have hunclosed : closeSpan? (backticks ('`' :: (rest ++ blanks))) (afterRun (rest ++ blanks)) =
        none := by
      rw [hrun, afterRun_append h, closeSpan?_append run h, afterRun, hclose, Option.map_none]
    exact codeSpans_of_unclosed hunclosed
  | case4 c rest hc ih => rw [List.cons_append, codeSpans, if_neg hc, ih]

theorem codeSpans_trimEnd (line : List Char) : codeSpans (trimEnd line) = codeSpans line := by
  obtain ⟨blanks, hblanks, hline⟩ := exists_trimEnd_append line
  have hnot : '`' ∉ blanks := fun hmem =>
    absurd (isBlank_iff.mp hblanks '`' hmem) (by decide)
  calc codeSpans (trimEnd line) = codeSpans (trimEnd line ++ blanks) :=
        (codeSpans_append hnot _).symm
    _ = codeSpans line := by rw [← hline]

end Notebook.Markdown
