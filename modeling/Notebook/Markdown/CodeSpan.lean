/-!
# Code spans

A code span on a line opens with a run of backticks and closes at the next run of the same length.
The first run that nothing closes ends the search: no span is found after it on the line.
-/

namespace Notebook.Markdown

/-- How many backticks a text starts with. -/
def backticks (cs : List Char) : Nat := (cs.takeWhile (· == '`')).length

/-- The text before the next run of exactly `run` backticks, and the text after that run. -/
def closeSpan? (run : Nat) (cs : List Char) : Option (List Char × List Char) :=
  match cs with
  | [] => none
  | c :: rest =>
    if c = '`' then
      let found := backticks (c :: rest)
      let after := rest.drop (found - 1)
      if found = run then some ([], after)
      else (closeSpan? run after).map fun (content, after) =>
        (List.replicate found '`' ++ content, after)
    else (closeSpan? run rest).map fun (content, after) => (c :: content, after)
termination_by cs.length
decreasing_by all_goals (simp only [List.length_drop, List.length_cons]; omega)

theorem length_of_closeSpan? {run : Nat} {cs content after : List Char}
    (h : closeSpan? run cs = some (content, after)) : after.length < cs.length := by
  match cs with
  | [] =>
    rw [closeSpan?] at h
    cases h
  | c :: rest =>
    rw [closeSpan?] at h
    dsimp only at h
    split at h
    · split at h
      · cases h
        simp only [List.length_drop, List.length_cons]
        omega
      · obtain ⟨⟨content', after'⟩, hclose, heq⟩ := Option.map_eq_some_iff.mp h
        cases heq
        have := length_of_closeSpan? hclose
        simp only [List.length_drop] at this
        simp only [List.length_cons]
        omega
    · obtain ⟨⟨content', after'⟩, hclose, heq⟩ := Option.map_eq_some_iff.mp h
      cases heq
      exact Nat.lt_succ_of_lt (length_of_closeSpan? hclose)
termination_by cs.length
decreasing_by all_goals (simp only [List.length_drop, List.length_cons]; omega)

/-- **The contents of the code spans** of a line, in order. -/
def codeSpans (line : List Char) : List (List Char) :=
  match line with
  | [] => []
  | c :: rest =>
    if c = '`' then
      let run := backticks (c :: rest)
      match _h : closeSpan? run (rest.drop (run - 1)) with
      | some (content, after) => content :: codeSpans after
      | none => []
    else codeSpans rest
termination_by line.length
decreasing_by
  · have := length_of_closeSpan? _h
    simp only [List.length_drop] at this
    simp only [List.length_cons]
    omega
  · simp

end Notebook.Markdown
