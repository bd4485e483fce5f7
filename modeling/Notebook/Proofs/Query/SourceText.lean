import Notebook.Proofs.Query.Names

/-!
# The text of a source and its tokens

A source is a tree over folders, tags and links, its leaves. Its text puts every connective in
parentheses, so the tokens of the text (`Notebook.Query.Source.tokens`) spell the source again
(`Notebook.Query.Source.spelled_tokens`) when the leaves are such as are read at all.

What the leaves hold is written as it is. So the text is read as these tokens when every leaf keeps
within its delimiters as well (`Notebook.Query.Source.readAs_text`): no quotes or backslashes in a
folder, no bracket at the end of a link.
-/

namespace Notebook.Query

namespace Source

/-- **The leaves of a source**, in the order of its text. -/
def leaves : Source → List Source
  | both left right => left.leaves ++ right.leaves
  | either left right => left.leaves ++ right.leaves
  | other source => source.leaves
  | leaf => [leaf]

/-- **The tokens of the canonical text** of a source. -/
def tokens : Source → List Token
  | folder path => [.string path]
  | tag name => [.tag name]
  | link target => [.link target]
  | both left right => parenthesized (left.tokens ++ .keyword .conjunction :: right.tokens)
  | either left right => parenthesized (left.tokens ++ .keyword .disjunction :: right.tokens)
  | other source => .minus :: source.tokens

/-- **A leaf such as is read**: a folder without a slash at its end, a tag that is read again from
its text, the target of a link. -/
def IsLegible : Source → Prop
  | folder path => path.toList.getLast? ≠ some '/'
  | tag name => LexesAs ("#" ++ name) (.tag name)
  | link target => IsTarget target.toList
  | _ => True

/-- **A leaf that keeps within its delimiters**: a folder without quotes and backslashes, a link
without a closing bracket at its end. -/
def IsDelimited : Source → Prop
  | folder path => IsPlain path.toList
  | link target => target.toList.getLast? ≠ some ']'
  | _ => True

/-- **A leaf that is read again from its text.** -/
def IsClear (leaf : Source) : Prop := leaf.IsLegible ∧ leaf.IsDelimited

/-- No source is written with a digit at the start, so a hyphen in front is not one of a number. -/
theorem head?_text (s : Source) (rest : List Char) :
    (s.text.toList ++ rest).head?.any Char.isDigit = false := by
  cases s <;> simp [text, Char.isDigit]

/-- **The text of a source is read as its tokens** when its leaves are clear. -/
theorem readAs_text {s : Source} (h : ∀ leaf ∈ s.leaves, leaf.IsClear) :
    ReadAs s.text.toList s.tokens := by
  induction s with
  | folder path =>
    obtain ⟨-, hplain⟩ := h (.folder path) (List.mem_singleton_self _)
    intro rest _
    simpa [text, tokens] using tokensOf_quote (closes_raw hplain rest)
  | tag name =>
    obtain ⟨hname, -⟩ := h (.tag name) (List.mem_singleton_self _)
    have hname := lexesAs_tag_iff.mp hname
    simpa [text, tokens] using readAs_tag hname
  | link target =>
    obtain ⟨htarget, hlast⟩ := h (.link target) (List.mem_singleton_self _)
    simpa [text, tokens] using readAs_link htarget hlast
  | both left right ihleft ihright =>
    obtain ⟨hleft, hright⟩ := List.forall_mem_append.mp h
    have hjoined := (ihleft hleft).blank ((readAs_keyword .conjunction).blank (ihright hright))
    have hpiece := hjoined.parentheses
    simpa [text, tokens, Keyword.text] using hpiece
  | either left right ihleft ihright =>
    obtain ⟨hleft, hright⟩ := List.forall_mem_append.mp h
    have hjoined := (ihleft hleft).blank ((readAs_keyword .disjunction).blank (ihright hright))
    have hpiece := hjoined.parentheses
    simpa [text, tokens, Keyword.text] using hpiece
  | other source ih =>
    intro rest hrest
    have hminus := tokensOf_minus (source.head?_text rest)
    rw [ih h rest hrest] at hminus
    simpa [text, tokens, Function.comp_def] using hminus

/-- **The tokens of a source spell it** when its leaves are such as are read. -/
theorem spelled_tokens {s : Source} (h : ∀ leaf ∈ s.leaves, leaf.IsLegible) :
    s.Spelled .operand s.tokens := by
  induction s with
  | folder path => exact .folder 0 (by simp) (h (.folder path) (List.mem_singleton_self _))
  | tag name => exact .tag name
  | link target => exact .link target
  | both left right ihleft ihright =>
    obtain ⟨hleft, hright⟩ := List.forall_mem_append.mp h
    exact .group (.single (.conjunction (.alone (ihleft hleft)) (ihright hright)))
  | either left right ihleft ihright =>
    obtain ⟨hleft, hright⟩ := List.forall_mem_append.mp h
    exact .group (.disjunction (.single (.alone (ihleft hleft))) (.alone (ihright hright)))
  | other source ih => exact .negation (.inl rfl) (ih h)

/-- A spelling of any rank is one of the loosest. -/
theorem spelled_disjunction {s : Source} {ts : List Token} (h : s.Spelled .operand ts) :
    s.Spelled .disjunction ts := .single (.alone h)

end Source

end Notebook.Query
