import Notebook.Proofs.Query.Soundness

/-!
# What is spelled is read

From every spelling, followed by a token that does not go on with it, its reader gives what is
spelled and stops right there. Which tokens go on with a spelling of a rank is
`Notebook.Query.Rank.Continues`; one token of lookahead is enough because none of them starts what
comes after the spelling in a longer one.

The induction is on the derivation. In a chain of a connective the derivation takes the last item
off, and the reader the first one, so the statement for such a rank is about a reader that has come
to the last item and is about to look further (`Notebook.Query.Cursor.Resumes`).
-/

namespace Notebook.Query

/-- **The tokens that go on with a spelling** of a rank: those of the tighter ranks, and its own
sign. -/
def Rank.Continues : Rank → Token → Prop
  | .operand, t => t = .dot ∨ t = .openParen
  | .comparison, t => (t = .dot ∨ t = .openParen) ∨ t.comparison?.isSome
  | .condition, t => (t = .dot ∨ t = .openParen) ∨ t.comparison?.isSome
  | .conjunction, t =>
    ((t = .dot ∨ t = .openParen) ∨ t.comparison?.isSome) ∨ t = .keyword .conjunction
  | .disjunction, t =>
    (((t = .dot ∨ t = .openParen) ∨ t.comparison?.isSome) ∨ t = .keyword .conjunction) ∨
      t = .keyword .disjunction

namespace Cursor

variable {α : Type} {n : Nat}

/-! ### Chains and lists -/

/-- **A reader of a chain resumes**: it has read up to a cursor, where it holds a value, and it
gives what its tail gives from there. -/
def Resumes (whole : (c : Cursor) → Reading α c.size)
    (tail : {n : Nat} → α → (c : Cursor) → c.size < n → Reading α n) (left : α) (c c₁ : Cursor) :
    Prop :=
  ∃ h : c₁.size < c.size, ∀ value c', (tail left c₁ h).Gives value c' → (whole c).Gives value c'

section Chains

variable {word : Keyword} {item whole : (c : Cursor) → Reading α c.size} {join : α → α → α}
  {tail : {n : Nat} → α → (c : Cursor) → c.size < n → Reading α n}

theorem Resumes.more {left right : α} {c c₁ c₂ c₃ : Cursor} (hleft : Resumes whole tail left c c₁)
    (hx : ∀ {n : Nat}, Extends (n := n) word item join tail) (hk : c₁.token = .keyword word)
    (hs : c₁.Steps c₂) (hitem : (item c₂).Gives right c₃) :
    Resumes whole tail (join left right) c c₃ := by
  obtain ⟨h, hwhole⟩ := hleft
  have h₃ : c₃.size < c.size := Nat.lt_trans hitem.size_lt (Nat.lt_trans hs.size_lt h)
  refine ⟨h₃, fun value c' hg => hwhole value c' ?_⟩
  exact (hx left c₁ h value c').mpr (Or.inl ⟨hk, c₂, right, c₃, hs, hitem, h₃, hg⟩)

theorem Resumes.gives {value : α} {c c' : Cursor} (hr : Resumes whole tail value c c')
    (hx : ∀ {n : Nat}, Extends (n := n) word item join tail) (hk : c'.token ≠ .keyword word) :
    (whole c).Gives value c' := by
  obtain ⟨h, hwhole⟩ := hr
  exact hwhole value c' ((hx value c' h value c').mpr (Or.inr ⟨hk, rfl, rfl⟩))

end Chains

/-- **A list with commas is complete** if its items are, before a comma and at the end of the list.
-/
theorem Lists.complete {Item : Cursor → α → Cursor → Prop} {Stop : Cursor → Cursor → Prop}
    {All : Cursor → List α → Cursor → Prop} (hl : Lists Item Stop All)
    {parts : List (List Token × α)} (hne : parts ≠ []) {c c₁ c' : Cursor}
    (hitem : ∀ part ∈ parts, ∀ d d₁ : Cursor, d.Reads part.1 d₁ →
      d₁.token = .comma ∨ d₁ = c₁ → Item d part.2 d₁)
    (hreads : c.Reads ([Token.comma].intercalate (parts.map Prod.fst)) c₁)
    (hstop : Stop c₁ c') : All c (parts.map Prod.snd) c' := by
  induction parts generalizing c with
  | nil => exact absurd rfl hne
  | cons part parts ih =>
    rw [List.forall_mem_cons] at hitem
    refine (hl _ _ _).mpr ?_
    by_cases hparts : parts = []
    · subst hparts
      rw [List.map_cons, List.map_nil, List.intercalate_singleton] at hreads
      exact ⟨part.2, c₁, hitem.1 c c₁ hreads (Or.inr rfl), Or.inr ⟨hstop, rfl⟩⟩
    · rw [List.map_cons, List.intercalate_cons_of_ne_nil (by simpa using hparts)] at hreads
      obtain ⟨c₃, h₁, hcomma, c₂, hs, h₃⟩ : ∃ c₃, c.Reads part.1 c₃ ∧ c₃.token = .comma ∧
          ∃ c₂, c₃.Steps c₂ ∧ c₂.Reads ([Token.comma].intercalate (parts.map Prod.fst)) c₁ := by
        simpa using hreads
      exact ⟨part.2, c₃, hitem.1 c c₃ h₁ (Or.inl hcomma),
        Or.inl ⟨hcomma, c₂, _, hs, ih hparts hitem.2 h₃, rfl⟩⟩

/-! ### First tokens -/

/-- The tokens that an operand starts with. -/
def StartsOperand (t : Token) : Prop :=
  t.literal?.isSome ∨ t = .openParen ∨ ∃ name, t = .identifier name

/-- The tokens that an expression starts with. -/
def StartsExpression (t : Token) : Prop :=
  (t = .keyword .negation ∨ t = .bang) ∨ StartsOperand t

theorem not_startsOperand_of_negation {t : Token} (h : t = .keyword .negation ∨ t = .bang) :
    ¬StartsOperand t := by
  rcases h with rfl | rfl <;> rintro (h | h | ⟨name, h⟩) <;> cases h

theorem not_startsExpression_closeParen : ¬StartsExpression .closeParen := by
  rintro ((h | h) | h | h | ⟨name, h⟩) <;> cases h

theorem startsOperand_of_comparison {c c' : Cursor} {e : Expression}
    (hg : (comparison c).Gives e c') : StartsOperand c.token := by
  obtain ⟨left, c₁, hleft, -⟩ := gives_comparison.mp hg
  rcases gives_operand.mp hleft with ⟨value, hl, -⟩ | ⟨ht, -⟩ | ⟨name, c₁, ht, -⟩
  · exact Or.inl (by rw [hl]; rfl)
  · exact Or.inr (Or.inl ht)
  · exact Or.inr (Or.inr ⟨name, ht⟩)

theorem startsExpression {c c' : Cursor} {e : Expression} (hg : (expression c).Gives e c') :
    StartsExpression c.token := by
  obtain ⟨left, c₁, hleft, -⟩ := gives_expression.mp hg
  obtain ⟨left, c₁, hleft, -⟩ := gives_conjunction.mp hleft
  rcases gives_condition.mp hleft with ⟨hn, -⟩ | ⟨-, hleft⟩
  · exact Or.inl hn
  · exact Or.inr (startsOperand_of_comparison hleft)

/-! ### Expressions -/

/-- **A spelling is complete**: it is read, or in a chain, read and resumed, wherever what follows
does not go on with it. -/
def Complete : Rank → List Token → Expression → Prop
  | .conjunction, ts, e => ∀ c c₁, Reads c ts c₁ → ¬Rank.Continues .condition c₁.token →
      Resumes conjunction conjunctionTail e c c₁
  | .disjunction, ts, e => ∀ c c₁, Reads c ts c₁ → ¬Rank.Continues .conjunction c₁.token →
      Resumes expression disjunctionTail e c c₁
  | rank, ts, e => ∀ c c₁, Reads c ts c₁ → ¬rank.Continues c₁.token → (reader rank c).Gives e c₁

theorem Complete.gives {rank : Rank} {ts : List Token} {e : Expression} {c c' : Cursor}
    (h : Complete rank ts e) (hts : c.Reads ts c') (hf : ¬rank.Continues c'.token) :
    (reader rank c).Gives e c' := by
  cases rank with
  | operand => exact h c c' hts hf
  | comparison => exact h c c' hts hf
  | condition => exact h c c' hts hf
  | conjunction =>
    obtain ⟨hf, hk⟩ := not_or.mp hf
    exact (h c c' hts hf).gives extends_conjunctionTail hk
  | disjunction =>
    obtain ⟨hf, hk⟩ := not_or.mp hf
    exact (h c c' hts hf).gives extends_disjunctionTail hk

theorem pathTail_complete (segments : List String) {others : List String} {c c' : Cursor}
    {h : c.size < n} (hreads : c.Reads (others.flatMap fun name => [.dot, .identifier name]) c')
    (hd : c'.token ≠ .dot) : (pathTail segments c h).Gives (segments ++ others) c' := by
  induction others generalizing segments c with
  | nil =>
    obtain rfl : c' = c := by simpa using hreads
    exact gives_pathTail.mpr (Or.inr ⟨hd, by simp, rfl⟩)
  | cons name others ih =>
    obtain ⟨ht, c₁, h₁, ht₁, c₂, h₂, hreads⟩ := hreads
    have hlt : c₂.size < n := Nat.lt_trans h₂.size_lt (Nat.lt_trans h₁.size_lt h)
    refine gives_pathTail.mpr (Or.inl ⟨ht, c₁, name, c₂, h₁, ht₁, h₂, hlt, ?_⟩)
    simpa using ih (segments ++ [name]) (h := hlt) hreads

/-- What a path is followed by, right after its first name. -/
theorem token_after_name {others : List String} {c c' : Cursor}
    (hreads : c.Reads (others.flatMap fun name => [.dot, .identifier name]) c') :
    c.token = .dot ∨ c = c' := by
  cases others with
  | nil => exact Or.inr (reads_nil.mp hreads).symm
  | cons name others => exact Or.inl hreads.1

theorem arguments_complete {parts : List (List Token × Expression)} {c c' c₁ : Cursor}
    (hparts : ∀ part ∈ parts, Complete .disjunction part.1 part.2)
    (hreads : c.Reads ([Token.comma].intercalate (parts.map Prod.fst)) c₁)
    (hp : c₁.token = .closeParen) (hs : c₁.Steps c') :
    (arguments c).Gives (parts.map Prod.snd) c' := by
  by_cases hne : parts = []
  · subst hne
    obtain rfl := reads_nil.mp hreads
    exact gives_arguments.mpr (Or.inl ⟨hp, hs, rfl⟩)
  · have hlist : (argumentList c).Gives (parts.map Prod.snd) c' := by
      refine lists_argumentList.complete hne (fun part hpart d d₁ hd hfollow => ?_) hreads ⟨hp, hs⟩
      refine (hparts part hpart).gives hd ?_
      rcases hfollow with h | rfl
      · simp [Rank.Continues, h, Token.comparison?]
      · simp [Rank.Continues, hp, Token.comparison?]
    -- the first argument starts with something else than the closing parenthesis
    obtain ⟨e, d, he, -⟩ := (lists_argumentList _ _ _).mp hlist
    refine gives_arguments.mpr (Or.inr ⟨fun hclose => ?_, hlist⟩)
    have hstart := startsExpression he
    rw [hclose] at hstart
    exact not_startsExpression_closeParen hstart

theorem complete_literal {t : Token} {value : Literal} (h : value.Spelled t) :
    Complete .operand [t] (.literal value) := by
  rintro c c' ⟨rfl, c₁, hs, rfl⟩ -
  exact gives_operand.mpr (Or.inl ⟨value, Token.literal?_eq_some_iff.mpr h, hs, rfl⟩)

theorem complete_field (first : String) (others : List String) :
    Complete .operand (pathTokens first others) (.field ⟨first :: others⟩) := by
  rintro c c' ⟨ht, c₁, hs, hreads⟩ hf
  obtain ⟨hd, hp⟩ := not_or.mp hf
  refine gives_operand.mpr (Or.inr (Or.inr ⟨first, c₁, ht, hs, Or.inr ⟨?_, hs.size_lt, ?_⟩⟩))
  · rcases token_after_name hreads with h | rfl
    · simp [h]
    · exact hp
  · exact gives_fieldPath.mpr ⟨first :: others, pathTail_complete [first] hreads hd, hp, rfl⟩

theorem complete_call (name : String) {parts : List (List Token × Expression)}
    (hparts : ∀ part ∈ parts, Complete .disjunction part.1 part.2) :
    Complete .operand
      (.identifier name :: .openParen ::
        ([Token.comma].intercalate (parts.map Prod.fst) ++ [.closeParen]))
      (.call name (parts.map Prod.snd)) := by
  rintro c c' ⟨ht, c₁, h₁, hp, c₂, h₂, hreads⟩ -
  obtain ⟨c₃, hreads, hclose, c₄, h₄, rfl⟩ := reads_append.mp hreads
  have hargs := arguments_complete hparts hreads hclose h₄
  exact gives_operand.mpr (Or.inr (Or.inr ⟨name, c₁, ht, h₁, Or.inl ⟨hp, c₂, _, h₂, hargs, rfl⟩⟩))

theorem complete_group {ts : List Token} {e : Expression} (h : Complete .disjunction ts e) :
    Complete .operand (.openParen :: (ts ++ [.closeParen])) e := by
  rintro c c' ⟨ht, c₁, h₁, hreads⟩ -
  obtain ⟨c₂, hreads, hclose, c₃, h₃, rfl⟩ := reads_append.mp hreads
  have he := h.gives hreads (by simp [Rank.Continues, hclose, Token.comparison?])
  exact gives_operand.mpr (Or.inr (Or.inl ⟨ht, c₁, c₂, h₁, he, hclose, h₃⟩))

theorem complete_alone {ts : List Token} {e : Expression} (h : Complete .operand ts e) :
    Complete .comparison ts e := by
  intro c c' hreads hf
  obtain ⟨hf, hc⟩ := not_or.mp hf
  exact gives_comparison.mpr ⟨e, c', h.gives hreads hf, Or.inr ⟨by simpa using hc, rfl, rfl⟩⟩

theorem complete_comparison {t : Token} {operator : Comparison} {ts us : List Token}
    {left right : Expression} (ht : operator.Spelled t) (hl : Complete .operand ts left)
    (hr : Complete .operand us right) :
    Complete .comparison (ts ++ t :: us) (.comparison operator left right) := by
  intro c c' hreads hf
  obtain ⟨c₁, h₁, hsign, c₂, hs, h₂⟩ := reads_append.mp hreads
  have hop : c₁.token.comparison? = some operator := by
    rw [hsign]
    exact Token.comparison?_eq_some_iff.mpr ht
  have hleft := hl.gives h₁ (by rw [hsign]; cases ht <;> simp [Rank.Continues])
  exact gives_comparison.mpr ⟨left, c₁, hleft,
    Or.inl ⟨operator, c₂, right, hop, hs, hr.gives h₂ (not_or.mp hf).1, rfl⟩⟩

theorem complete_plain {ts : List Token} {e : Expression} (h : Complete .comparison ts e) :
    Complete .condition ts e := by
  intro c c' hreads hf
  have hg : (comparison c).Gives e c' := h c c' hreads hf
  -- no operand starts with a negation, so that none is looked for here
  refine gives_condition.mpr (Or.inr ⟨fun hn => ?_, hg⟩)
  have hstart := startsOperand_of_comparison hg
  exact not_startsOperand_of_negation hn hstart

theorem complete_negation {t : Token} {ts : List Token} {e : Expression}
    (ht : t = .keyword .negation ∨ t = .bang) (h : Complete .condition ts e) :
    Complete .condition (t :: ts) (.negation e) := by
  rintro c c' ⟨rfl, c₁, hs, hreads⟩ hf
  exact gives_condition.mpr (Or.inl ⟨ht, c₁, e, hs, h.gives hreads hf, rfl⟩)

/-- **Every spelling of an expression is complete.** -/
theorem complete_of_spelled {rank : Rank} {ts : List Token} {e : Expression}
    (h : e.Spelled rank ts) : Complete rank ts e := by
  induction h with
  | literal ht => exact complete_literal ht
  | field first others => exact complete_field first others
  | call name parts _ ih => exact complete_call name ih
  | group _ ih => exact complete_group ih
  | alone _ ih => exact complete_alone ih
  | comparison ht _ _ ihl ihr => exact complete_comparison ht ihl ihr
  | plain _ ih => exact complete_plain ih
  | negation ht _ ih => exact complete_negation ht ih
  | condition _ ih =>
    intro c c₁ hreads hf
    have hg : (condition c).Gives _ c₁ := ih.gives hreads hf
    exact ⟨hg.size_lt, fun value c' ht => gives_conjunction.mpr ⟨_, c₁, hg, ht⟩⟩
  | conjunction _ _ ihl ihr =>
    intro c c₁ hreads hf
    -- the reader has come to the word, where it holds the left side
    obtain ⟨c₂, h₁, ht, c₃, hs, h₂⟩ := reads_append.mp hreads
    exact (ihl c c₂ h₁ (by simp [Rank.Continues, ht, Token.comparison?])).more
      extends_conjunctionTail ht hs (ihr.gives h₂ hf)
  | single _ ih =>
    intro c c₁ hreads hf
    have hg : (conjunction c).Gives _ c₁ := ih.gives hreads hf
    exact ⟨hg.size_lt, fun value c' ht => gives_expression.mpr ⟨_, c₁, hg, ht⟩⟩
  | disjunction _ _ ihl ihr =>
    intro c c₁ hreads hf
    obtain ⟨c₂, h₁, ht, c₃, hs, h₂⟩ := reads_append.mp hreads
    exact (ihl c c₂ h₁ (by simp [Rank.Continues, ht, Token.comparison?])).more
      extends_disjunctionTail ht hs (ihr.gives h₂ hf)

/-- **What is spelled as an expression is read.** -/
theorem expression_complete {ts : List Token} {e : Expression} (h : e.Spelled .disjunction ts)
    {c c' : Cursor} (hreads : c.Reads ts c') (hf : ¬Rank.Continues .disjunction c'.token) :
    (expression c).Gives e c' :=
  (complete_of_spelled h).gives hreads hf

/-! ### Sources -/

theorem folderOf_eq {text path : String} {slashes : Nat}
    (h : text.toList = path.toList ++ List.replicate slashes '/')
    (hlast : path.toList.getLast? ≠ some '/') : folderOf text = path := by
  have hdrop : path.toList.reverse.dropWhile (· == '/') = path.toList.reverse := by
    rw [← List.head?_reverse] at hlast
    cases hrev : path.toList.reverse with
    | nil => rfl
    | cons c cs =>
      rw [hrev] at hlast
      exact List.dropWhile_cons_of_neg (by simpa using hlast)
  rw [folderOf, Text.dropEndWhile, h, List.reverse_append, List.reverse_replicate,
    List.dropWhile_append_of_pos (by simp), hdrop, List.reverse_reverse, String.ofList_toList]

/-- **A spelling of a source is complete**, in the sense of `Notebook.Query.Cursor.Complete`. -/
def SourceComplete : Rank → List Token → Source → Prop
  | .conjunction, ts, s => ∀ c c₁, Reads c ts c₁ →
      Resumes sourceConjunction sourceConjunctionTail s c c₁
  | .disjunction, ts, s => ∀ c c₁, Reads c ts c₁ → c₁.token ≠ .keyword .conjunction →
      Resumes source sourceDisjunctionTail s c c₁
  | _, ts, s => ∀ c c₁, Reads c ts c₁ → (sourceOperand c).Gives s c₁

/-- **Every spelling of a source is complete.** -/
theorem sourceComplete_of_spelled {rank : Rank} {ts : List Token} {s : Source}
    (h : s.Spelled rank ts) : SourceComplete rank ts s := by
  induction h with
  | folder slashes htext hlast =>
    rintro c c' ⟨ht, c₁, hs, rfl⟩
    exact gives_sourceOperand.mpr (Or.inr (Or.inl ⟨_, ht, hs, by rw [folderOf_eq htext hlast]⟩))
  | tag name =>
    rintro c c' ⟨ht, c₁, hs, rfl⟩
    exact gives_sourceOperand.mpr (Or.inr (Or.inr (Or.inl ⟨name, ht, hs, rfl⟩)))
  | link target =>
    rintro c c' ⟨ht, c₁, hs, rfl⟩
    exact gives_sourceOperand.mpr (Or.inr (Or.inr (Or.inr (Or.inl ⟨target, ht, hs, rfl⟩))))
  | group _ ih =>
    rintro c c' ⟨ht, c₁, h₁, hreads⟩
    obtain ⟨c₂, hreads, hclose, c₃, h₃, rfl⟩ := reads_append.mp hreads
    have hs := (ih c₁ c₂ hreads (by simp [hclose])).gives extends_sourceDisjunctionTail
      (by simp [hclose])
    exact gives_sourceOperand.mpr
      (Or.inr (Or.inr (Or.inr (Or.inr ⟨ht, c₁, c₂, h₁, hs, hclose, h₃⟩))))
  | negation ht _ ih =>
    rintro c c' ⟨rfl, c₁, hs, hreads⟩
    exact gives_sourceOperand.mpr (Or.inl ⟨ht, c₁, _, hs, ih c₁ c' hreads, rfl⟩)
  | alone _ ih =>
    intro c c₁ hreads
    have hg := ih c c₁ hreads
    exact ⟨hg.size_lt, fun value c' ht => gives_sourceConjunction.mpr ⟨_, c₁, hg, ht⟩⟩
  | conjunction _ _ ihl ihr =>
    intro c c₁ hreads
    obtain ⟨c₂, h₁, ht, c₃, hs, h₂⟩ := reads_append.mp hreads
    exact (ihl c c₂ h₁).more extends_sourceConjunctionTail ht hs (ihr c₃ c₁ h₂)
  | single _ ih =>
    intro c c₁ hreads hf
    have hg := (ih c c₁ hreads).gives extends_sourceConjunctionTail hf
    exact ⟨hg.size_lt, fun value c' ht => gives_source.mpr ⟨_, c₁, hg, ht⟩⟩
  | disjunction _ _ ihl ihr =>
    intro c c₁ hreads hf
    obtain ⟨c₂, h₁, ht, c₃, hs, h₂⟩ := reads_append.mp hreads
    have hg := (ihr c₃ c₁ h₂).gives extends_sourceConjunctionTail hf
    exact (ihl c c₂ h₁ (by simp [ht])).more extends_sourceDisjunctionTail ht hs hg

/-- **What is spelled as a source is read.** -/
theorem source_complete {ts : List Token} {s : Source} (h : s.Spelled .disjunction ts)
    {c c' : Cursor} (hreads : c.Reads ts c') (hf : ¬Rank.Continues .disjunction c'.token) :
    (source c).Gives s c' := by
  obtain ⟨hf, hor⟩ := not_or.mp hf
  exact (sourceComplete_of_spelled h c c' hreads (not_or.mp hf).2).gives
    extends_sourceDisjunctionTail hor

/-! ### Queries -/

/-- The words that clauses start with, in their order. -/
def clauseWords : List Keyword := [.source, .condition, .sort, .limit]

/-- A token that **follows** what comes before some of the clauses: the end, or their first word. -/
def Follows (words : List Keyword) (t : Token) : Prop :=
  t = .endOfInput ∨ ∃ word ∈ words, t = .keyword word

theorem Follows.mono {words more : List Keyword} {t : Token} (h : Follows words t)
    (hsub : words ⊆ more) : Follows more t :=
  h.imp_right fun ⟨word, hword, ht⟩ => ⟨word, hsub hword, ht⟩

/-- What follows ends an expression, a source, a name and a list. -/
theorem Follows.ends {t : Token} (h : Follows clauseWords t) :
    ¬Rank.Continues .disjunction t ∧ t ≠ .comma ∧ t ≠ .keyword .naming ∧
      t ≠ .keyword .ascending ∧ t ≠ .keyword .descending ∧ t.endsColumns = true := by
  rcases h with rfl | ⟨word, hword, rfl⟩
  · simp [Rank.Continues, Token.comparison?, Token.endsColumns]
  · simp only [clauseWords, List.mem_cons, List.not_mem_nil, or_false] at hword
    rcases hword with rfl | rfl | rfl | rfl <;>
      simp [Rank.Continues, Token.comparison?, Token.endsColumns]

theorem not_continues_comma : ¬Rank.Continues .disjunction .comma := by
  simp [Rank.Continues, Token.comparison?]

theorem endsColumns_of_startsExpression {t : Token} (h : StartsExpression t) :
    t.endsColumns = false := by
  rcases h with (rfl | rfl) | hl | rfl | ⟨name, rfl⟩
  · rfl
  · rfl
  · cases t <;> first | rfl | cases hl
  · rfl
  · rfl

/-- A column is read before a comma and before what follows the columns. -/
theorem column_complete {ts : List Token} {column : Column} (h : column.Spelled ts) {c c' : Cursor}
    (hreads : c.Reads ts c') (hf : ¬Rank.Continues .disjunction c'.token)
    (hn : c'.token ≠ .keyword .naming) :
    ∃ e name c₁, ∃ h : (expression c).Gives e c₁,
      (givenName c₁ h.size_lt).Gives name c' ∧ column = ⟨e, name⟩ := by
  cases h with
  | plain he =>
    exact ⟨_, none, c', expression_complete he hreads hf,
      gives_givenName.mpr (Or.inr ⟨hn, rfl, rfl⟩), rfl⟩
  | named he ha =>
    obtain ⟨c₁, h₁, hk, c₂, hs, rfl, c₃, hs', rfl⟩ := reads_append.mp hreads
    refine ⟨_, _, c₁, expression_complete he h₁ ?_, gives_givenName.mpr
      (Or.inl ⟨hk, c₂, _, hs, Token.givenName?_eq_some_iff.mpr ha, hs', rfl⟩), rfl⟩
    simp [Rank.Continues, hk, Token.comparison?]

theorem columns_complete {ts : List Token} {cs : List Column} (h : Listed Column.Spelled ts cs)
    (hne : cs ≠ []) {c c' : Cursor} (hreads : c.Reads ts c') (hf : Follows clauseWords c'.token) :
    (columns c).Gives cs c' := by
  obtain ⟨parts, hparts, rfl, rfl⟩ := h
  obtain ⟨hcontinues, hcomma, hnaming, -⟩ := hf.ends
  refine lists_columns.complete (by simpa using hne) (fun part hpart d d₁ hd hfollow => ?_) hreads
    ⟨hcomma, rfl⟩
  rcases hfollow with hc | rfl
  · exact column_complete (hparts part hpart) hd (hc ▸ not_continues_comma) (by simp [hc])
  · exact column_complete (hparts part hpart) hd hcontinues hnaming

theorem sortKey_complete {ts : List Token} {key : SortKey} (h : key.Spelled ts) {c c' : Cursor}
    (hreads : c.Reads ts c') (hf : ¬Rank.Continues .disjunction c'.token)
    (ha : c'.token ≠ .keyword .ascending) (hd : c'.token ≠ .keyword .descending) :
    ∃ e d c₁, ∃ h : (expression c).Gives e c₁,
      (direction c₁ h.size_lt).Gives d c' ∧ key = ⟨e, d⟩ := by
  cases h with
  | plain he =>
    exact ⟨_, _, c', expression_complete he hreads hf,
      gives_direction.mpr (Or.inr (Or.inr ⟨ha, hd, rfl, rfl⟩)), rfl⟩
  | ascending he =>
    obtain ⟨c₁, h₁, hk, c₂, hs, rfl⟩ := reads_append.mp hreads
    refine ⟨_, _, c₁, expression_complete he h₁ ?_,
      gives_direction.mpr (Or.inl ⟨hk, hs, rfl⟩), rfl⟩
    simp [Rank.Continues, hk, Token.comparison?]
  | descending he =>
    obtain ⟨c₁, h₁, hk, c₂, hs, rfl⟩ := reads_append.mp hreads
    refine ⟨_, _, c₁, expression_complete he h₁ ?_,
      gives_direction.mpr (Or.inr (Or.inl ⟨hk, hs, rfl⟩)), rfl⟩
    simp [Rank.Continues, hk, Token.comparison?]

theorem sortKeys_complete {ts : List Token} {keys : List SortKey} (h : SortSpelled ts keys)
    {c c' : Cursor} (hreads : c.Reads ts c') (hf : Follows clauseWords c'.token) :
    (sortKeys c).Gives keys c' := by
  obtain ⟨hne, parts, hparts, rfl, rfl⟩ := h
  obtain ⟨hcontinues, hcomma, -, hasc, hdesc, -⟩ := hf.ends
  refine lists_sortKeys.complete (by simpa using hne) (fun part hpart d d₁ hd hfollow => ?_) hreads
    ⟨hcomma, rfl⟩
  rcases hfollow with hc | rfl
  · exact sortKey_complete (hparts part hpart) hd (hc ▸ not_continues_comma) (by simp [hc])
      (by simp [hc])
  · exact sortKey_complete (hparts part hpart) hd hcontinues hasc hdesc

theorem limitNumber_complete {ts : List Token} {limit : Nat} (h : LimitSpelled ts limit)
    {c c' : Cursor} (hreads : c.Reads ts c') : (limitNumber c).Gives limit c' := by
  obtain ⟨hpos, k, rfl, hk⟩ := h
  obtain ⟨ht, c₁, hs, rfl⟩ := hreads
  have hpos' : 0 < k := Int64.lt_iff_toInt_lt.mpr (by simpa [hk] using hpos)
  refine gives_limitNumber.mpr ⟨k, ht, hpos', hs, ?_⟩
  rw [← Int64.toNat_toInt, hk, Int.toNat_natCast]

/-- **A clause is complete** if its body is before what follows, and its word is not among the
words of the clauses that may follow. -/
theorem clause_complete {word : Keyword} (words : List Keyword)
    {read : (c : Cursor) → Reading α c.size} {Body : List Token → α → Prop}
    (hbody : ∀ us x c c₁, Body us x → Reads c us c₁ → Follows words c₁.token → (read c).Gives x c₁)
    (hword : word ∉ words) {ts : List Token} {value : Option α} (h : Clause word Body ts value)
    {c c' : Cursor} (hreads : c.Reads ts c') (hf : Follows words c'.token) (hc : c.size < n) :
    (clause word read c hc).Gives value c' ∧ Follows (word :: words) c.token := by
  cases value with
  | some x =>
    obtain ⟨us, rfl, hx⟩ := h
    obtain ⟨hk, c₁, hs, hreads⟩ := hreads
    exact ⟨gives_clause.mpr (Or.inl ⟨hk, c₁, x, hs, hbody us x c₁ c' hx hreads hf, rfl⟩),
      Or.inr ⟨word, by simp, hk⟩⟩
  | none =>
    obtain rfl : ts = [] := h
    obtain rfl := reads_nil.mp hreads
    -- the clause is left out: what follows starts with another word
    refine ⟨gives_clause.mpr (Or.inr ⟨?_, rfl, rfl⟩), hf.mono (by simp)⟩
    rcases hf with he | ⟨other, hother, ht⟩
    · simp [he]
    · rw [ht]
      rintro ⟨⟩
      exact hword hother

theorem formColumns_complete {form : Form} {ts : List Token} {cs : List Column}
    (h : ColumnsSpelled form ts cs) {c c' : Cursor} (hreads : c.Reads ts c')
    (hf : Follows clauseWords c'.token) (hc : c.size < n) :
    (formColumns form c hc).Gives cs c' := by
  rcases h with ⟨rfl, rfl⟩ | ⟨rfl, hne, hlisted⟩
  · obtain rfl := reads_nil.mp hreads
    exact gives_formColumns.mpr (Or.inl ⟨hf.ends.2.2.2.2.2, rfl, rfl⟩)
  · have hcs := columns_complete hlisted hne hreads hf
    obtain ⟨column, c₁, ⟨e, name, c₂, he, -⟩, -⟩ := (lists_columns _ _ _).mp hcs
    exact gives_formColumns.mpr
      (Or.inr ⟨endsColumns_of_startsExpression (startsExpression he), rfl, hcs⟩)

/-- **What is spelled as a query is read**, up to the end. -/
theorem query_complete {ts : List Token} {q : Query} (h : q.Spelled (ts ++ [.endOfInput]))
    {c c' : Cursor} (hreads : c.Reads ts c') (he : c'.token = .endOfInput) :
    (query c).Gives q c' := by
  generalize hus : ts ++ [.endOfInput] = us at h
  obtain @⟨t, cs, ss, ws, ks, ls, form, columns, source, condition, sort, limit, hform, hcolumns,
    hsource, hcondition, hsort, hlimit⟩ := h
  have hts : ts = t :: (cs ++ (ss ++ (ws ++ (ks ++ ls)))) :=
    (List.append_left_inj [Token.endOfInput]).mp (by simpa using hus)
  subst hts
  obtain ⟨rfl, c₁, hs, hreads⟩ := hreads
  simp only [reads_append] at hreads
  obtain ⟨c₂, hcs, c₃, hss, c₄, hws, c₅, hks, hls⟩ := hreads
  have h₁ : c₁.size < c.size := hs.size_lt
  have h₂ : c₂.size < c.size := Nat.lt_of_le_of_lt hcs.size_le h₁
  have h₃ : c₃.size < c.size := Nat.lt_of_le_of_lt hss.size_le h₂
  have h₄ : c₄.size < c.size := Nat.lt_of_le_of_lt hws.size_le h₃
  have h₅ : c₅.size < c.size := Nat.lt_of_le_of_lt hks.size_le h₄
  -- from the end backwards: each clause is read, and says what follows the one before it
  obtain ⟨hlimit, hf₅⟩ := clause_complete []
    (fun us x d d₁ hb hr _ => limitNumber_complete hb hr) (by simp) hlimit hls (Or.inl he) h₅
  obtain ⟨hsort, hf₄⟩ := clause_complete [.limit]
    (fun us x d d₁ hb hr hf => sortKeys_complete hb hr (hf.mono (by simp [clauseWords]))) (by simp)
    hsort hks hf₅ h₄
  obtain ⟨hcondition, hf₃⟩ := clause_complete [.sort, .limit]
    (fun us x d d₁ hb hr hf => expression_complete hb hr (hf.mono (by simp [clauseWords])).ends.1)
    (by simp) hcondition hws hf₄ h₃
  obtain ⟨hsource, hf₂⟩ := clause_complete [.condition, .sort, .limit]
    (fun us x d d₁ hb hr hf => source_complete hb hr (hf.mono (by simp [clauseWords])).ends.1)
    (by simp) hsource hss hf₃ h₂
  have hcolumns := formColumns_complete hcolumns hcs hf₂ h₁
  exact gives_query.mpr ⟨form, columns, source, condition, sort, limit, c₁, c₂, c₃, c₄, c₅, h₁, h₂,
    h₃, h₄, h₅, Token.form?_eq_some_iff.mpr hform, hs, hcolumns, hsource, hcondition, hsort, hlimit,
    he, rfl⟩

end Cursor

end Notebook.Query
