import Notebook.Proofs.Query.Parts

/-!
# The text of an expression and its tokens

The canonical text of an expression is read as tokens that can be written down beside it
(`Notebook.Query.Expression.tokens`), node by node, as long as every part is legible
(`Notebook.Query.Expression.readAs_text`): where the text puts parentheses is no matter of
characters.

Whether these tokens spell the expression again is. Each node has a rank
(`Notebook.Query.Expression.rank`), and as an operand of a connective or of a negation it is put in
parentheses whenever it has to be. The operands of a comparison are not, so they have to be primary
(`Notebook.Query.Expression.spelled_tokens`).
-/

namespace Notebook.Query

/-! ### Tokens -/

/-- The token that a literal is written as. -/
def Literal.token : Literal → Token
  | string value => .string value
  | integer value => .integer value
  | real value => .real value
  | boolean value => .boolean value
  | null => .null

/-- The word of a connective. -/
def Connective.word : Connective → Keyword
  | conjunction => .conjunction
  | disjunction => .disjunction

theorem Connective.text_word (connective : Connective) :
    connective.word.text = connective.text := by
  cases connective <;> rfl

/-- The tokens of a field path. -/
def FieldPath.tokens (path : FieldPath) : List Token :=
  match path.segments with
  | [] => []
  | first :: others => pathTokens first others

namespace Expression

/-- The tokens of an expression as an operand: in parentheses when it is a comparison or joined by a
connective. -/
def asOperandTokens (e : Expression) (ts : List Token) : List Token :=
  match e with
  | comparison .. => parenthesized ts
  | logical .. => parenthesized ts
  | _ => ts

mutual

/-- **The tokens of the canonical text** of an expression. -/
def tokens : Expression → List Token
  | field path => path.tokens
  | literal value => [value.token]
  | call name arguments => .identifier name :: parenthesized (argumentsTokens arguments)
  | comparison operator left right => left.tokens ++ operator.token :: right.tokens
  | logical connective left right =>
    left.asOperandTokens left.tokens ++
      .keyword connective.word :: right.asOperandTokens right.tokens
  | negation operand => .keyword .negation :: operand.asOperandTokens operand.tokens

/-- The tokens of arguments with commas between them. -/
def argumentsTokens : List Expression → List Token
  | [] => []
  | [argument] => argument.tokens
  | argument :: arguments => argument.tokens ++ .comma :: argumentsTokens arguments

end

theorem argumentsTokens_eq_intercalate (arguments : List Expression) :
    argumentsTokens arguments = [Token.comma].intercalate (arguments.map tokens) := by
  induction arguments with
  | nil => rfl
  | cons argument arguments ih =>
    cases arguments with
    | nil => simp [argumentsTokens]
    | cons next arguments => simp [argumentsTokens, ih]

/-! ### Reading the text -/

theorem toList_pathText (first : String) (others : List String) :
    (FieldPath.text ⟨first :: others⟩).toList =
      first.toList ++ others.flatMap fun name => '.' :: name.toList := by
  simp only [FieldPath.text, String.toList_intercalate]
  induction others generalizing first with
  | nil => simp
  | cons next others ih =>
    rw [List.map_cons, List.intercalate_cons_of_ne_nil (by simp), ih]
    simp

theorem head?_dots (others : List String) {rest : List Char}
    (hrest : rest.head?.any continuesName = false) :
    (others.flatMap (fun name => '.' :: name.toList) ++ rest).head?.any continuesName = false := by
  cases others with
  | nil => exact hrest
  | cons next others => rfl

/-- Names with dots in front are read as such, up to where no name goes on. -/
theorem tokensOf_dots {others : List String}
    (h : ∀ name ∈ others, LexesAs name (.identifier name)) {rest : List Char}
    (hrest : rest.head?.any continuesName = false) :
    tokensOf (others.flatMap (fun name => '.' :: name.toList) ++ rest) =
      (tokensOf rest).map ((others.flatMap fun name => [.dot, .identifier name]) ++ ·) := by
  induction others with
  | nil => simp
  | cons name others ih =>
    obtain ⟨hname, hothers⟩ := List.forall_mem_cons.mp h
    obtain ⟨hword, htoken⟩ := lexesAs_identifier_iff.mp hname
    rw [List.flatMap_cons, List.append_assoc, List.cons_append, tokensOf_dot,
      tokensOf_word hword (head?_dots others hrest), htoken, ih hothers]
    simp [Function.comp_def]

theorem readAs_field {path : FieldPath} (h : (field path).IsLegible) :
    ReadAs path.text.toList path.tokens := by
  obtain ⟨_ | ⟨first, others⟩⟩ := path
  · exact absurd rfl h.1
  · obtain ⟨hfirst, hothers⟩ := List.forall_mem_cons.mp h.2
    obtain ⟨hword, htoken⟩ := lexesAs_identifier_iff.mp hfirst
    intro rest hrest
    have hend : rest.head?.any continuesName = false :=
      hrest.head? (by decide) (by decide) (by decide)
    rw [toList_pathText, List.append_assoc, tokensOf_word hword (head?_dots others hend), htoken,
      tokensOf_dots hothers hend]
    simp [FieldPath.tokens, pathTokens, Function.comp_def]

theorem readAs_literal {value : Literal} (h : (literal value).IsLegible) :
    ReadAs value.text.toList [value.token] := by
  cases value with
  | string value => exact readAs_quotedText value
  | integer value => exact readAs_integer value
  | real value =>
    obtain ⟨number, rfl, hnumber⟩ := h
    exact readAs_real hnumber
  | boolean value => exact readAs_boolean value
  | null => exact readAs_null

theorem readAs_asOperand {e : Expression} (h : ReadAs e.text.toList e.tokens) :
    ReadAs (e.asOperand e.text).toList (e.asOperandTokens e.tokens) := by
  cases e with
  | comparison => simpa [asOperand, asOperandTokens] using h.parentheses
  | logical => simpa [asOperand, asOperandTokens] using h.parentheses
  | _ => exact h

theorem readAs_call {name : String} (hname : LexesAs name (.identifier name)) {piece : List Char}
    {ts : List Token} (h : ReadAs piece ts) :
    ReadAs (name.toList ++ '(' :: (piece ++ [')'])) (.identifier name :: parenthesized ts) := by
  obtain ⟨hword, htoken⟩ := lexesAs_identifier_iff.mp hname
  intro rest hrest
  have hpiece := h.parentheses rest hrest
  rw [List.append_assoc, tokensOf_word hword rfl, htoken, hpiece]
  simp [Function.comp_def]

theorem argumentsText_eq_intercalate (arguments : List Expression) :
    argumentsText arguments = ", ".intercalate (arguments.map text) := by
  induction arguments with
  | nil => rfl
  | cons argument arguments ih =>
    cases arguments with
    | nil => simp [argumentsText]
    | cons next arguments => simp [argumentsText, ih, String.append_assoc]

/-- **The text of an expression is read as its tokens** when every part of it is legible. -/
theorem readAs_text {e : Expression} (h : ∀ part ∈ e.parts, part.IsLegible) :
    ReadAs e.text.toList e.tokens := by
  induction e with
  | field path => exact readAs_field (forall_parts_field.mp h)
  | literal value => exact readAs_literal (forall_parts_literal.mp h)
  | call name arguments ih =>
    obtain ⟨hname, harguments⟩ := forall_parts_call.mp h
    have hpiece := readAs_call hname (ReadAs.list fun argument hmem =>
      ih argument hmem (harguments argument hmem))
    rw [← argumentsText_eq_intercalate, ← argumentsTokens_eq_intercalate] at hpiece
    simpa [text, tokens] using hpiece
  | comparison operator left right ihleft ihright =>
    obtain ⟨-, hleft, hright⟩ := forall_parts_comparison.mp h
    have hpiece := (ihleft hleft).blank ((readAs_comparison operator).blank (ihright hright))
    simpa [text, tokens] using hpiece
  | logical connective left right ihleft ihright =>
    obtain ⟨-, hleft, hright⟩ := forall_parts_logical.mp h
    have hpiece := (readAs_asOperand (ihleft hleft)).blank
      ((readAs_keyword connective.word).blank (readAs_asOperand (ihright hright)))
    simpa [text, tokens, Connective.text_word] using hpiece
  | negation operand ih =>
    obtain ⟨-, hoperand⟩ := forall_parts_negation.mp h
    have hpiece := (readAs_keyword .negation).blank (readAs_asOperand (ih hoperand))
    simpa [text, tokens, Keyword.text] using hpiece

/-! ### Spelling the expression -/

/-- The rank of an expression: the tightest one that it is spelled at without parentheses. -/
def rank : Expression → Rank
  | field _ | literal _ | call _ _ => .operand
  | comparison .. => .comparison
  | negation _ => .condition
  | logical .conjunction .. => .conjunction
  | logical .disjunction .. => .disjunction

/-- A spelling of any rank is one of the loosest. -/
theorem Spelled.disjunction_of {rank : Rank} {ts : List Token} {e : Expression}
    (h : e.Spelled rank ts) : e.Spelled .disjunction ts := by
  cases rank with
  | operand => exact .single (.condition (.plain (.alone h)))
  | comparison => exact .single (.condition (.plain h))
  | condition => exact .single (.condition h)
  | conjunction => exact .single h
  | disjunction => exact h

theorem IsPrimary.rank_eq {e : Expression} (h : e.IsPrimary) : e.rank = .operand := by
  cases e with
  | field | literal | call => rfl
  | _ => exact absurd h id

/-- In parentheses where it has to be, an expression is a condition. -/
theorem spelled_asOperandTokens {e : Expression} (h : e.Spelled e.rank e.tokens) :
    e.Spelled .condition (e.asOperandTokens e.tokens) := by
  cases e with
  | comparison => exact .plain (.alone (.group h.disjunction_of))
  | logical => exact .plain (.alone (.group h.disjunction_of))
  | negation => exact h
  | _ => exact .plain (.alone h)

theorem spelled_path {path : FieldPath} (h : path.segments ≠ []) :
    (field path).Spelled .operand path.tokens := by
  obtain ⟨_ | ⟨first, others⟩⟩ := path
  · exact absurd rfl h
  · exact .field first others

theorem spelled_token (value : Literal) : value.Spelled value.token := by
  cases value <;> constructor

/-- **The tokens of an expression spell it** when its paths have names and its comparisons compare
primary expressions. -/
theorem spelled_tokens {e : Expression} (hlegible : ∀ part ∈ e.parts, part.IsLegible)
    (h : ∀ part ∈ e.parts, part.ComparesPrimaries) : e.Spelled e.rank e.tokens := by
  induction e with
  | field path => exact spelled_path (forall_parts_field.mp hlegible).1
  | literal value => exact .literal (spelled_token value)
  | call name arguments ih =>
    obtain ⟨-, hlegiblearguments⟩ := forall_parts_call.mp hlegible
    obtain ⟨-, harguments⟩ := forall_parts_call.mp h
    have hpairs : ∀ pair ∈ arguments.map fun argument => (argument.tokens, argument),
        pair.2.Spelled .disjunction pair.1 := by
      intro pair hpair
      obtain ⟨argument, hargument, rfl⟩ := List.mem_map.mp hpair
      exact (ih argument hargument (hlegiblearguments argument hargument)
        (harguments argument hargument)).disjunction_of
    have hcall := Spelled.call name _ hpairs
    rw [tokens, parenthesized, argumentsTokens_eq_intercalate]
    simp only [List.map_map, Function.comp_def, List.map_id'] at hcall
    exact hcall
  | comparison operator left right ihleft ihright =>
    obtain ⟨-, hlegibleleft, hlegibleright⟩ := forall_parts_comparison.mp hlegible
    obtain ⟨⟨hprimaryleft, hprimaryright⟩, hleft, hright⟩ := forall_parts_comparison.mp h
    have hspelledleft := ihleft hlegibleleft hleft
    have hspelledright := ihright hlegibleright hright
    -- a primary expression is an operand as it is, without parentheses
    rw [hprimaryleft.rank_eq] at hspelledleft
    rw [hprimaryright.rank_eq] at hspelledright
    exact .comparison operator.spelled_token hspelledleft hspelledright
  | logical connective left right ihleft ihright =>
    obtain ⟨-, hlegibleleft, hlegibleright⟩ := forall_parts_logical.mp hlegible
    obtain ⟨-, hleft, hright⟩ := forall_parts_logical.mp h
    have hspelledleft := spelled_asOperandTokens (ihleft hlegibleleft hleft)
    have hspelledright := spelled_asOperandTokens (ihright hlegibleright hright)
    cases connective with
    | conjunction => exact .conjunction (.condition hspelledleft) hspelledright
    | disjunction =>
      exact .disjunction (.single (.condition hspelledleft)) (.condition hspelledright)
  | negation operand ih =>
    exact .negation (.inl rfl) (spelled_asOperandTokens
      (ih (forall_parts_negation.mp hlegible).2 (forall_parts_negation.mp h).2))

end Expression

end Notebook.Query
