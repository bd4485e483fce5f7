import Notebook.Proofs.Query.ExpressionText

/-!
# Expressions that are read again

The text of an expression that was read is read again without a problem as far as its tokens go.
Whether these spell the same tree is decided by its comparisons: an operand that is neither a field
nor a literal nor a call would need parentheses, and the text has none for it
(`Notebook.Query.Expression.spelled_tokens_iff`).

That nothing else helps takes an argument. Spellings of one tree differ only in parentheses around
parts and in single tokens, so they cost the same (`Notebook.Query.cost`), whatever a parenthesis
and another token cost. Hence two spellings of a tree from the same tokens are split at the same
sign, and they have the same parentheses around the whole (`Notebook.Query.wrapped_inj`).
-/

namespace Notebook.Query

/-! ### The cost of tokens -/

/-- Whether a token is a parenthesis. -/
def Token.isParen : Token → Bool
  | .openParen | .closeParen => true
  | _ => false

/-- What a token costs: a closing parenthesis takes back what an opening one costs. -/
def Token.cost (paren other : Int) : Token → Int
  | .openParen => paren
  | .closeParen => -paren
  | _ => other

/-- **What tokens cost.** With `0` and `1` it is how many of them are no parentheses, with `1` and
`0` how many parentheses are left open. -/
def cost (paren other : Int) : List Token → Int
  | [] => 0
  | t :: ts => t.cost paren other + cost paren other ts

section

variable {paren other : Int}

@[simp] theorem cost_nil : cost paren other [] = 0 := rfl

@[simp] theorem cost_cons {t : Token} {ts : List Token} :
    cost paren other (t :: ts) = t.cost paren other + cost paren other ts := rfl

@[simp] theorem cost_append {ts us : List Token} :
    cost paren other (ts ++ us) = cost paren other ts + cost paren other us := by
  induction ts with
  | nil => simp
  | cons t ts ih =>
    rw [List.cons_append, cost_cons, cost_cons, ih]
    omega

theorem Token.cost_of_isParen {t : Token} (h : t.isParen = false) : t.cost paren other = other := by
  cases t <;> first | rfl | cases h

@[simp] theorem cost_parenthesized {ts : List Token} :
    cost paren other (parenthesized ts) = cost paren other ts := by
  simp only [parenthesized, cost_cons, cost_append, cost_nil, Token.cost]
  omega

@[simp] theorem cost_asOperandTokens (e : Expression) {ts : List Token} :
    cost paren other (e.asOperandTokens ts) = cost paren other ts := by
  cases e <;> simp [Expression.asOperandTokens]

theorem cost_intercalate {α : Type} {f g : α → List Token} {xs : List α}
    (h : ∀ x ∈ xs, cost paren other (f x) = cost paren other (g x)) :
    cost paren other ([Token.comma].intercalate (xs.map f)) =
      cost paren other ([Token.comma].intercalate (xs.map g)) := by
  induction xs with
  | nil => rfl
  | cons x xs ih =>
    obtain ⟨hx, hxs⟩ := List.forall_mem_cons.mp h
    by_cases hempty : xs = []
    · simpa [hempty] using hx
    · rw [List.map_cons, List.map_cons, List.intercalate_cons_of_ne_nil (by simpa using hempty),
        List.intercalate_cons_of_ne_nil (by simpa using hempty)]
      simp [hx, ih hxs]

theorem Literal.Spelled.isParen {t : Token} {value : Literal} (h : value.Spelled t) :
    t.isParen = false := by
  cases h <;> rfl

theorem Comparison.Spelled.isParen {t : Token} {operator : Comparison} (h : operator.Spelled t) :
    t.isParen = false := by
  cases h <;> rfl

theorem isParen_of_negation {t : Token} (h : t = .keyword .negation ∨ t = .bang) :
    t.isParen = false := by
  rcases h with rfl | rfl <;> rfl

/-- **All spellings of an expression cost the same.** -/
theorem Expression.Spelled.cost_eq {rank : Rank} {ts : List Token} {e : Expression}
    (h : e.Spelled rank ts) : cost paren other ts = cost paren other e.tokens := by
  induction h with
  | @literal t value h =>
    have htoken : value.token.isParen = false := by cases value <;> rfl
    simp [tokens, Token.cost_of_isParen h.isParen, Token.cost_of_isParen htoken]
  | field first others => rfl
  | call name arguments _ ih =>
    have hlist := cost_intercalate (f := Prod.fst)
      (g := fun argument : List Token × Expression => argument.2.tokens) ih
    have hmap : (arguments.map Prod.snd).map tokens =
        arguments.map fun argument => argument.2.tokens := by
      rw [List.map_map]
      rfl
    rw [tokens, argumentsTokens_eq_intercalate, hmap]
    simp only [cost_cons, cost_append, cost_nil, cost_parenthesized, hlist, Token.cost]
    omega
  | @group ts e _ ih =>
    rw [← ih]
    exact cost_parenthesized
  | alone _ ih => exact ih
  | @comparison t operator _ _ _ _ hoperator _ _ ihleft ihright =>
    have htoken := operator.spelled_token.isParen
    simp [tokens, ihleft, ihright, Token.cost_of_isParen hoperator.isParen,
      Token.cost_of_isParen htoken]
  | plain _ ih => exact ih
  | @negation t _ _ hsign _ ih =>
    have ht : t.cost paren other = other := Token.cost_of_isParen (isParen_of_negation hsign)
    have hword : (Token.keyword .negation).cost paren other = other := rfl
    simp [tokens, ih, ht, hword]
  | condition _ ih => exact ih
  | conjunction _ _ ihleft ihright => simp [tokens, ihleft, ihright, Connective.word]
  | single _ ih => exact ih
  | disjunction _ _ ihleft ihright => simp [tokens, ihleft, ihright, Connective.word]

end

/-! ### Splitting at a sign -/

/-- No token that is not a parenthesis is for free. -/
theorem cost_nonneg (ts : List Token) : 0 ≤ cost 0 1 ts := by
  induction ts with
  | nil => simp
  | cons t ts ih => cases t <;> simp [Token.cost] <;> omega

/-- Equal tokens are split at the same sign when what is in front of it costs the same. -/
theorem split_unique {us us' vs vs' : List Token} {t t' : Token} (ht : t.isParen = false)
    (ht' : t'.isParen = false) (hcost : cost 0 1 us = cost 0 1 us')
    (h : us ++ t :: vs = us' ++ t' :: vs') : us = us' ∧ t = t' ∧ vs = vs' := by
  induction us generalizing us' with
  | nil =>
    cases us' with
    | nil =>
      obtain ⟨rfl, rfl⟩ := List.cons.inj h
      exact ⟨rfl, rfl, rfl⟩
    | cons u us' =>
      -- the sign itself would be in front of the other one, and it is not for free
      obtain ⟨rfl, -⟩ := List.cons.inj h
      have hnonneg := cost_nonneg us'
      simp [Token.cost_of_isParen ht] at hcost
      omega
  | cons u us ih =>
    cases us' with
    | nil =>
      obtain ⟨rfl, -⟩ := List.cons.inj h
      have hnonneg := cost_nonneg us
      simp [Token.cost_of_isParen ht'] at hcost
      omega
    | cons u' us' =>
      obtain ⟨rfl, htail⟩ := List.cons.inj h
      obtain ⟨rfl, rfl, rfl⟩ := ih (by simpa using hcost) htail
      exact ⟨rfl, rfl, rfl⟩

/-- Tokens in several parentheses. -/
def wrapped : Nat → List Token → List Token
  | 0, ts => ts
  | k + 1, ts => parenthesized (wrapped k ts)

theorem wrapped_eq_append (k : Nat) (ts : List Token) :
    wrapped k ts = List.replicate k .openParen ++ (ts ++ List.replicate k .closeParen) := by
  induction k with
  | zero => simp [wrapped]
  | succ k ih =>
    rw [wrapped, ih, parenthesized, List.replicate_succ, List.replicate_succ']
    simp

theorem cost_replicate_openParen (k : Nat) {paren other : Int} :
    cost paren other (List.replicate k .openParen) = k * paren := by
  induction k with
  | zero => simp
  | succ k ih =>
    rw [List.replicate_succ, cost_cons, ih, Int.natCast_succ, Int.add_mul, Int.one_mul]
    exact Int.add_comm _ _

/-- **Parentheses around the whole are determined**, and so is the sign that splits what is in
them. -/
theorem wrapped_inj {j k : Nat} {us us' vs vs' : List Token} {t t' : Token} (ht : t.isParen = false)
    (ht' : t'.isParen = false) (hcost : ∀ paren other, cost paren other us = cost paren other us')
    (h : wrapped j (us ++ t :: vs) = wrapped k (us' ++ t' :: vs')) :
    j = k ∧ us = us' ∧ vs = vs' := by
  have hsplit :
      (List.replicate j Token.openParen ++ us) ++ t :: (vs ++ List.replicate j .closeParen) =
        (List.replicate k Token.openParen ++ us') ++
          t' :: (vs' ++ List.replicate k .closeParen) := by
    simpa [wrapped_eq_append] using h
  have hsame : cost 0 1 (List.replicate j Token.openParen ++ us) =
      cost 0 1 (List.replicate k Token.openParen ++ us') := by
    simp [cost_replicate_openParen, hcost]
  obtain ⟨hfront, -, hback⟩ := split_unique ht ht' hsame hsplit
  -- the fronts are the same, and the parentheses they leave open are those around the whole
  have hparens := congrArg (cost 1 0) hfront
  simp only [cost_append, cost_replicate_openParen, hcost] at hparens
  obtain rfl : j = k := by omega
  exact ⟨rfl, List.append_cancel_left hfront, List.append_cancel_right hback⟩

/-! ### The root of a spelling -/

namespace Expression

/-- **The tokens that the root of an expression makes** of spellings of what is below it. -/
def Built : Expression → List Token → Prop
  | field path, ts => ts = path.tokens
  | literal _, ts => ∃ t, ts = [t]
  | call name arguments, ts => ∃ pairs : List (List Token × Expression),
      arguments = pairs.map Prod.snd ∧ (∀ pair ∈ pairs, pair.2.Spelled .disjunction pair.1) ∧
        ts = .identifier name :: parenthesized ([Token.comma].intercalate (pairs.map Prod.fst))
  | comparison _ left right, ts => ∃ t us vs, t.isParen = false ∧ left.Spelled .operand us ∧
      right.Spelled .operand vs ∧ ts = us ++ t :: vs
  | logical _ left right, ts => ∃ t rank rank' us vs, t.isParen = false ∧ left.Spelled rank us ∧
      right.Spelled rank' vs ∧ ts = us ++ t :: vs
  | negation operand, ts => ∃ t rank us, t.isParen = false ∧ operand.Spelled rank us ∧ ts = t :: us

/-- **A spelling is what the root makes, in parentheses**; as an operand, an expression that is not
primary has some. -/
theorem Spelled.exists_built {rank : Rank} {ts : List Token} {e : Expression}
    (h : e.Spelled rank ts) :
    ∃ k us, e.Built us ∧ ts = wrapped k us ∧ (rank = .operand → k = 0 → e.IsPrimary) := by
  induction h with
  | @literal t value h => exact ⟨0, [t], ⟨t, rfl⟩, rfl, fun _ _ => trivial⟩
  | field first others => exact ⟨0, _, rfl, rfl, fun _ _ => trivial⟩
  | call name arguments harguments _ =>
    exact ⟨0, _, ⟨arguments, rfl, harguments, rfl⟩, rfl, fun _ _ => trivial⟩
  | group _ ih =>
    obtain ⟨k, us, hbuilt, rfl, -⟩ := ih
    exact ⟨k + 1, us, hbuilt, rfl, fun _ h => absurd h (Nat.succ_ne_zero k)⟩
  | comparison hoperator hleft hright _ _ =>
    exact ⟨0, _, ⟨_, _, _, hoperator.isParen, hleft, hright, rfl⟩, rfl, by simp⟩
  | negation hsign hoperand _ =>
    exact ⟨0, _, ⟨_, _, _, isParen_of_negation hsign, hoperand, rfl⟩, rfl, by simp⟩
  | conjunction hleft hright _ _ | disjunction hleft hright _ _ =>
    exact ⟨0, _, ⟨_, _, _, _, _, rfl, hleft, hright, rfl⟩, rfl, by simp⟩
  | alone _ ih | plain _ ih | condition _ ih | single _ ih =>
    obtain ⟨k, us, hbuilt, hts, -⟩ := ih
    exact ⟨k, us, hbuilt, hts, by simp⟩

theorem asOperandTokens_eq_wrapped (e : Expression) (ts : List Token) :
    ∃ k, e.asOperandTokens ts = wrapped k ts := by
  cases e with
  | comparison | logical => exact ⟨1, rfl⟩
  | _ => exact ⟨0, rfl⟩

/-- Arguments that are spelled by the same tokens are spelled by the same ones each. -/
theorem intercalate_inj {pairs : List (List Token × Expression)}
    (h : ∀ pair ∈ pairs, pair.2.Spelled .disjunction pair.1)
    (heq : [Token.comma].intercalate (pairs.map Prod.fst) =
      [Token.comma].intercalate (pairs.map fun pair => pair.2.tokens)) :
    ∀ pair ∈ pairs, pair.1 = pair.2.tokens := by
  induction pairs with
  | nil => simp
  | cons pair pairs ih =>
    obtain ⟨hpair, hpairs⟩ := List.forall_mem_cons.mp h
    by_cases hempty : pairs = []
    · simpa [hempty] using heq
    · rw [List.map_cons, List.map_cons, List.intercalate_cons_of_ne_nil (by simpa using hempty),
        List.intercalate_cons_of_ne_nil (by simpa using hempty), List.append_assoc,
        List.append_assoc, List.singleton_append, List.singleton_append] at heq
      obtain ⟨hfirst, -, hothers⟩ := split_unique rfl rfl hpair.cost_eq heq
      exact List.forall_mem_cons.mpr ⟨hfirst, ih hpairs hothers⟩

/-- **A comparison compares primary expressions** wherever the tokens of the canonical text spell
the expression, in parentheses or not; and without any, an operand is primary itself. -/
theorem comparesPrimaries_of_spelled {e : Expression} {k : Nat} {rank : Rank}
    (h : e.Spelled rank (wrapped k e.tokens)) :
    (∀ part ∈ e.parts, part.ComparesPrimaries) ∧ (rank = .operand → k = 0 → e.IsPrimary) := by
  induction e generalizing k rank with
  | field path => exact ⟨forall_parts_field.mpr trivial, fun _ _ => trivial⟩
  | literal value => exact ⟨forall_parts_literal.mpr trivial, fun _ _ => trivial⟩
  | call name arguments ih =>
    refine ⟨forall_parts_call.mpr ⟨trivial, ?_⟩, fun _ _ => trivial⟩
    obtain ⟨j, us, ⟨pairs, rfl, hpairs, rfl⟩, heq, -⟩ := h.exists_built
    have hsplit : wrapped k ([] ++ _ :: _) = wrapped j ([] ++ _ :: _) := heq
    obtain ⟨rfl, -, hparens⟩ := wrapped_inj rfl rfl (fun _ _ => rfl) hsplit
    -- what is left are two lists of arguments from the same tokens
    have hlist := List.append_cancel_right (List.cons.inj hparens).2
    rw [argumentsTokens_eq_intercalate, List.map_map] at hlist
    have heach := intercalate_inj hpairs hlist.symm
    intro argument hargument
    obtain ⟨pair, hpair, rfl⟩ := List.mem_map.mp hargument
    have hspelled := hpairs pair hpair
    rw [heach pair hpair] at hspelled
    exact (ih pair.2 hargument (k := 0) hspelled).1
  | comparison operator left right ihleft ihright =>
    obtain ⟨j, us, ⟨t, us, vs, ht, hleft, hright, rfl⟩, heq, hprimary⟩ := h.exists_built
    have hoperator := operator.spelled_token.isParen
    obtain ⟨rfl, rfl, rfl⟩ := wrapped_inj hoperator ht (fun _ _ => hleft.cost_eq.symm) heq
    -- the canonical tokens of both operands spell them without any parentheses
    obtain ⟨hpartsleft, hprimaryleft⟩ := ihleft (k := 0) hleft
    obtain ⟨hpartsright, hprimaryright⟩ := ihright (k := 0) hright
    exact ⟨forall_parts_comparison.mpr ⟨⟨hprimaryleft rfl rfl, hprimaryright rfl rfl⟩, hpartsleft,
      hpartsright⟩, hprimary⟩
  | logical connective left right ihleft ihright =>
    obtain ⟨j, us, ⟨t, rank, rank', us, vs, ht, hleft, hright, rfl⟩, heq, hprimary⟩ :=
      h.exists_built
    obtain ⟨rfl, rfl, rfl⟩ := wrapped_inj rfl ht (fun _ _ => by simp [hleft.cost_eq]) heq
    obtain ⟨i, hi⟩ := left.asOperandTokens_eq_wrapped left.tokens
    obtain ⟨i', hi'⟩ := right.asOperandTokens_eq_wrapped right.tokens
    rw [hi] at hleft
    rw [hi'] at hright
    exact ⟨forall_parts_logical.mpr ⟨trivial, (ihleft hleft).1, (ihright hright).1⟩, hprimary⟩
  | negation operand ih =>
    obtain ⟨j, us, ⟨t, rank, us, ht, hoperand, rfl⟩, heq, hprimary⟩ := h.exists_built
    have hsplit : wrapped k ([] ++ _ :: _) = wrapped j ([] ++ _ :: _) := heq
    obtain ⟨rfl, -, rfl⟩ := wrapped_inj rfl ht (fun _ _ => rfl) hsplit
    obtain ⟨i, hi⟩ := operand.asOperandTokens_eq_wrapped operand.tokens
    rw [hi] at hoperand
    exact ⟨forall_parts_negation.mpr ⟨trivial, (ih hoperand).1⟩, hprimary⟩

/-- **The tokens of a legible expression spell it** exactly when its comparisons compare primary
expressions. -/
theorem spelled_tokens_iff {e : Expression} (h : ∀ part ∈ e.parts, part.IsLegible) :
    e.Spelled .disjunction e.tokens ↔ ∀ part ∈ e.parts, part.ComparesPrimaries := by
  constructor
  · intro hspelled
    exact (comparesPrimaries_of_spelled (k := 0) hspelled).1
  · intro hparts
    exact (spelled_tokens h hparts).disjunction_of

end Expression

/-! ### Reading twice -/

theorem isLegible_of_tokensOf {cs : List Char} {ts : List Token} (h : tokensOf cs = some ts)
    (hreal : ∀ x, .real x ∉ ts) : ∀ t ∈ ts, t.IsLegible := by
  intro t ht
  cases t with
  | identifier name => exact lexesAs_identifier_iff.mpr (isWord_of_identifier h ht)
  | real x => exact absurd ht (hreal x)
  | _ => trivial

/-- The text of a legible expression is read as the expression exactly when its tokens spell it. -/
theorem parseExpression_text_iff_spelled {e : Expression} (h : ∀ part ∈ e.parts, part.IsLegible) :
    parseExpression e.text = .ok e ↔ e.Spelled .disjunction e.tokens := by
  have htokens := (Expression.readAs_text h).tokensOf
  rw [parseExpression_eq_ok_iff]
  constructor
  · rintro ⟨ts, hts, hspelled⟩
    obtain rfl := Option.some.inj (htokens.symm.trans hts)
    exact hspelled
  · intro hspelled
    exact ⟨e.tokens, htokens, hspelled⟩

/-- **An expression that was read, without numbers with a point, is read again from its own text**
exactly when no comparison in it compares a comparison, a connective or a negation. -/
theorem parseExpression_text_iff {source : String} {lexemes : List Lexeme} {e : Expression}
    (htokens : tokenize source = .ok lexemes)
    (hreal : ∀ x, .real x ∉ lexemes.map Lexeme.token) (h : parseExpression source = .ok e) :
    parseExpression e.text = .ok e ↔ ∀ part ∈ e.parts, part.ComparesPrimaries := by
  obtain ⟨ts, hts, hspelled⟩ := parseExpression_eq_ok_iff.mp h
  obtain ⟨us, hus, heq⟩ := (Lexer.exists_tokens_iff (.ofText source) _).mp ⟨lexemes, htokens, rfl⟩
  obtain rfl := Option.some.inj (hts.symm.trans hus)
  have hlegible := Expression.isLegible_of_spelled hspelled
    (isLegible_of_tokensOf hts fun x hx => hreal x (heq ▸ List.mem_append_left _ hx))
  rw [parseExpression_text_iff_spelled hlegible, Expression.spelled_tokens_iff hlegible]

theorem readAs_conjunction : ReadAs "a AND b".toList
    [.identifier "a", .keyword .conjunction, .identifier "b"] :=
  (@readAs_word ['a'] rfl).blank ((readAs_keyword .conjunction).blank (@readAs_word ['b'] rfl))

/-- A conjunction of two fields. -/
def conjunctionOfFields : Expression :=
  .logical .conjunction (.field ⟨["a"]⟩) (.field ⟨["b"]⟩)

theorem Expression.spelled_name (name : String) :
    (Expression.field ⟨[name]⟩).Spelled .operand [.identifier name] := .field name []

theorem spelled_conjunctionOfFields : conjunctionOfFields.Spelled .conjunction
    [.identifier "a", .keyword .conjunction, .identifier "b"] :=
  .conjunction (.condition (.plain (.alone (Expression.spelled_name "a"))))
    (.plain (.alone (Expression.spelled_name "b")))

/-- A conjunction compares nothing, so it is read again. -/
theorem parseExpression_text_conjunctionOfFields :
    ∃ lexemes, tokenize "a AND b" = .ok lexemes ∧ (∀ x, .real x ∉ lexemes.map Lexeme.token) ∧
      parseExpression "a AND b" = .ok conjunctionOfFields ∧
      (parseExpression conjunctionOfFields.text = .ok conjunctionOfFields ↔
        ∀ part ∈ conjunctionOfFields.parts, part.ComparesPrimaries) := by
  have htokens := readAs_conjunction.tokensOf
  obtain ⟨lexemes, hlexemes, hmap⟩ :=
    (Lexer.exists_tokens_iff (.ofText "a AND b") _).mpr ⟨_, htokens, rfl⟩
  have hreal : ∀ x, .real x ∉ lexemes.map Lexeme.token := by simp [hmap]
  have hparse : parseExpression "a AND b" = .ok conjunctionOfFields :=
    parseExpression_eq_ok_iff.mpr ⟨_, htokens, spelled_conjunctionOfFields.disjunction_of⟩
  exact ⟨lexemes, hlexemes, hreal, hparse, parseExpression_text_iff hlexemes hreal hparse⟩

/-- A conjunction that is compared to a field. -/
def comparedConjunction : Expression := .comparison .equal conjunctionOfFields (.field ⟨["c"]⟩)

/-- **The text of a compared conjunction is read as another expression**, since it has no
parentheses: one that compares what was the right side of the conjunction. -/
theorem parseExpression_comparedConjunction :
    parseExpression "(a AND b) = c" = .ok comparedConjunction ∧
      comparedConjunction.text = "a AND b = c" ∧
      parseExpression comparedConjunction.text = .ok (.logical .conjunction (.field ⟨["a"]⟩)
        (.comparison .equal (.field ⟨["b"]⟩) (.field ⟨["c"]⟩))) ∧
      parseExpression comparedConjunction.text ≠ .ok comparedConjunction := by
  have hright : ReadAs "= c".toList [.equal, .identifier "c"] :=
    (readAs_comparison .equal).blank (@readAs_word ['c'] rfl)
  have htext : comparedConjunction.text = "a AND b = c" := by decide
  have hfirst : parseExpression "(a AND b) = c" = .ok comparedConjunction :=
    parseExpression_eq_ok_iff.mpr
      ⟨_, (readAs_conjunction.parentheses.blank hright).tokensOf,
        (Expression.Spelled.comparison .equal (.group (.single spelled_conjunctionOfFields))
          (Expression.spelled_name "c")).disjunction_of⟩
  have hsecond : parseExpression "a AND b = c" = .ok (.logical .conjunction (.field ⟨["a"]⟩)
      (.comparison .equal (.field ⟨["b"]⟩) (.field ⟨["c"]⟩))) :=
    parseExpression_eq_ok_iff.mpr
      ⟨_, (readAs_conjunction.blank hright).tokensOf,
        (Expression.Spelled.conjunction (.condition (.plain (.alone (Expression.spelled_name "a"))))
          (.plain (.comparison .equal (Expression.spelled_name "b")
            (Expression.spelled_name "c")))).disjunction_of⟩
  rw [htext]
  refine ⟨hfirst, rfl, hsecond, fun h => ?_⟩
  cases hsecond.symm.trans h

end Notebook.Query
