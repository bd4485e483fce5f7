import Notebook.Proofs.Query.Completeness

/-!
# Reading is the grammar

The two halves put together, for whole texts: a text is read as a query exactly when it has tokens
and they spell the query (`Notebook.Query.parse_eq_ok_iff_spelled`), and the same for a text that
is one expression. Since reading gives at most one query, no tokens of a text spell two
(`Notebook.Query.Spelled.unique`).
-/

namespace Notebook.Query

theorem parse_eq_ok_iff_gives {source : String} {q : Query} :
    parse source = .ok q ↔ ∃ c c', Cursor.ofText source = .ok c ∧ c.query.Gives q c' := by
  unfold parse
  cases h : Cursor.ofText source with
  | error e => simp [bind, Except.bind]
  | ok c =>
    cases hq : c.query with
    | ok value next shrinks => simp [bind, Except.bind, hq, Reading.result, Reading.Gives]
    | error e stopped => simp [bind, Except.bind, hq, Reading.result, Reading.Gives]

theorem parseExpression_eq_ok_iff_gives {source : String} {e : Expression} :
    parseExpression source = .ok e ↔
      ∃ c c', Cursor.ofText source = .ok c ∧ c.wholeExpression.Gives e c' := by
  unfold parseExpression
  cases h : Cursor.ofText source with
  | error e => simp [bind, Except.bind]
  | ok c =>
    cases hq : c.wholeExpression with
    | ok value next shrinks => simp [bind, Except.bind, hq, Reading.result, Reading.Gives]
    | error e stopped => simp [bind, Except.bind, hq, Reading.result, Reading.Gives]

/-- A text is read as a query exactly when the tokens up to its end spell the query. -/
theorem parse_eq_ok_iff_reads {source : String} {q : Query} :
    parse source = .ok q ↔ ∃ c c' ts, Cursor.ofText source = .ok c ∧ c.Reads ts c' ∧
      c'.token = .endOfInput ∧ q.Spelled (ts ++ [.endOfInput]) := by
  rw [parse_eq_ok_iff_gives]
  constructor
  · rintro ⟨c, c', hc, hg⟩
    obtain ⟨he, ts, hts, hspelled⟩ := Cursor.query_spelled hg
    exact ⟨c, c', ts, hc, hts, he, hspelled⟩
  · rintro ⟨c, c', ts, hc, hts, he, hspelled⟩
    exact ⟨c, c', hc, Cursor.query_complete hspelled hts he⟩

/-- A text is read as an expression exactly when the tokens up to its end spell the expression. -/
theorem parseExpression_eq_ok_iff_reads {source : String} {e : Expression} :
    parseExpression source = .ok e ↔ ∃ c c' ts, Cursor.ofText source = .ok c ∧ c.Reads ts c' ∧
      c'.token = .endOfInput ∧ e.Spelled .disjunction ts := by
  rw [parseExpression_eq_ok_iff_gives]
  constructor
  · rintro ⟨c, c', hc, hg⟩
    obtain ⟨he, hend⟩ := Cursor.gives_wholeExpression.mp hg
    obtain ⟨ts, hts, hspelled⟩ := Cursor.expression_spelled he
    exact ⟨c, c', ts, hc, hts, hend, hspelled⟩
  · rintro ⟨c, c', ts, hc, hts, he, hspelled⟩
    refine ⟨c, c', hc, Cursor.gives_wholeExpression.mpr ⟨?_, he⟩⟩
    exact Cursor.expression_complete hspelled hts
      (by simp [Rank.Continues, he, Token.comparison?])

/-- A text whose tokens spell a query is read as that query. -/
theorem parse_of_spelled {source : String} {lexemes : List Lexeme} {q : Query}
    (hok : tokenize source = .ok lexemes) (hspelled : q.Spelled (lexemes.map Lexeme.token)) :
    parse source = .ok q := by
  obtain ⟨c, c', ts, hc, hts, he, hmap⟩ := exists_tokenize_iff.mp ⟨lexemes, hok, rfl⟩
  rw [hmap] at hspelled
  exact parse_eq_ok_iff_reads.mpr ⟨c, c', ts, hc, hts, he, hspelled⟩

/-- **The grammar is unambiguous**: the tokens of a text spell at most one query. -/
theorem Spelled.unique {source : String} {lexemes : List Lexeme} {p q : Query}
    (hok : tokenize source = .ok lexemes) (hp : p.Spelled (lexemes.map Lexeme.token))
    (hq : q.Spelled (lexemes.map Lexeme.token)) : p = q :=
  Except.ok.inj ((parse_of_spelled hok hp).symm.trans (parse_of_spelled hok hq))

/-- **Reading is the grammar**: a text is read as a query exactly when it has tokens and they spell
the query. -/
theorem parse_eq_ok_iff_spelled (source : String) (q : Query) :
    parse source = .ok q ↔
      ∃ lexemes, tokenize source = .ok lexemes ∧ q.Spelled (lexemes.map Lexeme.token) := by
  constructor
  · intro h
    obtain ⟨c, c', ts, hc, hts, he, hspelled⟩ := parse_eq_ok_iff_reads.mp h
    obtain ⟨lexemes, hok, hmap⟩ := exists_tokenize_iff.mpr ⟨c, c', ts, hc, hts, he, rfl⟩
    rw [← hmap] at hspelled
    exact ⟨lexemes, hok, hspelled⟩
  · rintro ⟨lexemes, hok, hspelled⟩
    exact parse_of_spelled hok hspelled

end Notebook.Query
