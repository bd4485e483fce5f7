import Notebook.Proofs.Query.Parsing

/-!
# The tokens of characters

Places do not change which tokens a text has, so they are left out here: `Notebook.Query.tokensOf`
is the list of tokens of some characters without the end, or nothing when one of them is not read.
Then what a piece of text contributes is an equation, `tokensOf (piece ++ rest) = (tokensOf
rest).map (ts ++ ·)` for every `rest` that the piece does not run into, and the equations of
neighbouring pieces compose.

Each kind of piece has its equation: white space, signs, words, numbers, texts in quotes, tags and
links.
-/

namespace Notebook.Query

open Unicode

/-! ### Tokens without their places -/

/-- **The tokens of characters**, without the end. -/
def tokensOf (cs : List Char) : Option (List Token) :=
  match _h : (scan (cs.dropWhile isWhiteSpace)).outcome with
  | .error _ => none
  | .ok t =>
    if _hend : t = .endOfInput then some []
    else (tokensOf (scan (cs.dropWhile isWhiteSpace)).rest).map (t :: ·)
termination_by cs.length
decreasing_by
  -- a token takes a character at least, and the blanks before it only add to that
  have htaken := List.length_pos_iff.mpr (scan_progress _h _hend)
  have hsplit := congrArg List.length (scan_split (cs.dropWhile isWhiteSpace))
  have hblank := congrArg List.length
    (List.takeWhile_append_dropWhile (p := isWhiteSpace) (l := cs))
  simp only [List.length_append] at hsplit hblank
  omega

theorem tokensOf_of_error {cs : List Char} {e : Problem × Nat}
    (h : (scan (cs.dropWhile isWhiteSpace)).outcome = .error e) : tokensOf cs = none := by
  rw [tokensOf]
  split
  · rfl
  · next heq => exact absurd (h.symm.trans heq) (by simp)

theorem tokensOf_of_end {cs : List Char}
    (h : (scan (cs.dropWhile isWhiteSpace)).outcome = .ok .endOfInput) : tokensOf cs = some [] := by
  rw [tokensOf]
  split
  · next heq => exact absurd (h.symm.trans heq) (by simp)
  · next t heq => rw [dif_pos (Except.ok.inj (heq.symm.trans h))]

theorem tokensOf_of_token {cs : List Char} {t : Token}
    (h : (scan (cs.dropWhile isWhiteSpace)).outcome = .ok t) (ht : t ≠ .endOfInput) :
    tokensOf cs = (tokensOf (scan (cs.dropWhile isWhiteSpace)).rest).map (t :: ·) := by
  rw [tokensOf]
  split
  · next heq => exact absurd (h.symm.trans heq) (by simp)
  · next u heq =>
    obtain rfl := Except.ok.inj (h.symm.trans heq)
    rw [dif_neg ht]

theorem Lexer.scan_of_next {lexer after : Lexer} {lexeme : Lexeme}
    (h : lexer.next = (.ok lexeme, after)) :
    (scan (lexer.rest.dropWhile isWhiteSpace)).outcome = .ok lexeme.token ∧
      (scan (lexer.rest.dropWhile isWhiteSpace)).rest = after.rest := by
  unfold Lexer.next at h
  dsimp only [Lexer.skipBlanks] at h
  split at h
  · next t heq =>
    obtain ⟨hlexeme, rfl⟩ := Prod.mk.inj h
    obtain rfl := Except.ok.inj hlexeme
    exact ⟨heq, rfl⟩
  · cases h

theorem Lexer.scan_of_next_error {lexer after : Lexer} {e : SyntaxError}
    (h : lexer.next = (.error e, after)) :
    ∃ problem, (scan (lexer.rest.dropWhile isWhiteSpace)).outcome = .error problem := by
  unfold Lexer.next at h
  dsimp only [Lexer.skipBlanks] at h
  split at h
  · cases h
  · next heq => exact ⟨_, heq⟩

/-- A lexer has tokens exactly when its characters have, and then they are the same up to the end.
-/
theorem Lexer.exists_tokens_iff (lexer : Lexer) (us : List Token) :
    (∃ lexemes, lexer.tokens = .ok lexemes ∧ lexemes.map Lexeme.token = us) ↔
      ∃ ts, tokensOf lexer.rest = some ts ∧ us = ts ++ [.endOfInput] := by
  fun_induction Lexer.tokens lexer generalizing us with
  | case1 lexer e after heq =>
    obtain ⟨problem, hscan⟩ := Lexer.scan_of_next_error heq
    simp [tokensOf_of_error hscan]
  | case2 lexer lexeme after heq hend =>
    obtain ⟨hscan, -⟩ := Lexer.scan_of_next heq
    simp [tokensOf_of_end (hend ▸ hscan), hend, eq_comm]
  | case3 lexer lexeme after heq hend lexemes hok ih =>
    obtain ⟨hscan, hrest⟩ := Lexer.scan_of_next heq
    rw [tokensOf_of_token hscan hend, hrest]
    obtain ⟨ts, hts, hmap⟩ := (ih _).mp ⟨lexemes, hok, rfl⟩
    simp [hts, hmap, eq_comm]
  | case4 lexer lexeme after heq hend e herr ih =>
    obtain ⟨hscan, hrest⟩ := Lexer.scan_of_next heq
    rw [tokensOf_of_token hscan hend, hrest]
    cases hts : tokensOf after.rest with
    | none => simp
    | some ts =>
      obtain ⟨lexemes, hok, -⟩ := (ih _).mpr ⟨ts, hts, rfl⟩
      exact absurd (herr.symm.trans hok) (by simp)

/-- The characters of a text have tokens exactly when reading comes to its end. -/
theorem tokensOf_eq_some_iff {source : String} {ts : List Token} :
    tokensOf source.toList = some ts ↔
      ∃ c c', Cursor.ofText source = .ok c ∧ c.Reads ts c' ∧ c'.token = .endOfInput := by
  have h := Lexer.exists_tokens_iff (Lexer.ofText source) (ts ++ [.endOfInput])
  have hreads := @exists_tokenize_iff source (ts ++ [.endOfInput])
  simp only [tokenize] at hreads
  rw [h] at hreads
  simpa [Lexer.ofText] using hreads

/-- **Reading a query**, in terms of characters and the grammar. -/
theorem parse_eq_ok_iff {source : String} {q : Query} :
    parse source = .ok q ↔
      ∃ ts, tokensOf source.toList = some ts ∧ q.Spelled (ts ++ [.endOfInput]) := by
  rw [parse_eq_ok_iff_reads]
  constructor
  · rintro ⟨c, c', ts, hc, hts, he, hspelled⟩
    exact ⟨ts, tokensOf_eq_some_iff.mpr ⟨c, c', hc, hts, he⟩, hspelled⟩
  · rintro ⟨ts, hts, hspelled⟩
    obtain ⟨c, c', hc, hus, he⟩ := tokensOf_eq_some_iff.mp hts
    exact ⟨c, c', ts, hc, hus, he, hspelled⟩

/-- **Reading an expression**, in terms of characters and the grammar. -/
theorem parseExpression_eq_ok_iff {source : String} {e : Expression} :
    parseExpression source = .ok e ↔
      ∃ ts, tokensOf source.toList = some ts ∧ e.Spelled .disjunction ts := by
  rw [parseExpression_eq_ok_iff_reads]
  constructor
  · rintro ⟨c, c', ts, hc, hts, he, hspelled⟩
    exact ⟨ts, tokensOf_eq_some_iff.mpr ⟨c, c', hc, hts, he⟩, hspelled⟩
  · rintro ⟨ts, hts, hspelled⟩
    obtain ⟨c, c', hc, hus, he⟩ := tokensOf_eq_some_iff.mp hts
    exact ⟨c, c', ts, hc, hus, he, hspelled⟩

end Notebook.Query
