import Notebook.Proofs.Query.Cursor

/-!
# Runs of tokens

A reader looks at one token at a time and the lexer is asked for the next one only then. The tokens
between two cursors are `Notebook.Query.Cursor.Reads`; they never hold the end. A text has tokens
(`Notebook.Query.tokenize`) exactly when its first cursor reads, without a problem, up to a cursor
at the end (`Notebook.Query.exists_tokenize_iff`), so that a statement about whole token lists and
one about lazy reading are the same.
-/

namespace Notebook.Query

namespace Cursor

/-- **The tokens from one cursor to another one**, all of them read without a problem. -/
def Reads (c : Cursor) : List Token → Cursor → Prop
  | [], c' => c' = c
  | t :: ts, c' => c.token = t ∧ ∃ c₁, c.Steps c₁ ∧ c₁.Reads ts c'

@[simp] theorem reads_nil {c c' : Cursor} : c.Reads [] c' ↔ c' = c := Iff.rfl

@[simp] theorem reads_cons {c c' : Cursor} {t : Token} {ts : List Token} :
    c.Reads (t :: ts) c' ↔ c.token = t ∧ ∃ c₁, c.Steps c₁ ∧ c₁.Reads ts c' := Iff.rfl

@[simp] theorem reads_append {c c' : Cursor} {ts us : List Token} :
    c.Reads (ts ++ us) c' ↔ ∃ c₁, c.Reads ts c₁ ∧ c₁.Reads us c' := by
  induction ts generalizing c with
  | nil => simp
  | cons t ts ih =>
    simp only [List.cons_append, reads_cons, ih]
    constructor
    · rintro ⟨ht, c₁, hs, c₂, h₁, h₂⟩
      exact ⟨c₂, ⟨ht, c₁, hs, h₁⟩, h₂⟩
    · rintro ⟨c₂, ⟨ht, c₁, hs, h₁⟩, h₂⟩
      exact ⟨ht, c₁, hs, c₂, h₁, h₂⟩

/-- One token is read by one step. -/
theorem Steps.reads {c c' : Cursor} {t : Token} (h : c.Steps c') (ht : c.token = t) :
    c.Reads [t] c' := reads_cons.mpr ⟨ht, c', h, rfl⟩

theorem Reads.size_le {c c' : Cursor} {ts : List Token} (h : c.Reads ts c') : c'.size ≤ c.size := by
  induction ts generalizing c with
  | nil => exact Nat.le_of_eq (congrArg size (reads_nil.mp h))
  | cons t ts ih =>
    obtain ⟨-, c₁, hs, h₁⟩ := h
    exact Nat.le_trans (ih h₁) (Nat.le_of_lt hs.size_lt)

/-- **Tokens up to the end are determined** by where they are read from. -/
theorem Reads.unique {c c₁ c₂ : Cursor} {ts us : List Token} (h₁ : c.Reads ts c₁)
    (h₂ : c.Reads us c₂) (he₁ : c₁.token = .endOfInput) (he₂ : c₂.token = .endOfInput) :
    ts = us := by
  induction ts generalizing c us with
  | nil =>
    obtain rfl := reads_nil.mp h₁
    cases us with
    | nil => rfl
    | cons u us =>
      obtain ⟨-, d₂, hs₂, -⟩ := h₂
      exact absurd he₁ hs₂.1
  | cons t ts ih =>
    obtain ⟨rfl, d₁, hs₁, h₁⟩ := h₁
    cases us with
    | nil =>
      obtain rfl := reads_nil.mp h₂
      exact absurd he₂ hs₁.1
    | cons u us =>
      obtain ⟨rfl, d₂, hs₂, h₂⟩ := h₂
      -- one step from one cursor leads to one cursor
      obtain rfl := hs₁.unique hs₂
      rw [ih h₁ h₂]

end Cursor

/-! ### The tokens of a text -/

theorem Lexer.map_token_of_tokens {lexer : Lexer} {lexemes : List Lexeme}
    (h : lexer.tokens = .ok lexemes) : ∃ c c' ts, lexer.next = (.ok c.current, c.lexer) ∧
      Cursor.Reads c ts c' ∧ c'.token = .endOfInput ∧
      lexemes.map Lexeme.token = ts ++ [.endOfInput] := by
  fun_induction Lexer.tokens lexer generalizing lexemes with
  | case1 lexer e after heq => cases h
  | case2 lexer lexeme after heq hend =>
    obtain rfl := Except.ok.inj h
    exact ⟨⟨after, lexeme⟩, ⟨after, lexeme⟩, [], heq, rfl, hend, by simp [hend]⟩
  | case3 lexer lexeme after heq hend others hok ih =>
    obtain rfl := Except.ok.inj h
    obtain ⟨c, c', ts, hnext, hreads, hlast, hmap⟩ := ih hok
    exact ⟨⟨after, lexeme⟩, c', lexeme.token :: ts, heq, ⟨rfl, c, ⟨hend, hnext⟩, hreads⟩, hlast,
      by simp [hmap]⟩
  | case4 lexer lexeme after heq hend e herr ih => cases h

theorem Lexer.exists_tokens_of_reads {lexer : Lexer} {c c' : Cursor} {ts : List Token}
    (hnext : lexer.next = (.ok c.current, c.lexer)) (hreads : c.Reads ts c')
    (hlast : c'.token = .endOfInput) : ∃ lexemes, lexer.tokens = .ok lexemes ∧
      lexemes.map Lexeme.token = ts ++ [.endOfInput] := by
  induction ts generalizing lexer c with
  | nil =>
    obtain rfl := Cursor.reads_nil.mp hreads
    refine ⟨[c'.current], ?_, by simpa [Cursor.token] using hlast⟩
    rw [Lexer.tokens]
    split
    · next heq => simp [hnext] at heq
    · next lexeme after heq =>
      obtain ⟨rfl, -⟩ : c'.current = lexeme ∧ c'.lexer = after := by simpa [hnext] using heq
      exact dif_pos hlast
  | cons t ts ih =>
    obtain ⟨rfl, c₁, ⟨hne, hstep⟩, hreads⟩ := hreads
    obtain ⟨lexemes, hok, hmap⟩ := ih hstep hreads
    refine ⟨c.current :: lexemes, ?_, by simpa [Cursor.token] using hmap⟩
    rw [Lexer.tokens]
    split
    · next heq => simp [hnext] at heq
    · next lexeme after heq =>
      obtain ⟨rfl, rfl⟩ : c.current = lexeme ∧ c.lexer = after := by simpa [hnext] using heq
      rw [dif_neg (show ¬c.current.token = .endOfInput from hne), hok]

theorem Cursor.ofText_eq_ok {source : String} {c : Cursor} :
    Cursor.ofText source = .ok c ↔ (Lexer.ofText source).next = (.ok c.current, c.lexer) := by
  unfold Cursor.ofText
  split
  · next lexeme lexer heq =>
    rw [heq, Except.ok.injEq, Prod.mk.injEq, Except.ok.injEq]
    constructor
    · rintro rfl
      exact ⟨rfl, rfl⟩
    · rintro ⟨rfl, rfl⟩
      rfl
  · next heq => simp [heq]

/-- **A text has tokens exactly when reading comes to its end.** -/
theorem exists_tokenize_iff {source : String} {us : List Token} :
    (∃ lexemes, tokenize source = .ok lexemes ∧ lexemes.map Lexeme.token = us) ↔
      ∃ c c' ts, Cursor.ofText source = .ok c ∧ c.Reads ts c' ∧ c'.token = .endOfInput ∧
        us = ts ++ [.endOfInput] := by
  constructor
  · rintro ⟨lexemes, hok, rfl⟩
    obtain ⟨c, c', ts, hnext, hreads, hlast, hmap⟩ := Lexer.map_token_of_tokens hok
    exact ⟨c, c', ts, Cursor.ofText_eq_ok.mpr hnext, hreads, hlast, hmap⟩
  · rintro ⟨c, c', ts, hc, hreads, hlast, rfl⟩
    exact Lexer.exists_tokens_of_reads (Cursor.ofText_eq_ok.mp hc) hreads hlast

end Notebook.Query
