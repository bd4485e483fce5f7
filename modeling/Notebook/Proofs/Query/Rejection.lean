import Mathlib
import Notebook.Proofs.Query.Viability

/-!
# Where a query text is refused

The place that comes with a syntax error is a place of the text, told by its offset alone, and
nothing in front of it is at fault: the tokens that end there or before
(`Notebook.Query.tokensBefore`) are the first tokens of a text that is read as a query. This is
`Notebook.Query.parse_eq_error`.

That the tokens can be completed is what the readers track (`Notebook.Query.Cursor.tracks_query`).
Here it is shown that what they blame is where they have come to: the tokens read on the way there
are those that end in front of the place (`Notebook.Query.Cursor.Blames.eq_filter`), and each of
them can be written again (`Notebook.Query.Cursor.Blames.writable`).
-/

namespace Notebook.Query

/-! ### The tokens of any text -/

namespace Lexer

variable {lexer after : Lexer} {lexeme : Lexeme}

/-- **The lexemes from a place on**, up to the end of the text or the first problem. The end is not
one of them. -/
def lexemes (lexer : Lexer) : List Lexeme :=
  match _h : lexer.next with
  | (.error _, _) => []
  | (.ok lexeme, after) =>
    if _hend : lexeme.token = .endOfInput then [] else lexeme :: lexemes after
termination_by lexer.rest.length
decreasing_by
  have h := @length_rest_next_lt lexer lexeme (by rw [_h]) _hend
  rwa [_h] at h

theorem lexemes_of_error {e : SyntaxError} (h : lexer.next = (.error e, after)) :
    lexer.lexemes = [] := by
  rw [lexemes]
  split
  · rfl
  · next heq => cases h.symm.trans heq

theorem lexemes_of_end (h : lexer.next = (.ok lexeme, after))
    (hend : lexeme.token = .endOfInput) : lexer.lexemes = [] := by
  rw [lexemes]
  split
  · rfl
  · next first others heq =>
    obtain ⟨rfl, -⟩ : lexeme = first ∧ after = others := by simpa [h] using heq
    exact dif_pos hend

theorem lexemes_of_token (h : lexer.next = (.ok lexeme, after))
    (hne : lexeme.token ≠ .endOfInput) : lexer.lexemes = lexeme :: after.lexemes := by
  rw [lexemes]
  split
  · next heq => cases h.symm.trans heq
  · next first others heq =>
    obtain ⟨rfl, rfl⟩ : lexeme = first ∧ after = others := by simpa [h] using heq
    exact dif_neg hne

/-- Every lexeme from a place on ends behind it. -/
theorem lt_stop_of_mem (hmem : lexeme ∈ lexer.lexemes) : lexer.position.offset < lexeme.stop := by
  fun_induction Lexer.lexemes lexer with
  | case1 lexer e after heq => cases hmem
  | case2 lexer first after heq hend => cases hmem
  | case3 lexer first after heq hend ih =>
    obtain ⟨hle, hstop⟩ := offset_of_next heq
    rcases List.mem_cons.mp hmem with rfl | hmem
    · have hlength := List.length_pos_iff.mpr (text_ne_nil heq hend)
      rw [Lexeme.stop]
      omega
    · have hlt := ih hmem
      rw [hstop, Lexeme.stop] at hlt
      omega

end Lexer

/-- **The tokens of a text that end at an offset or before it.** -/
def tokensBefore (source : String) (offset : Nat) : List Token :=
  ((Lexer.ofText source).lexemes.filter fun lexeme => lexeme.stop ≤ offset).map Lexeme.token

/-! ### What is blamed -/

namespace Cursor

variable {lexer : Lexer} {c : Cursor} {ts : List Token} {e : SyntaxError} {source : List Char}

/-- Where no token can be read behind one, the place to blame is behind it. -/
theorem stop_le_offset {after : Lexer} (hnext : lexer.next = (.ok c.current, c.lexer))
    (herror : c.lexer.next = (.error e, after)) : c.current.stop ≤ e.position.offset := by
  obtain ⟨taken, -, hplace⟩ := Lexer.next_eq_error herror
  rw [hplace, offset_advance, (Lexer.offset_of_next hnext).2]
  exact Nat.le_add_right _ _

/-- The place to blame is not in front of the token that is looked at. -/
theorem Blames.le_offset (h : c.Blames ts e) (hnext : lexer.next = (.ok c.current, c.lexer)) :
    c.current.position.offset ≤ e.position.offset := by
  induction h generalizing lexer with
  | here hplace => exact Nat.le_of_eq (congrArg Position.offset hplace.symm)
  | behind _ herror =>
    exact Nat.le_trans (Nat.le_add_right _ _) (stop_le_offset hnext herror)
  | step hs _ ih =>
    have hle := ih hs.2
    obtain ⟨hbefore, -⟩ := Lexer.offset_of_next hs.2
    rw [(Lexer.offset_of_next hnext).2, Lexeme.stop] at hbefore
    omega

theorem Blames.isIn (h : c.Blames ts e) (hin : lexer.StandsIn source)
    (hnext : lexer.next = (.ok c.current, c.lexer)) : e.position.IsIn source := by
  induction h generalizing lexer with
  | here hplace =>
    rw [hplace]
    exact (hin.next hnext).2.1
  | behind _ herror =>
    obtain ⟨taken, ⟨rest, hrest⟩, hplace⟩ := Lexer.next_eq_error herror
    rw [hplace]
    exact ((hin.next hnext).1.advance hrest.symm).isIn
  | step hs _ ih => exact ih (hin.next hnext).1 hs.2

theorem Blames.writable (h : c.Blames ts e) (hnext : lexer.next = (.ok c.current, c.lexer)) :
    ∀ t ∈ ts, t.Writable := by
  induction h generalizing lexer with
  | here _ => simp
  | behind hc _ =>
    rintro t ht
    obtain rfl := List.mem_singleton.mp ht
    exact ⟨_, Lexer.standsFor_of_next hnext hc⟩
  | step hs _ ih =>
    exact List.forall_mem_cons.mpr ⟨⟨_, Lexer.standsFor_of_next hnext hs.1⟩, ih hs.2⟩

/-- **The tokens that are blamed on a place** are those that end there or before. -/
theorem Blames.eq_filter (h : c.Blames ts e) (hnext : lexer.next = (.ok c.current, c.lexer)) :
    ts = (lexer.lexemes.filter fun lexeme => lexeme.stop ≤ e.position.offset).map Lexeme.token := by
  induction h generalizing lexer with
  | @here c e hplace =>
    have hbehind : ∀ lexeme ∈ lexer.lexemes, ¬lexeme.stop ≤ e.position.offset := by
      intro lexeme hmem
      rw [hplace]
      by_cases hc : c.current.token = .endOfInput
      · rw [Lexer.lexemes_of_end hnext hc] at hmem
        cases hmem
      · rw [Lexer.lexemes_of_token hnext hc] at hmem
        rcases List.mem_cons.mp hmem with rfl | hmem
        · have hlength := List.length_pos_iff.mpr (Lexer.text_ne_nil hnext hc)
          rw [Lexeme.stop]
          omega
        · have hlt := Lexer.lt_stop_of_mem hmem
          rw [(Lexer.offset_of_next hnext).2, Lexeme.stop] at hlt
          omega
    rw [List.filter_eq_nil_iff.mpr (by simpa using hbehind), List.map_nil]
  | behind hc herror =>
    have hstop := stop_le_offset hnext herror
    rw [Lexer.lexemes_of_token hnext hc, Lexer.lexemes_of_error herror,
      List.filter_cons_of_pos (by simpa using hstop)]
    rfl
  | step hs hlater ih =>
    have hstop := Nat.le_trans (Lexer.offset_of_next hs.2).1 (hlater.le_offset hs.2)
    rw [(Lexer.offset_of_next hnext).2] at hstop
    rw [Lexer.lexemes_of_token hnext hs.1, List.filter_cons_of_pos (by simpa using hstop),
      List.map_cons, ← ih hs.2]
    rfl

end Cursor

/-! ### The text that is completed -/

/-- Tokens that can be written are the tokens of some text. -/
theorem exists_tokensOf {ts : List Token} (h : ∀ t ∈ ts, t.Writable) :
    ∃ text : String, tokensOf text.toList = some ts := by
  have hpieces : ∃ pieces : List (List Char × List Char),
      List.Forall₂ (fun piece t => StandsFor piece.1 t) pieces ts ∧
        ∀ piece ∈ pieces, piece.2 = [' '] := by
    induction ts with
    | nil => exact ⟨[], .nil, by simp⟩
    | cons t ts ih =>
      obtain ⟨⟨cs, hcs⟩, hts⟩ := List.forall_mem_cons.mp h
      obtain ⟨pieces, hstands, hgaps⟩ := ih hts
      exact ⟨(cs, [' ']) :: pieces, .cons hcs hstands, List.forall_mem_cons.mpr ⟨rfl, hgaps⟩⟩
  obtain ⟨pieces, hstands, hgaps⟩ := hpieces
  let layout : Layout :=
    { lead := []
      pieces := pieces
      lead_blank := rfl
      gap_blank := fun piece hpiece => by rw [hgaps piece hpiece]; decide
      gap_ne_nil := fun piece hpiece => by
        rw [hgaps piece ((List.dropLast_sublist _).subset hpiece)]
        exact List.cons_ne_nil _ _ }
  exact ⟨layout.text, layout.tokensOf_text hstands⟩

/-- The tokens of a query without its end, as far as they go, are the first ones of a text. -/
theorem Begins.exists_text {ts : List Token} (h : Begins Cursor.IsQuery ts)
    (hts : ∀ t ∈ ts, t.Writable) : ∃ text q lexemes, parse text = .ok q ∧
      tokenize text = .ok lexemes ∧ ts <+: lexemes.map Lexeme.token := by
  obtain ⟨us, hus, q, hq⟩ := h
  obtain ⟨text, htext⟩ := exists_tokensOf (List.forall_mem_append.mpr ⟨hts, hus⟩)
  obtain ⟨lexemes, hlexemes, hmap⟩ :=
    ((Lexer.ofText text).exists_tokens_iff _).mpr ⟨ts ++ us, htext, rfl⟩
  refine ⟨text, q, lexemes, parse_eq_ok_iff.mpr ⟨_, htext, hq⟩, hlexemes, ?_⟩
  rw [hmap, List.append_assoc]
  exact List.prefix_append ts _

/-! ### Refused texts -/

/-- A text is refused for its first token or for what comes after it. -/
theorem parse_eq_error_cases {source : String} {e : SyntaxError} (h : parse source = .error e) :
    (∃ after, (Lexer.ofText source).next = (.error e, after)) ∨
      ∃ c : Cursor, (Lexer.ofText source).next = (.ok c.current, c.lexer) ∧ c.query.Fails e := by
  rw [parse] at h
  rcases hnext : (Lexer.ofText source).next with ⟨e' | lexeme, after⟩
  · have hc : Cursor.ofText source = .error e' := by rw [Cursor.ofText, hnext]
    rw [hc] at h
    obtain rfl := Except.error.inj h
    exact .inl ⟨after, rfl⟩
  · have hc : Cursor.ofText source = .ok ⟨after, lexeme⟩ := by rw [Cursor.ofText, hnext]
    rw [hc] at h
    exact .inr ⟨⟨after, lexeme⟩, rfl, h⟩

/-- **What is in front of the place of an error is not at fault.** The place is one of the text,
with the line and the column of its offset, and the tokens of the text that end there or before are
the first tokens of a text that is read as a query. -/
theorem parse_eq_error {source : String} {e : SyntaxError} (h : parse source = .error e) :
    e.position.offset ≤ source.toList.length ∧
      e.position = placeAfter (source.toList.take e.position.offset) ∧
      ∃ text q lexemes, parse text = .ok q ∧ tokenize text = .ok lexemes ∧
        tokensBefore source e.position.offset <+: lexemes.map Lexeme.token := by
  have hin := Lexer.standsIn_ofText source
  rw [← and_assoc]
  -- without a first token there is nothing in front of the place, else the reader tracks a query
  rcases parse_eq_error_cases h with ⟨after, herror⟩ | ⟨c, hnext, hfails⟩
  · obtain ⟨taken, ⟨rest, hrest⟩, hplace⟩ := Lexer.next_eq_error herror
    refine ⟨?_, ?_⟩
    · rw [hplace]
      exact (hin.advance hrest.symm).isIn.eq_placeAfter
    · rw [tokensBefore, Lexer.lexemes_of_error herror]
      exact Cursor.begins_query.exists_text (by simp)
  · obtain ⟨ts, hblames, hbegins⟩ := c.tracks_query e hfails
    refine ⟨(hblames.isIn hin hnext).eq_placeAfter, ?_⟩
    rw [tokensBefore, ← hblames.eq_filter hnext]
    exact hbegins.exists_text (hblames.writable hnext)

/-- A table of which the second column is broken off by the source. -/
theorem parse_eq_error_of_openParen :
    ∃ e, parse "TABLE a.b AS 'c', (d\n FROM #e" = .error e ∧ e.position.offset = 22 ∧
      tokensBefore "TABLE a.b AS 'c', (d\n FROM #e" 22 = [.keyword .table, .identifier "a", .dot,
        .identifier "b", .keyword .naming, .string "c", .comma, .openParen, .identifier "d"] ∧
      e.position.offset ≤ "TABLE a.b AS 'c', (d\n FROM #e".toList.length ∧
      e.position = placeAfter ("TABLE a.b AS 'c', (d\n FROM #e".toList.take e.position.offset) ∧
      ∃ text q lexemes, parse text = .ok q ∧ tokenize text = .ok lexemes ∧
        tokensBefore "TABLE a.b AS 'c', (d\n FROM #e" e.position.offset <+:
          lexemes.map Lexeme.token := by
  have h : parse "TABLE a.b AS 'c', (d\n FROM #e" =
      .error ⟨.expected ["')'"] (.keyword .source), ⟨22, 2, 2⟩⟩ := by cbv
  exact ⟨_, h, rfl, by decide +kernel, parse_eq_error h⟩

end Notebook.Query
