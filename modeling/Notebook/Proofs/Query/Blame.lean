import Notebook.Proofs.Query.Layout

/-!
# Where reading breaks off

A reading fails at a token that does not fit, or in front of characters that are no token. What has
been read up to there is told by `Notebook.Query.Cursor.Blames`. It should be the beginning of
something (`Notebook.Query.Begins`): with some more tokens, which can be written, it is a whole
item.

A reading **tracks** a kind of item (`Notebook.Query.Reading.Tracks`) when that is so wherever it
fails. The rules here take a reading apart into its steps, so that a statement about a reader
follows its definition: at each step it is to be said how what has been read up to there can be
completed.
-/

namespace Notebook.Query

variable {Item Part : List Token → Prop} {ts us : List Token}

/-! ### Beginnings -/

/-- That a token **can be written**: some characters stand for it. -/
def Token.Writable (t : Token) : Prop := ∃ cs, StandsFor cs t

/-- Every token that has been read can be written. -/
theorem Lexeme.writable {source : String} {lexemes : List Lexeme} {lexeme : Lexeme}
    (h : tokenize source = .ok lexemes) (hmem : lexeme ∈ lexemes)
    (hne : lexeme.token ≠ .endOfInput) : lexeme.token.Writable :=
  ⟨lexeme.text, Lexer.standsFor_of_mem h hmem hne⟩

/-- Tokens that complete what has been begun. -/
theorem tokenize_completions : tokenize "x #x 1 ) LIST" = .ok
    [⟨.identifier "x", ['x'], ⟨0, 1, 1⟩⟩, ⟨.tag "x", ['#', 'x'], ⟨2, 1, 3⟩⟩,
      ⟨.integer 1, ['1'], ⟨5, 1, 6⟩⟩, ⟨.closeParen, [')'], ⟨7, 1, 8⟩⟩,
      ⟨.keyword .list, "LIST".toList, ⟨9, 1, 10⟩⟩, ⟨.endOfInput, [], ⟨13, 1, 14⟩⟩] := by
  decide +kernel

theorem writable_name : (Token.identifier "x").Writable :=
  Lexeme.writable tokenize_completions (.head _) (by simp)

theorem writable_tag : (Token.tag "x").Writable :=
  Lexeme.writable tokenize_completions (.tail _ (.head _)) (by simp)

theorem writable_one : (Token.integer 1).Writable :=
  Lexeme.writable tokenize_completions (.tail _ (.tail _ (.head _))) (by simp)

theorem writable_closeParen : Token.closeParen.Writable :=
  Lexeme.writable tokenize_completions (.tail _ (.tail _ (.tail _ (.head _)))) (by simp)

theorem writable_list : (Token.keyword .list).Writable :=
  Lexeme.writable tokenize_completions (.tail _ (.tail _ (.tail _ (.tail _ (.head _))))) (by simp)

/-- That tokens **begin** an item: with some more that can be written they are one. -/
def Begins (Item : List Token → Prop) (ts : List Token) : Prop :=
  ∃ us, (∀ u ∈ us, u.Writable) ∧ Item (ts ++ us)

/-- An item begins itself. -/
theorem begins_self (h : Item ts) : Begins Item ts := ⟨[], by simp, by rwa [List.append_nil]⟩

theorem Begins.of_append (h : Begins Item (ts ++ us)) (hus : ∀ u ∈ us, u.Writable) :
    Begins Item ts := by
  obtain ⟨vs, hvs, hitem⟩ := h
  exact ⟨us ++ vs, List.forall_mem_append.mpr ⟨hus, hvs⟩, by rwa [← List.append_assoc]⟩

/-- What one more token completes begins an item. -/
theorem begins_of_one {t : Token} (ht : t.Writable) (h : Item (ts ++ [t])) : Begins Item ts :=
  ⟨[t], by simpa using ht, h⟩

theorem Begins.of_concat {t : Token} (h : Begins Item (ts ++ [t])) (ht : t.Writable) :
    Begins Item ts := h.of_append (by simpa using ht)

/-- The beginning of a part begins the whole, after what comes before the part. -/
theorem Begins.part (h : Begins Part us) (hpart : ∀ us, Part us → Begins Item (ts ++ us)) :
    Begins Item (ts ++ us) := by
  obtain ⟨vs, hvs, hitem⟩ := h
  refine Begins.of_append ?_ hvs
  rw [List.append_assoc]
  exact hpart _ hitem

/-! ### Blame -/

/-- **The tokens from a cursor up to a place to blame**: the place is that of the next token, or it
is behind a token after which none can be read. -/
inductive Cursor.Blames : Cursor → List Token → SyntaxError → Prop
  /-- The token that is looked at is to blame. -/
  | here {c : Cursor} {e : SyntaxError} : e.position = c.current.position → Blames c [] e
  /-- What comes after it is no token. -/
  | behind {c : Cursor} {e : SyntaxError} {after : Lexer} : c.token ≠ .endOfInput →
    c.lexer.next = (.error e, after) → Blames c [c.token] e
  /-- The place is further on. -/
  | step {c c₁ : Cursor} {ts : List Token} {e : SyntaxError} : c.Steps c₁ → Blames c₁ ts e →
    Blames c (c.token :: ts) e

theorem Cursor.Reads.blames {c c₁ : Cursor} {e : SyntaxError} (hts : c.Reads ts c₁)
    (h : c₁.Blames us e) : c.Blames (ts ++ us) e := by
  induction ts generalizing c with
  | nil =>
    obtain rfl := reads_nil.mp hts
    exact h
  | cons t ts ih =>
    obtain ⟨rfl, c₂, hs, hts⟩ := hts
    exact .step hs (ih hts)

/-! ### Readings that break off -/

namespace Reading

variable {α β : Type} {m n : Nat} {c c₁ : Cursor}

/-- A reading **fails** with an error. -/
def Fails (reading : Reading α n) (e : SyntaxError) : Prop := reading.result.1 = .error e

/-- **A reading tracks a kind of item** from a cursor on: where it fails, the tokens up to the place
to blame begin such an item. -/
def Tracks (reading : Reading α n) (c : Cursor) (Item : List Token → Prop) : Prop :=
  ∀ e, reading.Fails e → ∃ ts, c.Blames ts e ∧ Begins Item ts

theorem tracks_ok {value : α} {next : Cursor} {shrinks : next.size < n} :
    (ok value next shrinks).Tracks c Item := by
  intro e h
  cases h

/-- Where a token does not fit, what is before it is to begin an item. -/
theorem tracks_error {problem : Problem} {stopped : Cursor} (hts : c.Reads ts c₁)
    (h : Begins Item ts) :
    (error ⟨problem, c₁.current.position⟩ stopped : Reading α n).Tracks c Item := by
  intro e he
  obtain rfl := Except.error.inj he
  refine ⟨ts, ?_, h⟩
  rw [← List.append_nil ts]
  exact hts.blames (.here rfl)

theorem Tracks.andThen {reading : Reading α m}
    {continuation : (value : α) → (c : Cursor) → c.size < m → Reading β n}
    (h : reading.Tracks c Item)
    (hnext : ∀ a c₁ (hg : reading.Gives a c₁),
      (continuation a c₁ hg.size_lt).Tracks c Item) :
    (reading.andThen continuation).Tracks c Item := by
  intro e he
  rcases reading with ⟨value, next, shrinks⟩ | ⟨e', stopped⟩
  · exact hnext value next (gives_ok.mpr ⟨rfl, rfl⟩) e he
  · obtain rfl := Except.error.inj he
    exact h e' rfl

theorem Tracks.map {reading : Reading α n} {f : α → β} (h : reading.Tracks c Item) :
    (reading.map f).Tracks c Item := by
  intro e he
  rcases reading with ⟨value, next, shrinks⟩ | ⟨e', stopped⟩
  · cases he
  · obtain rfl := Except.error.inj he
    exact h e' rfl

/-- **A part of an item**, read after some tokens. -/
theorem Tracks.after {reading : Reading α n} (hts : c.Reads ts c₁) (h : reading.Tracks c₁ Part)
    (hpart : ∀ us, Part us → Begins Item (ts ++ us)) : reading.Tracks c Item := by
  intro e he
  obtain ⟨us, hblames, hbegins⟩ := h e he
  exact ⟨ts ++ us, hts.blames hblames, hbegins.part hpart⟩

/-- An item that is the first part of another one. -/
theorem Tracks.first {reading : Reading α n} (h : reading.Tracks c Part)
    (hpart : ∀ us, Part us → Begins Item us) : reading.Tracks c Item :=
  h.after (Cursor.reads_nil.mpr rfl) hpart

end Reading

/-! ### One token -/

namespace Cursor

variable {c c₁ : Cursor} {hc : c₁.token ≠ .endOfInput}

/-- After a token that fits, what has been read with it is to begin an item. -/
theorem tracks_advance {stopped : Cursor} (hts : c.Reads ts c₁)
    (h : Begins Item (ts ++ [c₁.token])) : (c₁.advance hc stopped).Tracks c Item := by
  intro e he
  refine ⟨ts ++ [c₁.token], hts.blames ?_, h⟩
  unfold advance at he
  split at he
  · cases he
  · next error after heq =>
    obtain rfl := Except.error.inj he
    exact .behind hc heq

theorem tracks_pass (hts : c.Reads ts c₁) (h : Begins Item (ts ++ [c₁.token])) :
    (c₁.pass hc).Tracks c Item := tracks_advance hts h

theorem tracks_take (hts : c.Reads ts c₁) (h : Begins Item (ts ++ [c₁.token])) :
    (c₁.take hc).Tracks c Item := tracks_advance hts h

/-- **A token that fits, and what is read after it.** -/
theorem tracks_advance_andThen {β : Type} {n : Nat} {t : Token} {stopped : Cursor}
    {continuation : Unit → (c : Cursor) → c.size < c₁.size → Reading β n} (hts : c.Reads ts c₁)
    (ht : c₁.token = t) (h : Begins Item (ts ++ [t]))
    (hnext : ∀ (c₂ : Cursor) (hlt : c₂.size < c₁.size), c.Reads (ts ++ [t]) c₂ →
      (continuation () c₂ hlt).Tracks c Item) :
    ((c₁.advance hc stopped).andThen continuation).Tracks c Item := by
  subst ht
  refine .andThen (tracks_advance hts h) fun _ c₂ h₂ => ?_
  exact hnext c₂ h₂.size_lt (reads_append.mpr ⟨c₁, hts, (gives_advance.mp h₂).reads rfl⟩)

/-- A token that has to be there and can be written. -/
theorem tracks_expect {t : Token} {name : String} {ht : t ≠ .endOfInput} (hwritable : t.Writable)
    (hts : c.Reads ts c₁) (h : Begins Item (ts ++ [t])) :
    (c₁.expect t name ht).Tracks c Item := by
  unfold expect
  split
  · next heq =>
    subst heq
    exact tracks_pass hts h
  · exact Reading.tracks_error hts (h.of_concat hwritable)

end Cursor

end Notebook.Query
