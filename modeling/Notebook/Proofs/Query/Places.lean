import Mathlib.Data.List.Induction
import Notebook.Proofs.Query.Branches
import Notebook.Text.Split

/-!
# Where tokens stand

The lexer counts as it goes: one step of a `Notebook.Query.Position` for every character that is
left behind. Here the same places are told by looking at the text (`Notebook.Query.placeAfter`): the
line by the line feeds before it, the column by the characters since the last of these. That the two
agree is `Notebook.Query.advance_start`, and so every place that the lexer ever gives is one of the
text (`Notebook.Query.Position.IsIn`).

The lexemes of a text tile it (`Notebook.Query.Tiles`): they come in order, each of them is the
characters from its offset on, between them is white space alone, and the end stands behind the last
character. This is `Notebook.Query.tokenize_tiles`.
-/

namespace Notebook.Query

open Unicode

/-! ### Places by counting -/

/-- **The place after some characters**, told by counting them: the line by the line feeds among
them, the column by those after the last line feed. -/
def placeAfter (before : List Char) : Position where
  offset := before.length
  line := before.count '\n' + 1
  column := (Text.afterLast '\n' before).length + 1

theorem splitLast?_concat (c d : Char) (s : List Char) :
    Text.splitLast? c (s ++ [d]) = if d = c then some (s, [])
      else (Text.splitLast? c s).map fun parts => (parts.1, parts.2 ++ [d]) := by
  induction s with
  | nil => simp [Text.splitLast?]
  | cons e s ih =>
    rw [List.cons_append, Text.splitLast?, ih]
    by_cases h : d = c
    · simp [h]
    · rcases hs : Text.splitLast? c s with _ | parts
      · by_cases he : e = c <;> simp [Text.splitLast?, h, hs, he]
      · simp [Text.splitLast?, h, hs]

theorem afterLast_concat (c d : Char) (s : List Char) :
    Text.afterLast c (s ++ [d]) = if d = c then [] else Text.afterLast c s ++ [d] := by
  rw [Text.afterLast, splitLast?_concat, Text.afterLast]
  by_cases h : d = c
  · simp [h]
  · rcases hs : Text.splitLast? c s with _ | parts <;> simp [h]

theorem advance_append (p : Position) (cs ds : List Char) :
    p.advance (cs ++ ds) = (p.advance cs).advance ds := List.foldl_append

/-- **Counting as one goes** comes to the same as looking back. -/
theorem advance_start (cs : List Char) : Position.start.advance cs = placeAfter cs := by
  induction cs using List.reverseRecOn with
  | nil => rfl
  | append_singleton cs c ih =>
    rw [advance_append, ih]
    by_cases h : c = '\n' <;>
      simp [Position.advance, Position.step, placeAfter, afterLast_concat, h]

theorem offset_advance (p : Position) (cs : List Char) :
    (p.advance cs).offset = p.offset + cs.length := by
  induction cs generalizing p with
  | nil => rfl
  | cons c cs ih =>
    have hstep : (p.step c).offset = p.offset + 1 := by
      rw [Position.step]
      split <;> rfl
    change ((p.step c).advance cs).offset = _
    rw [ih, hstep, List.length_cons]
    omega

/-- That a place is **in a text**: it is the one after some of the first characters. -/
def Position.IsIn (p : Position) (source : List Char) : Prop :=
  ∃ before, before <+: source ∧ p = Position.start.advance before

/-- **A place in a text is told by its offset**: it is the one after that many characters. -/
theorem Position.IsIn.eq_placeAfter {p : Position} {source : List Char} (h : p.IsIn source) :
    p.offset ≤ source.length ∧ p = placeAfter (source.take p.offset) := by
  obtain ⟨before, ⟨after, rfl⟩, rfl⟩ := h
  have hoffset : (Position.start.advance before).offset = before.length := by
    rw [advance_start, placeAfter]
  rw [hoffset, List.take_left]
  exact ⟨by simp, advance_start before⟩

/-! ### Where a lexer stands -/

/-- The offset right behind a lexeme. -/
def Lexeme.stop (lexeme : Lexeme) : Nat := lexeme.position.offset + lexeme.text.length

namespace Lexer

/-- That a lexer **stands in a text**: what it has left is the text without some characters, and its
place is the one after these. -/
def StandsIn (lexer : Lexer) (source : List Char) : Prop :=
  ∃ before, before ++ lexer.rest = source ∧ lexer.position = Position.start.advance before

variable {lexer after : Lexer} {lexeme : Lexeme} {source : List Char}

theorem standsIn_ofText (source : String) : (ofText source).StandsIn source.toList := ⟨[], rfl, rfl⟩

theorem StandsIn.isIn (h : lexer.StandsIn source) : lexer.position.IsIn source := by
  obtain ⟨before, rfl, hplace⟩ := h
  exact ⟨before, List.prefix_append before lexer.rest, hplace⟩

theorem StandsIn.rest_eq_drop (h : lexer.StandsIn source) :
    lexer.rest = source.drop lexer.position.offset := by
  obtain ⟨before, rfl, hplace⟩ := h
  rw [hplace, advance_start, placeAfter, List.drop_left]

/-- A lexer that goes on over some characters stands in the same text. -/
theorem StandsIn.advance (h : lexer.StandsIn source) {taken rest : List Char}
    (hrest : lexer.rest = taken ++ rest) :
    (⟨rest, lexer.position.advance taken⟩ : Lexer).StandsIn source := by
  obtain ⟨before, rfl, hplace⟩ := h
  exact ⟨before ++ taken, by rw [hrest, List.append_assoc], by rw [hplace, advance_append]⟩

/-- **What reading a token comes to**: the white space in front of it is left behind, and then the
characters of the token are scanned. -/
theorem next_eq_ok (h : lexer.next = (.ok lexeme, after)) :
    lexer.rest.dropWhile isWhiteSpace = lexeme.text ++ after.rest ∧
      scan (lexeme.text ++ after.rest) = ⟨.ok lexeme.token, lexeme.text, after.rest⟩ ∧
      lexeme.position = lexer.position.advance (lexer.rest.takeWhile isWhiteSpace) ∧
      after.position = lexeme.position.advance lexeme.text := by
  rw [next] at h
  rcases hscan : scan lexer.skipBlanks.rest with ⟨outcome, taken, rest⟩
  have hsplit : taken ++ rest = lexer.skipBlanks.rest := by
    have hs := scan_split lexer.skipBlanks.rest
    rwa [hscan] at hs
  rw [hscan] at h
  rcases outcome with e | t
  · cases h
  · obtain ⟨hlexeme, rfl⟩ := Prod.mk.inj h
    obtain rfl := Except.ok.inj hlexeme
    exact ⟨hsplit.symm, hsplit ▸ hscan, rfl, rfl⟩

/-- The place to blame is in front of nothing that has been left behind. -/
theorem next_eq_error {e : SyntaxError} (h : lexer.next = (.error e, after)) :
    ∃ taken, taken <+: lexer.rest ∧ e.position = lexer.position.advance taken := by
  rw [next] at h
  rcases hscan : scan lexer.skipBlanks.rest with ⟨outcome, taken, rest⟩
  have hsplit : taken ++ rest = lexer.skipBlanks.rest := by
    have hs := scan_split lexer.skipBlanks.rest
    rwa [hscan] at hs
  rw [hscan] at h
  rcases outcome with ⟨problem, count⟩ | t
  · obtain ⟨he, -⟩ := Prod.mk.inj h
    obtain rfl := Except.error.inj he
    refine ⟨lexer.rest.takeWhile isWhiteSpace ++ taken.take count, ?_, by
      rw [advance_append]; rfl⟩
    refine ⟨taken.drop count ++ rest, ?_⟩
    rw [List.append_assoc, ← List.append_assoc (taken.take count), List.take_append_drop, hsplit]
    exact List.takeWhile_append_dropWhile
  · cases h

/-- A token that is not the end has a character at least. -/
theorem text_ne_nil (h : lexer.next = (.ok lexeme, after)) (hne : lexeme.token ≠ .endOfInput) :
    lexeme.text ≠ [] := by
  obtain ⟨-, hscan, -, -⟩ := next_eq_ok h
  have hprogress := scan_progress (congrArg Scan.outcome hscan) hne
  rwa [hscan] at hprogress

/-- The white space in front of a token is between the place of the lexer and that of the token. -/
theorem offset_of_next (h : lexer.next = (.ok lexeme, after)) :
    lexer.position.offset ≤ lexeme.position.offset ∧ after.position.offset = lexeme.stop := by
  obtain ⟨-, -, hplace, hafter⟩ := next_eq_ok h
  rw [hplace, offset_advance, hafter, offset_advance]
  exact ⟨Nat.le_add_right _ _, rfl⟩

theorem StandsIn.next (hin : lexer.StandsIn source) (h : lexer.next = (.ok lexeme, after)) :
    after.StandsIn source ∧ lexeme.position.IsIn source ∧
      source.drop lexeme.position.offset = lexeme.text ++ after.rest := by
  obtain ⟨hdrop, -, hplace, hafter⟩ := next_eq_ok h
  have hrest : lexer.rest = lexer.rest.takeWhile isWhiteSpace ++ (lexeme.text ++ after.rest) := by
    rw [← hdrop, List.takeWhile_append_dropWhile]
  have hstart := hin.advance hrest
  rw [← hplace] at hstart
  have hstop : (⟨after.rest, lexeme.position.advance lexeme.text⟩ : Lexer).StandsIn source :=
    hstart.advance rfl
  rw [← hafter] at hstop
  exact ⟨hstop, hstart.isIn, hstart.rest_eq_drop.symm⟩

/-- A character that is left behind in front of a token is white space. -/
theorem StandsIn.blank (hin : lexer.StandsIn source) (h : lexer.next = (.ok lexeme, after))
    {i : Nat} (hi : i < source.length) (hle : lexer.position.offset ≤ i)
    (hlt : i < lexeme.position.offset) : isWhiteSpace source[i] = true := by
  obtain ⟨-, -, hplace, -⟩ := next_eq_ok h
  rw [hplace, offset_advance] at hlt
  have hindex : i - lexer.position.offset < (lexer.rest.takeWhile isWhiteSpace).length := by omega
  have hget : source[i] = (lexer.rest.takeWhile isWhiteSpace)[i - lexer.position.offset] := by
    rw [(List.takeWhile_prefix isWhiteSpace).getElem hindex]
    simp only [hin.rest_eq_drop, List.getElem_drop]
    congr 1
    omega
  rw [hget]
  exact List.all_eq_true.mp List.all_takeWhile _ (List.getElem_mem hindex)

end Lexer

/-! ### Tiles -/

/-- **Lexemes tile a text** from an offset on. -/
structure Tiles (source : List Char) (start : Nat) (lexemes : List Lexeme) : Prop where
  /-- The last of them is the end, behind the last character; no other one is. -/
  ends : ∃ body last, lexemes = body ++ [last] ∧ last.token = .endOfInput ∧
    last.position.offset = source.length ∧ ∀ lexeme ∈ body, lexeme.token ≠ .endOfInput
  /-- Each but the end is made of the characters at its offset, of one at least. -/
  text : ∀ lexeme ∈ lexemes, lexeme.token ≠ .endOfInput →
    lexeme.text ≠ [] ∧ lexeme.text <+: source.drop lexeme.position.offset
  /-- They come in order, and no two of them overlap. -/
  ordered : lexemes.Pairwise fun a b => a.stop ≤ b.position.offset
  /-- None of them is before the offset where the tiling starts. -/
  starts : ∀ lexeme ∈ lexemes, start ≤ lexeme.position.offset
  /-- A character that is in none of them is white space. -/
  blank : ∀ (i : Nat) (hi : i < source.length), start ≤ i →
    (∀ lexeme ∈ lexemes, ¬(lexeme.position.offset ≤ i ∧ i < lexeme.stop)) →
    isWhiteSpace source[i] = true
  /-- Each is placed where counting in the text places it. -/
  placed : ∀ lexeme ∈ lexemes,
    lexeme.position = placeAfter (source.take lexeme.position.offset)

namespace Lexer

variable {lexer after : Lexer} {lexeme : Lexeme} {lexemes : List Lexeme} {source : List Char}

/-- The end alone tiles what is left when it is read. -/
theorem StandsIn.tiles_end (hin : lexer.StandsIn source) (h : lexer.next = (.ok lexeme, after))
    (hend : lexeme.token = .endOfInput) : Tiles source lexer.position.offset [lexeme] := by
  obtain ⟨-, hscan, -, -⟩ := next_eq_ok h
  obtain ⟨-, hplace, hdrop⟩ := hin.next h
  obtain ⟨hle, hplaced⟩ := hplace.eq_placeAfter
  have hnil : lexeme.text ++ after.rest = [] := eq_nil_of_scan_end (by rw [hscan, hend])
  have hlength : lexeme.position.offset = source.length := by
    rw [hnil, List.drop_eq_nil_iff] at hdrop
    exact Nat.le_antisymm hle hdrop
  refine ⟨⟨[], lexeme, rfl, hend, hlength, by simp⟩, ?_, List.pairwise_singleton _ _, ?_, ?_, ?_⟩
  · intro l hl hne
    obtain rfl := List.mem_singleton.mp hl
    exact absurd hend hne
  · intro l hl
    obtain rfl := List.mem_singleton.mp hl
    exact (offset_of_next h).1
  · intro i hi hstart _
    exact hin.blank h hi hstart (by omega)
  · intro l hl
    obtain rfl := List.mem_singleton.mp hl
    exact hplaced

/-- A token in front of a tiling of what is left after it. -/
theorem StandsIn.tiles_cons (hin : lexer.StandsIn source) (h : lexer.next = (.ok lexeme, after))
    (hne : lexeme.token ≠ .endOfInput) (ht : Tiles source after.position.offset lexemes) :
    Tiles source lexer.position.offset (lexeme :: lexemes) := by
  obtain ⟨-, hplace, hdrop⟩ := hin.next h
  obtain ⟨hle, hstop⟩ := offset_of_next h
  obtain ⟨body, last, rfl, hend, hlength, hbody⟩ := ht.ends
  have htext : lexeme.text ≠ [] := text_ne_nil h hne
  refine ⟨⟨lexeme :: body, last, rfl, hend, hlength, List.forall_mem_cons.mpr ⟨hne, hbody⟩⟩,
    List.forall_mem_cons.mpr ⟨fun _ => ⟨htext, after.rest, hdrop.symm⟩, ht.text⟩,
    List.pairwise_cons.mpr ⟨fun l hl => hstop ▸ ht.starts l hl, ht.ordered⟩,
    List.forall_mem_cons.mpr ⟨hle, fun l hl => ?_⟩, fun i hi hstart hout => ?_,
    List.forall_mem_cons.mpr ⟨hplace.eq_placeAfter.2, ht.placed⟩⟩
  · have hbehind := ht.starts l hl
    rw [hstop, Lexeme.stop] at hbehind
    omega
  · obtain ⟨hhere, hothers⟩ := List.forall_mem_cons.mp hout
    -- what is not in this token is in front of it or behind it
    by_cases hlt : i < lexeme.position.offset
    · exact hin.blank h hi hstart hlt
    · exact ht.blank i hi (by omega) hothers

theorem StandsIn.tiles (hin : lexer.StandsIn source) (h : lexer.tokens = .ok lexemes) :
    Tiles source lexer.position.offset lexemes := by
  fun_induction Lexer.tokens lexer generalizing lexemes with
  | case1 lexer e after heq => cases h
  | case2 lexer lexeme after heq hend =>
    obtain rfl := Except.ok.inj h
    exact hin.tiles_end heq hend
  | case3 lexer lexeme after heq hend others hok ih =>
    obtain rfl := Except.ok.inj h
    exact hin.tiles_cons heq hend (ih (hin.next heq).1 hok)
  | case4 lexer lexeme after heq hend e herr ih => cases h

end Lexer

/-- **The lexemes of a text tile it**: they end with the end of the text and have no other, each is
made of the characters at its offset, no two overlap, what is in none of them is white space, and
the line and the column of each are those of its offset. -/
theorem tokenize_tiles {source : String} {lexemes : List Lexeme}
    (h : tokenize source = .ok lexemes) : Tiles source.toList 0 lexemes :=
  (Lexer.standsIn_ofText source).tiles h

/-- A text with line feeds between its tokens and in one of them. -/
theorem tokenize_tiles_of_lineFeeds : ∃ lexemes,
    tokenize "LIST WHERE\n 'a\nb' >= [[c d]]\t" = .ok lexemes ∧
      Tiles "LIST WHERE\n 'a\nb' >= [[c d]]\t".toList 0 lexemes := by
  have h : tokenize "LIST WHERE\n 'a\nb' >= [[c d]]\t" = .ok
      [⟨.keyword .list, "LIST".toList, ⟨0, 1, 1⟩⟩,
       ⟨.keyword .condition, "WHERE".toList, ⟨5, 1, 6⟩⟩,
       ⟨.string "a\nb", "'a\nb'".toList, ⟨12, 2, 2⟩⟩,
       ⟨.greaterEqual, ">=".toList, ⟨18, 3, 4⟩⟩,
       ⟨.link "c d", "[[c d]]".toList, ⟨21, 3, 7⟩⟩,
       ⟨.endOfInput, [], ⟨29, 3, 15⟩⟩] := by decide +kernel
  exact ⟨_, h, tokenize_tiles h⟩

end Notebook.Query
