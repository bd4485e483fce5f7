import Mathlib.Data.List.Forall2
import Notebook.Proofs.Query.Lookahead
import Notebook.Proofs.Unicode.Case

/-!
# Layout

What stands between the tokens of a query text does not matter, as long as it is white space and
there is some of it, and neither does the case of reserved words.

The characters of a token stand for it in front of white space (`Notebook.Query.standsFor_of_scan`),
and those of a reserved word also in another case (`Notebook.Query.StandsFor.recased`). So pieces of
text with white space in between (`Notebook.Query.Layout`) have the tokens that the pieces stand
for, and any text can be laid out anew (`Notebook.Query.tokenize_laidOut`).
-/

namespace Notebook.Query

open Text Unicode

variable {cs rest : List Char} {t : Token}

/-! ### Reserved words in another case -/

/-- Whether a token is a reserved word or one of the words for a value. -/
def Token.isReserved : Token → Bool
  | .keyword _ | .boolean _ | .null => true
  | _ => false

theorem symbol?_not_isReserved {count : Nat} (h : symbol? cs = some (t, count)) :
    t.isReserved = false := by
  unfold symbol? at h
  split at h
  case h_13 => cases h
  all_goals
    obtain ⟨rfl, -⟩ := Prod.mk.inj (Option.some.inj h)
    rfl

/-- What stands for a reserved word is a word. -/
theorem StandsFor.isWord (h : StandsFor cs t) (ht : t.isReserved = true) :
    isWord cs = true ∧ Token.ofName cs = t := by
  have hscan := h.scan [] (by simp [Spaced])
  rw [List.append_nil] at hscan
  have hbranch := branch_scan cs
  generalize hs : Notebook.Query.scan cs = s at hbranch
  rw [hscan] at hs
  have houtcome : s.outcome = .ok t := by rw [← hs]
  cases hbranch with
  | spent => exact absurd rfl h.ne_nil
  | sign heq =>
    obtain rfl := Except.ok.inj houtcome
    exact absurd ht (by simp [symbol?_not_isReserved heq])
  | minus _ =>
    obtain rfl := Except.ok.inj houtcome
    cases ht
  | number negative _ => obtain ⟨n, rfl⟩ | ⟨x, rfl⟩ := scanDigits_isNumber houtcome <;> cases ht
  | quoted _ =>
    obtain ⟨s, rfl⟩ := scanString_isString houtcome
    cases ht
  | tag _ =>
    obtain rfl := Except.ok.inj houtcome
    cases ht
  | link _ =>
    obtain ⟨_, _, -, rfl⟩ := scanLink_isLink houtcome
    cases ht
  | name hc =>
    rename_i c cs
    simp only [scanName, Scan.mk.injEq, Except.ok.injEq] at hs
    obtain ⟨hname, htake, -⟩ := hs
    have hblank : isWhiteSpace c = false := h.head
    have hall : ∀ d ∈ c :: cs, continuesName d = true := by
      rw [htake]
      exact fun _ hd => List.all_eq_true.mp List.all_takeWhile _ hd
    refine ⟨?_, by rw [hname, ← htake]⟩
    simp only [Query.isWord, hc, hblank, Bool.not_false, Bool.and_self, Bool.true_and,
      List.all_eq_true]
    exact fun d hd => hall d (List.mem_cons_of_mem c hd)
  | fault c cs => cases houtcome

/-- A word stands for what it spells. -/
theorem standsFor_of_isWord (h : isWord cs = true) : StandsFor cs (Token.ofName cs) := by
  rcases cs with _ | ⟨c, cs⟩
  · cases h
  · simp only [isWord, Bool.and_eq_true, Bool.not_eq_true', List.all_eq_true] at h
    obtain ⟨⟨hstart, hblank⟩, hcs⟩ := h
    have hall : ∀ d ∈ c :: cs, continuesName d = true :=
      List.forall_mem_cons.mpr ⟨continuesName_of_startsName hstart, hcs⟩
    refine ⟨Token.ofName_ne_endOfInput _, hblank, fun rest hrest => ?_⟩
    obtain ⟨htake, hdrop⟩ := takeWhile_append_of_head hall (hrest.head? continuesName_of_blank)
    rw [List.cons_append, scan_of_startsName hstart, ← List.cons_append, scanName, htake, hdrop]

theorem startsName_of_isAlpha {c : Char} (h : c.isAlpha = true) : startsName c = true := by
  have hascii : isAscii c = true := by
    rw [isAlpha_iff] at h
    rw [isAscii, decide_eq_true_eq]
    omega
  simp [startsName, isAlphabetic, hascii, h]

theorem isWord_congr {ds : List Char} (h : asciiLowercase cs = asciiLowercase ds) :
    isWord cs = isWord ds := by
  have hnotBlank : ∀ c : Char, c.isAlpha = true → (!isWhiteSpace c) = true := by
    intro c hc
    rw [not_isWhiteSpace_of_isAlpha hc, Bool.not_false]
  have hcontinues : ∀ c : Char, c.isAlpha = true → continuesName c = true :=
    fun c hc => continuesName_of_startsName (startsName_of_isAlpha hc)
  rcases cs with _ | ⟨c, cs⟩ <;> rcases ds with _ | ⟨d, ds⟩
  · rfl
  · cases h
  · cases h
  · obtain ⟨hc, hcs⟩ := List.cons.inj h
    rw [isWord, isWord, class_congr (fun _ => startsName_of_isAlpha) hc, class_congr hnotBlank hc,
      all_congr hcontinues hcs]

/-- A reserved word is told from its lower case. -/
theorem Token.ofName_congr {ds : List Char} (h : asciiLowercase cs = asciiLowercase ds)
    (hds : (Token.ofName ds).isReserved = true) : Token.ofName cs = Token.ofName ds := by
  have hkeyword : Keyword.ofName? (String.ofList cs) = Keyword.ofName? (String.ofList ds) := by
    simp only [Keyword.ofName?, String.toList_ofList, h]
  unfold ofName at hds ⊢
  rw [h, hkeyword]
  generalize Keyword.ofName? (String.ofList ds) = word? at hds ⊢
  rcases word? with _ | word
  · dsimp only at hds ⊢
    split_ifs at hds ⊢ <;> first | rfl | cases hds
  · rfl

/-- **A reserved word in another case stands for the same token.** -/
theorem StandsFor.recased {ds : List Char} (h : StandsFor ds t) (ht : t.isReserved = true)
    (hcs : equalIgnoringAsciiCase cs ds = true) : StandsFor cs t := by
  have hlower : asciiLowercase cs = asciiLowercase ds := eq_of_beq hcs
  obtain ⟨hword, rfl⟩ := h.isWord ht
  rw [← Token.ofName_congr hlower ht]
  exact standsFor_of_isWord (isWord_congr hlower ▸ hword)

/-! ### Layouts -/

/-- **A layout**: pieces of text, each with the white space after it, and white space in front. Two
pieces never touch. -/
structure Layout where
  /-- The white space in front of the first piece. -/
  lead : List Char
  /-- The pieces, each with the white space after it. -/
  pieces : List (List Char × List Char)
  lead_blank : Text.isBlank lead = true
  gap_blank : ∀ piece ∈ pieces, Text.isBlank piece.2 = true
  gap_ne_nil : ∀ piece ∈ pieces.dropLast, piece.2 ≠ []

/-- The characters of pieces with white space after them. -/
def charsOf (pieces : List (List Char × List Char)) : List Char :=
  pieces.flatMap fun piece => piece.1 ++ piece.2

@[simp] theorem charsOf_nil : charsOf [] = [] := rfl

@[simp] theorem charsOf_cons (piece : List Char × List Char)
    (pieces : List (List Char × List Char)) :
    charsOf (piece :: pieces) = piece.1 ++ (piece.2 ++ charsOf pieces) := by
  rw [charsOf, List.flatMap_cons, List.append_assoc, ← charsOf]

/-- The text of a layout. -/
def Layout.text (layout : Layout) : String := String.ofList (layout.lead ++ charsOf layout.pieces)

theorem tokensOf_blanks {blank : List Char} (h : Text.isBlank blank = true)
    (cs : List Char) : tokensOf (blank ++ cs) = tokensOf cs :=
  tokensOf_congr (List.dropWhile_append_of_pos (List.all_eq_true.mp h))

theorem spaced_append {blank : List Char} (h : Text.isBlank blank = true)
    (hne : blank ≠ []) (cs : List Char) : Spaced (blank ++ cs) := by
  obtain ⟨c, blank, rfl⟩ := List.exists_cons_of_ne_nil hne
  rintro d hd
  obtain rfl := Option.some.inj hd
  exact List.all_eq_true.mp h c (List.mem_cons_self ..)

theorem StandsFor.tokensOf_append (h : StandsFor cs t) (hrest : Spaced rest) :
    tokensOf (cs ++ rest) = (tokensOf rest).map (t :: ·) := by
  have hscan := h.scan rest hrest
  refine tokensOf_of_scan ?_ (congrArg Scan.outcome hscan) (congrArg Scan.rest hscan) h.ne_end
  obtain ⟨c, cs, rfl⟩ := List.exists_cons_of_ne_nil h.ne_nil
  exact h.head

/-- **Pieces that stand for tokens are read as these.** -/
theorem tokensOf_pieces {pieces : List (List Char × List Char)} {ts : List Token}
    (h : List.Forall₂ (fun piece t => StandsFor piece.1 t) pieces ts)
    (hblank : ∀ piece ∈ pieces, Text.isBlank piece.2 = true)
    (hne : ∀ piece ∈ pieces.dropLast, piece.2 ≠ []) : tokensOf (charsOf pieces) = some ts := by
  induction h with
  | nil => exact tokensOf_nil
  | @cons piece t pieces ts hpiece hpieces ih =>
    obtain ⟨hfirst, hothers⟩ := List.forall_mem_cons.mp hblank
    have hspaced : Spaced (piece.2 ++ charsOf pieces) ∧ ∀ p ∈ pieces.dropLast, p.2 ≠ [] := by
      rcases pieces with _ | ⟨second, pieces⟩
      · refine ⟨fun c hc => List.all_eq_true.mp hfirst c ?_, by simp⟩
        rw [charsOf_nil, List.append_nil] at hc
        exact List.mem_of_mem_head? hc
      · rw [List.dropLast_cons_cons, List.forall_mem_cons] at hne
        exact ⟨spaced_append hfirst hne.1 _, hne.2⟩
    rw [charsOf_cons, hpiece.tokensOf_append hspaced.1, tokensOf_blanks hfirst,
      ih hothers hspaced.2, Option.map_some]

theorem Layout.tokensOf_text (layout : Layout) {ts : List Token}
    (h : List.Forall₂ (fun piece t => StandsFor piece.1 t) layout.pieces ts) :
    tokensOf layout.text.toList = some ts := by
  rw [text, String.toList_ofList, tokensOf_blanks layout.lead_blank]
  exact tokensOf_pieces h layout.gap_blank layout.gap_ne_nil

/-! ### The lexemes of a text laid out anew -/

/-- The characters of a token that has been read stand for it. -/
theorem Lexer.standsFor_of_next {lexer after : Lexer} {lexeme : Lexeme}
    (h : lexer.next = (.ok lexeme, after)) (hne : lexeme.token ≠ .endOfInput) :
    StandsFor lexeme.text lexeme.token := by
  obtain ⟨hdrop, hscan, -, -⟩ := next_eq_ok h
  refine standsFor_of_scan hscan hne ?_
  rw [← hdrop]
  exact Text.head?_dropWhile_any _ _

theorem Lexer.standsFor_of_mem {lexer : Lexer} {lexemes : List Lexeme} {lexeme : Lexeme}
    (h : lexer.tokens = .ok lexemes) (hmem : lexeme ∈ lexemes)
    (hne : lexeme.token ≠ .endOfInput) : StandsFor lexeme.text lexeme.token := by
  fun_induction Lexer.tokens lexer generalizing lexemes with
  | case1 lexer e after heq => cases h
  | case2 lexer first after heq hend =>
    obtain rfl := Except.ok.inj h
    obtain rfl := List.mem_singleton.mp hmem
    exact absurd hend hne
  | case3 lexer first after heq hend others hok ih =>
    obtain rfl := Except.ok.inj h
    rcases List.mem_cons.mp hmem with rfl | hmem
    · exact standsFor_of_next heq hne
    · exact ih hok hmem
  | case4 lexer first after heq hend e herr ih => cases h

/-- That characters **spell a lexeme again**: they are its own, or those of a reserved word in
another case. -/
def Lexeme.SpelledAs (lexeme : Lexeme) (cs : List Char) : Prop :=
  cs = lexeme.text ∨
    lexeme.token.isReserved = true ∧ equalIgnoringAsciiCase cs lexeme.text = true

instance (lexeme : Lexeme) (cs : List Char) : Decidable (lexeme.SpelledAs cs) :=
  inferInstanceAs (Decidable (_ ∨ _))

theorem Lexeme.SpelledAs.standsFor {lexeme : Lexeme} (h : lexeme.SpelledAs cs)
    (hstands : StandsFor lexeme.text lexeme.token) : StandsFor cs lexeme.token := by
  rcases h with rfl | ⟨hreserved, hcs⟩
  · exact hstands
  · exact hstands.recased hreserved hcs

/-- **Layout does not matter.** When the tokens of a text are laid out anew, with any white space
around them and some between any two, and with reserved words in any case, then the text that comes
of it has the same tokens, and it is read as the same query or not at all, as before. -/
theorem tokenize_laidOut {source : String} {lexemes : List Lexeme} {last : Lexeme}
    {layout : Layout} (h : tokenize source = .ok (lexemes ++ [last]))
    (hspelled : List.Forall₂ Lexeme.SpelledAs lexemes (layout.pieces.map Prod.fst)) :
    (∃ others, tokenize layout.text = .ok others ∧
        others.map Lexeme.token = (lexemes ++ [last]).map Lexeme.token) ∧
      ∀ q, parse layout.text = .ok q ↔ parse source = .ok q := by
  -- the last lexeme is the end and the others are tokens
  obtain ⟨body, final, hsplit, hend, -, hbody⟩ := ((Lexer.standsIn_ofText source).tiles h).ends
  obtain ⟨rfl, hlast⟩ := List.append_inj' hsplit rfl
  obtain rfl : last = final := (List.cons.inj hlast).1
  have hall : ∀ lexeme ∈ lexemes, StandsFor lexeme.text lexeme.token := fun lexeme hmem =>
    Lexer.standsFor_of_mem h (List.mem_append_left _ hmem) (hbody lexeme hmem)
  have hstands : List.Forall₂ (fun piece t => StandsFor piece.1 t) layout.pieces
      (lexemes.map Lexeme.token) := by
    rw [List.forall₂_map_right_iff] at hspelled ⊢
    exact ((List.forall₂_and_left _ _ |>.mpr ⟨hall, hspelled⟩).imp
      fun _ _ hboth => hboth.2.standsFor hboth.1).flip
  have htokens := layout.tokensOf_text hstands
  have hsource : tokensOf source.toList = some (lexemes.map Lexeme.token) := by
    obtain ⟨ts, hts, heq⟩ := ((Lexer.ofText source).exists_tokens_iff _).mp ⟨_, h, rfl⟩
    rw [List.map_append, List.map_singleton, hend, List.append_left_inj] at heq
    rw [heq]
    exact hts
  constructor
  · refine ((Lexer.ofText layout.text).exists_tokens_iff _).mpr ⟨_, htokens, ?_⟩
    rw [List.map_append, List.map_singleton, hend]
  · intro q
    rw [parse_eq_ok_iff, parse_eq_ok_iff, htokens, hsource]

/-- A text with its tokens next to each other, laid out anew with white space of several kinds and
with its reserved words in another case. -/
def spacious : Layout where
  lead := ['\n']
  pieces := [("lIsT".toList, [' ']), ("where".toList, ['\t']), ("a-1".toList, [' ', '\n']),
    (">=".toList, [Char.ofNat 0x3000]), ("-1".toList, [' ']), ("aNd".toList, [' ']),
    ("!".toList, [' ']), ("TRUE".toList, [])]
  lead_blank := by decide
  gap_blank := by decide
  gap_ne_nil := by decide

theorem tokenize_laidOut_spacious : ∃ lexemes last,
    tokenize "LIST WHERE a-1>=-1 AND!true" = .ok (lexemes ++ [last]) ∧
      List.Forall₂ Lexeme.SpelledAs lexemes (spacious.pieces.map Prod.fst) ∧
      (∃ others, tokenize spacious.text = .ok others ∧
        others.map Lexeme.token = (lexemes ++ [last]).map Lexeme.token) ∧
      ∀ q, parse spacious.text = .ok q ↔ parse "LIST WHERE a-1>=-1 AND!true" = .ok q := by
  have h : tokenize "LIST WHERE a-1>=-1 AND!true" = .ok
      ([⟨.keyword .list, "LIST".toList, ⟨0, 1, 1⟩⟩,
        ⟨.keyword .condition, "WHERE".toList, ⟨5, 1, 6⟩⟩,
        ⟨.identifier "a-1", "a-1".toList, ⟨11, 1, 12⟩⟩,
        ⟨.greaterEqual, ">=".toList, ⟨14, 1, 15⟩⟩,
        ⟨.integer (-1), "-1".toList, ⟨16, 1, 17⟩⟩,
        ⟨.keyword .conjunction, "AND".toList, ⟨19, 1, 20⟩⟩,
        ⟨.bang, "!".toList, ⟨22, 1, 23⟩⟩,
        ⟨.boolean true, "true".toList, ⟨23, 1, 24⟩⟩] ++
        [⟨.endOfInput, [], ⟨27, 1, 28⟩⟩]) := by decide +kernel
  refine ⟨_, _, h, ?_, tokenize_laidOut h ?_⟩ <;> decide +kernel

end Notebook.Query
