import Notebook.Proofs.Number.ReadBack
import Notebook.Proofs.Query.Scanning
import Notebook.Proofs.Text.Trim

/-!
# What a piece of text is read as

A piece of canonical text is followed by the end, a blank, a comma or a closing parenthesis
(`Notebook.Query.Bounded`), and no token runs over one of these. So a piece can be said to be read
as some tokens (`Notebook.Query.ReadAs`), whatever comes after it.

Each kind of piece that a canonical text has is read here as the tokens it was written for: words,
numbers, texts in quotes, tags and links.
-/

namespace Notebook.Query

open Number Text Unicode

/-! ### Characters in front -/

theorem tokensOf_congr {cs ds : List Char}
    (h : cs.dropWhile isWhiteSpace = ds.dropWhile isWhiteSpace) : tokensOf cs = tokensOf ds := by
  rcases hscan : (scan (cs.dropWhile isWhiteSpace)).outcome with e | t
  · rw [tokensOf_of_error hscan, tokensOf_of_error (h ▸ hscan)]
  · by_cases ht : t = .endOfInput
    · subst ht
      rw [tokensOf_of_end hscan, tokensOf_of_end (h ▸ hscan)]
    · have hds := tokensOf_of_token (h ▸ hscan) ht
      rw [hds, ← h]
      exact tokensOf_of_token hscan ht

@[simp] theorem tokensOf_nil : tokensOf [] = some [] := tokensOf_of_end rfl

@[simp] theorem tokensOf_blank (cs : List Char) : tokensOf (' ' :: cs) = tokensOf cs :=
  tokensOf_congr (by simp [show isWhiteSpace ' ' = true by decide])

theorem tokensOf_of_scan {cs rest : List Char} {t : Token}
    (hblank : cs.head?.any isWhiteSpace = false) (hscan : (scan cs).outcome = .ok t)
    (hrest : (scan cs).rest = rest) (ht : t ≠ .endOfInput) :
    tokensOf cs = (tokensOf rest).map (t :: ·) := by
  have h : cs.dropWhile isWhiteSpace = cs := by
    cases cs with
    | nil => rfl
    | cons c cs => simp [show isWhiteSpace c = false by simpa using hblank]
  rw [tokensOf_of_token (by rwa [h]) ht, h, hrest]

@[simp] theorem tokensOf_openParen (cs : List Char) :
    tokensOf ('(' :: cs) = (tokensOf cs).map (.openParen :: ·) :=
  tokensOf_of_scan rfl rfl rfl (by simp)

@[simp] theorem tokensOf_closeParen (cs : List Char) :
    tokensOf (')' :: cs) = (tokensOf cs).map (.closeParen :: ·) :=
  tokensOf_of_scan rfl rfl rfl (by simp)

@[simp] theorem tokensOf_comma (cs : List Char) :
    tokensOf (',' :: cs) = (tokensOf cs).map (.comma :: ·) :=
  tokensOf_of_scan rfl rfl rfl (by simp)

@[simp] theorem tokensOf_dot (cs : List Char) :
    tokensOf ('.' :: cs) = (tokensOf cs).map (.dot :: ·) :=
  tokensOf_of_scan rfl rfl rfl (by simp)

/-! ### Pieces -/

/-- **Text that no token runs into**: it is over, or starts with a blank, a comma or a closing
parenthesis. -/
def Bounded (rest : List Char) : Prop := ∀ c ∈ rest.head?, c = ' ' ∨ c = ',' ∨ c = ')'

@[simp] theorem bounded_nil : Bounded [] := by simp [Bounded]

@[simp] theorem bounded_cons {c : Char} {cs : List Char} :
    Bounded (c :: cs) ↔ c = ' ' ∨ c = ',' ∨ c = ')' := by simp [Bounded]

/-- The first character, if there is one, is not of a class that the three bounds are not of. -/
theorem Bounded.head? {rest : List Char} (h : Bounded rest) {p : Char → Bool}
    (hblank : p ' ' = false) (hcomma : p ',' = false) (hclose : p ')' = false) :
    rest.head?.any p = false := by
  cases rest with
  | nil => rfl
  | cons c cs =>
    rcases bounded_cons.mp h with rfl | rfl | rfl
    · exact hblank
    · exact hcomma
    · exact hclose

/-- Tokens in parentheses. -/
def parenthesized (ts : List Token) : List Token := .openParen :: (ts ++ [.closeParen])

/-- **A piece of text that is read as some tokens**, whatever bounded text comes after it. -/
def ReadAs (piece : List Char) (ts : List Token) : Prop :=
  ∀ rest, Bounded rest → tokensOf (piece ++ rest) = (tokensOf rest).map (ts ++ ·)

namespace ReadAs

variable {piece other : List Char} {ts us : List Token}

theorem tokensOf (h : ReadAs piece ts) : tokensOf piece = some ts := by
  simpa using h [] bounded_nil

theorem nil : ReadAs [] [] := by
  intro rest _
  simp

/-- Two pieces with a blank between them. -/
theorem blank (h : ReadAs piece ts) (h' : ReadAs other us) :
    ReadAs (piece ++ ' ' :: other) (ts ++ us) := by
  intro rest hrest
  rw [List.append_assoc, List.cons_append, h _ (by simp), tokensOf_blank, h' rest hrest]
  simp [Function.comp_def]

/-- Two pieces with a comma and a blank between them. -/
theorem comma (h : ReadAs piece ts) (h' : ReadAs other us) :
    ReadAs (piece ++ ',' :: ' ' :: other) (ts ++ .comma :: us) := by
  intro rest hrest
  rw [List.append_assoc, List.cons_append, List.cons_append, h _ (by simp), tokensOf_comma,
    tokensOf_blank, h' rest hrest]
  simp [Function.comp_def]

/-- Texts of items with commas between them. -/
theorem list {α : Type} {text : α → String} {tokens : α → List Token} {items : List α}
    (h : ∀ item ∈ items, ReadAs (text item).toList (tokens item)) :
    ReadAs (", ".intercalate (items.map text)).toList
      ([Token.comma].intercalate (items.map tokens)) := by
  rw [String.toList_intercalate, List.map_map]
  induction items with
  | nil => exact nil
  | cons item items ih =>
    obtain ⟨hitem, hitems⟩ := List.forall_mem_cons.mp h
    by_cases hempty : items = []
    · subst hempty
      simpa using hitem
    · rw [List.map_cons, List.map_cons, List.intercalate_cons_of_ne_nil (by simpa using hempty),
        List.intercalate_cons_of_ne_nil (by simpa using hempty)]
      simpa using hitem.comma (ih hitems)

/-- A piece in parentheses. -/
theorem parentheses (h : ReadAs piece ts) :
    ReadAs ('(' :: (piece ++ [')'])) (parenthesized ts) := by
  intro rest _
  rw [List.cons_append, List.append_assoc, tokensOf_openParen, List.singleton_append,
    h _ (by simp), tokensOf_closeParen]
  simp [parenthesized, Function.comp_def]

/-- A piece that is scanned as one token. -/
theorem of_scan {t : Token} (hblank : piece.head?.any (!isWhiteSpace ·) = true)
    (ht : t ≠ .endOfInput)
    (h : ∀ rest, Bounded rest →
      (scan (piece ++ rest)).outcome = .ok t ∧ (scan (piece ++ rest)).rest = rest) :
    ReadAs piece [t] := by
  intro rest hrest
  obtain ⟨hscan, hleft⟩ := h rest hrest
  refine tokensOf_of_scan ?_ hscan hleft ht
  cases piece with
  | nil => cases hblank
  | cons c cs => simpa using hblank

end ReadAs

/-! ### Words -/

/-- **A word**: characters that could be a name, at their start too. -/
def isWord : List Char → Bool
  | [] => false
  | c :: cs => startsName c && !isWhiteSpace c && cs.all continuesName

theorem continuesName_of_startsName {c : Char} (h : startsName c = true) :
    continuesName c = true := by
  simp only [startsName, continuesName, isAlphanumeric, Bool.or_eq_true] at h ⊢
  rcases h with h | h
  · exact .inl (.inl (.inl (.inl h)))
  · exact .inl (.inr h)

theorem isDigit_of_startsName {c : Char} (h : startsName c = true) : c.isDigit = false := by
  rw [Bool.eq_false_iff]
  intro hc
  have hdigit := toNat_of_isDigit hc
  have hascii : isAscii c = true := by
    simp only [isAscii, decide_eq_true_eq]
    omega
  have halpha : c.isAlpha = false := by
    change (decide (c.val ≥ 65 ∧ c.val ≤ 90) ||
      (decide (c.val ≥ 97) && decide (c.val ≤ 122))) = false
    change 48 ≤ c.val.toNat ∧ c.val.toNat ≤ 57 at hdigit
    simp only [UInt32.le_iff_toNat_le, ge_iff_le, Bool.or_eq_false_iff, Bool.and_eq_false_imp,
      decide_eq_true_eq, decide_eq_false_iff_not, UInt32.reduceToNat]
    omega
  have hunder : c ≠ '_' := by
    rintro rfl
    exact absurd hdigit.2 (by decide)
  simp [startsName, isAlphabetic, hascii, halpha, hunder] at h

section Classes

/-- The characters that signs start with. -/
def signStarts : List Char := ['=', '!', '<', '>', ',', '.', '(', ')']

variable {p : Char → Bool} {c : Char}

theorem ne_of_class {d : Char} (hc : p c = true) (hd : p d = false) : c ≠ d := by
  rintro rfl
  exact absurd hc (by simp [hd])

/-- A character of a class without the starts of signs starts no sign. -/
theorem symbol?_of_class (hc : p c = true) (hp : signStarts.all (!p ·) = true) (cs : List Char) :
    symbol? (c :: cs) = none := by
  have hne : ∀ d ∈ signStarts, c ≠ d := by
    intro d hd
    have hnot := List.all_eq_true.mp hp d hd
    exact ne_of_class hc (by simpa using hnot)
  unfold symbol?
  split
  all_goals
    first
    | rfl
    | next heq => exact absurd (List.cons.inj heq).1 (hne _ (by simp [signStarts]))

end Classes

/-- A character that starts a name starts no other token. -/
theorem scan_of_startsName {c : Char} (hc : startsName c = true) (cs : List Char) :
    scan (c :: cs) = scanName (c :: cs) := by
  have hne : ∀ d, startsName d = false → c ≠ d := fun d => ne_of_class hc
  simp only [scan, symbol?_of_class hc (by decide) cs]
  rw [if_neg (hne _ (by decide)), if_neg (by simp [isDigit_of_startsName hc]),
    if_neg (by simp [hne '"' (by decide), hne '\'' (by decide)]), if_neg (hne _ (by decide)),
    if_neg (hne _ (by decide)), if_pos hc]

theorem Token.ofName_ne_endOfInput (cs : List Char) : Token.ofName cs ≠ .endOfInput := by
  unfold Token.ofName
  dsimp only
  repeat' split
  all_goals simp

theorem tokensOf_word {cs rest : List Char} (h : isWord cs = true)
    (hrest : rest.head?.any continuesName = false) :
    tokensOf (cs ++ rest) = (tokensOf rest).map (Token.ofName cs :: ·) := by
  cases cs with
  | nil => cases h
  | cons c cs =>
    simp only [isWord, Bool.and_eq_true, Bool.not_eq_true', List.all_eq_true] at h
    obtain ⟨⟨hstart, hblank⟩, hcs⟩ := h
    have hall : ∀ d ∈ c :: cs, continuesName d = true := by
      simpa [continuesName_of_startsName hstart] using hcs
    obtain ⟨htake, hdrop⟩ := takeWhile_append_of_head hall hrest
    refine tokensOf_of_scan hblank ?_ ?_ (Token.ofName_ne_endOfInput _)
    · rw [List.cons_append, scan_of_startsName hstart]
      exact congrArg (Except.ok ∘ Token.ofName) htake
    · rw [List.cons_append, scan_of_startsName hstart]
      exact hdrop

theorem readAs_word {cs : List Char} (h : isWord cs = true) : ReadAs cs [Token.ofName cs] :=
  fun _ hrest => tokensOf_word h (hrest.head? (by decide) (by decide) (by decide))

/-- A reserved word is read as itself. -/
theorem readAs_keyword (word : Keyword) : ReadAs word.text.toList [.keyword word] := by
  cases word <;> exact readAs_word (by decide)

theorem readAs_boolean (b : Bool) : ReadAs (Token.booleanText b).toList [.boolean b] := by
  cases b <;> exact readAs_word (by decide)

theorem readAs_null : ReadAs "null".toList [.null] := readAs_word (by decide)

/-! ### Signs -/

/-- The token that spells a comparison. -/
def Comparison.token : Comparison → Token
  | equal => .equal
  | notEqual => .notEqual
  | less => .less
  | greater => .greater
  | lessEqual => .lessEqual
  | greaterEqual => .greaterEqual

theorem Comparison.spelled_token (operator : Comparison) : operator.Spelled operator.token := by
  cases operator <;> constructor

theorem readAs_comparison (operator : Comparison) :
    ReadAs operator.text.toList [operator.token] := by
  cases operator
  all_goals
    refine ReadAs.of_scan (by decide) (by simp [Comparison.token]) fun rest hrest => ?_
    rcases rest with _ | ⟨c, rest⟩
    · exact ⟨rfl, rfl⟩
    · rcases bounded_cons.mp hrest with rfl | rfl | rfl <;> exact ⟨rfl, rfl⟩

/-- A hyphen that no digit follows is a sign of its own. -/
theorem tokensOf_minus {cs : List Char} (h : cs.head?.any Char.isDigit = false) :
    tokensOf ('-' :: cs) = (tokensOf cs).map (.minus :: ·) := by
  have hscan : scan ('-' :: cs) = ⟨.ok .minus, ['-'], cs⟩ := by
    simp [scan, symbol?, h]
  exact tokensOf_of_scan rfl (by rw [hscan]) (by rw [hscan]) (by simp)

/-! ### Numbers -/

/-- The characters of a sign. -/
def signOf (negative : Bool) : List Char := if negative then ['-'] else []

theorem head?_any_of_forall {p : Char → Bool} {cs : List Char} (hne : cs ≠ [])
    (h : ∀ c ∈ cs, p c = true) : cs.head?.any p = true := by
  cases cs with
  | nil => exact absurd rfl hne
  | cons c cs => exact h c (List.mem_cons_self ..)

/-- Digits start a number, with a minus sign or without. -/
theorem scan_of_isDigit (negative : Bool) {c : Char} (hc : c.isDigit = true) (cs : List Char) :
    scan (signOf negative ++ c :: cs) = scanDigits negative (c :: cs) := by
  cases negative with
  | true => simp [signOf, scan, symbol?, hc]
  | false =>
    simp only [signOf, Bool.false_eq_true, if_false, List.nil_append, scan,
      symbol?_of_class hc (by decide) cs]
    rw [if_neg (ne_of_class hc (by decide)), if_pos hc]

/-- Digits with a sign, and after them what they do not run into, are one token. -/
theorem readAs_of_scanDigits {negative : Bool} {cs : List Char} {t : Token}
    (hcs : cs.head?.any Char.isDigit = true) (ht : t ≠ .endOfInput)
    (h : ∀ rest, Bounded rest → (scanDigits negative (cs ++ rest)).outcome = .ok t ∧
      (scanDigits negative (cs ++ rest)).rest = rest) :
    ReadAs (signOf negative ++ cs) [t] := by
  cases cs with
  | nil => cases hcs
  | cons c cs =>
    have hc : c.isDigit = true := by simpa using hcs
    refine ReadAs.of_scan ?_ ht fun rest hrest => ?_
    · cases negative with
      | true => rfl
      | false => simpa [signOf] using isWhiteSpace_of_isDigit hc
    · rw [List.append_assoc, List.cons_append, scan_of_isDigit negative hc]
      exact h rest hrest

theorem scanDigits_whole (negative : Bool) {ds rest : List Char}
    (hds : ∀ c ∈ ds, c.isDigit = true) (hrest : Bounded rest) :
    (scanDigits negative (ds ++ rest)).outcome = wholeToken negative ds ∧
      (scanDigits negative (ds ++ rest)).rest = rest := by
  obtain ⟨htake, hdrop⟩ :=
    takeWhile_append_of_head hds (hrest.head? (by decide) (by decide) (by decide))
  -- a bound is no point, so that the number has no places
  have hplaces : fractionDigits rest = [] := by
    cases rest with
    | nil => rfl
    | cons c rest => rcases bounded_cons.mp hrest with rfl | rfl | rfl <;> rfl
  simp only [scanDigits, htake, hdrop, hplaces, if_true, and_self]

theorem scanDigits_fraction (negative : Bool) {whole places rest : List Char}
    (hwhole : ∀ c ∈ whole, c.isDigit = true) (hplaces : ∀ c ∈ places, c.isDigit = true)
    (hne : places ≠ []) (hrest : Bounded rest) :
    (scanDigits negative (whole ++ '.' :: places ++ rest)).outcome =
        .ok (.real (.ofDecimal negative (wholeOf (whole ++ places)) (-places.length))) ∧
      (scanDigits negative (whole ++ '.' :: places ++ rest)).rest = rest := by
  rw [List.append_assoc, List.cons_append]
  have hpoint : ('.' :: (places ++ rest)).head?.any Char.isDigit = false := rfl
  obtain ⟨htake, hdrop⟩ := takeWhile_append_of_head hwhole hpoint
  have hfraction : fractionDigits ('.' :: (places ++ rest)) = places :=
    (takeWhile_append_of_head hplaces (hrest.head? (by decide) (by decide) (by decide))).1
  simp [scanDigits, htake, hdrop, hfraction, hne]

/-- The text of a whole number is read as the number. -/
theorem readAs_integer (n : Int64) : ReadAs (integerText n.toInt).toList [.integer n] := by
  have htext : (integerText n.toInt).toList =
      signOf (n.toInt < 0) ++ (digitsOf n.toInt.natAbs).toList := by
    by_cases h : n.toInt < 0 <;> simp [integerText, signOf, h]
  have hdigits : ∀ c ∈ (digitsOf n.toInt.natAbs).toList, c.isDigit = true :=
    fun c => isDigit_of_mem_digitsOf
  have htoken : wholeToken (n.toInt < 0) (digitsOf n.toInt.natAbs).toList = .ok (.integer n) := by
    have hn : (if n.toInt < 0 then -(n.toInt.natAbs : Int) else n.toInt.natAbs) = n.toInt := by
      omega
    have hfits : fitsInteger n.toInt = true := by
      have hlow := Int64.le_toInt n
      have hhigh := Int64.toInt_lt n
      simp only [fitsInteger, Bool.and_eq_true, decide_eq_true_eq]
      exact ⟨hlow, hhigh⟩
    simp only [wholeToken, wholeOf_digitsOf, decide_eq_true_eq, hn, hfits, if_true,
      Int64.ofInt_toInt]
  rw [htext]
  refine readAs_of_scanDigits (head?_any_of_forall (toList_digitsOf_ne_nil _) hdigits) (by simp)
    fun rest hrest => ?_
  obtain ⟨hok, hleft⟩ := scanDigits_whole (n.toInt < 0) hdigits hrest
  exact ⟨hok.trans htoken, hleft⟩

/-- Digits with a point among them are read as a number with a point. -/
theorem readAs_fraction (negative : Bool) {whole places : List Char}
    (hdigits : ∀ c ∈ whole ++ places, c.isDigit = true) (hwhole : whole ≠ [])
    (hplaces : places ≠ []) :
    ReadAs (signOf negative ++ (whole ++ '.' :: places))
      [.real (.ofDecimal negative (wholeOf (whole ++ places)) (-places.length))] := by
  have hwholes : ∀ c ∈ whole, c.isDigit = true := fun c hc => hdigits c (List.mem_append_left _ hc)
  refine readAs_of_scanDigits ?_ (by simp) fun rest hrest => ?_
  · obtain ⟨c, cs, rfl⟩ := List.exists_cons_of_ne_nil hwhole
    exact hwholes c (List.mem_cons_self ..)
  · exact scanDigits_fraction negative hwholes
      (fun c hc => hdigits c (List.mem_append_right _ hc)) hplaces hrest

/-- The text of a number with a fraction is read as the number. -/
theorem readAs_real {x : Finite} (hx : ¬x.IsWhole) :
    ReadAs (Binary64.finite x).text.toList [.real (.finite x)] := by
  obtain ⟨whole, places, htext, hwhole, hplaces, hdigits, hvalue⟩ := x.exists_text hx
  rw [htext, ← hvalue]
  exact readAs_fraction x.negative hdigits hwhole hplaces

end Notebook.Query
