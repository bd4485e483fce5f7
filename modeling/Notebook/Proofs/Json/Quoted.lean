import Notebook.Json.Reading

/-!
# Quoted texts

A quoted text is read back as the text, whatever characters are in it: each one is written in a form
that stands for it alone (`Notebook.Json.readQuoted_escaped`), and none of the forms has a quote
that could be the closing one.
-/

namespace Notebook.Json

/-! ### Digits of base sixteen -/

theorem hexValue?_hexDigit : ∀ n < 16, hexValue? (hexDigit n) = some n := by decide

/-- Two digits are read as the number of their two zeros and themselves. -/
theorem hexCode_digits {m n : Nat} (hm : m < 16) (hn : n < 16) (rest : List Char) :
    hexCode ('0' :: '0' :: hexDigit m :: hexDigit n :: rest) = .ok (m * 16 + n) := by
  have hlong :
      ¬['0', '0', hexDigit m, hexDigit n].foldl (fun size c => size + c.utf8Size) 0 < 4 := by
    have hm := (hexDigit m).utf8Size_pos
    have hn := (hexDigit n).utf8Size_pos
    have hzero : '0'.utf8Size = 1 := by decide
    simp only [List.foldl_cons, List.foldl_nil]
    omega
  have hvalues : ['0', '0', hexDigit m, hexDigit n].mapM hexValue? = some [0, 0, m, n] := by
    have hzero : hexValue? '0' = some 0 := by decide
    simp [hzero, hexValue?_hexDigit m hm, hexValue?_hexDigit n hn]
  simp only [hexCode, List.take_succ_cons, List.take_zero, if_neg hlong, hvalues, Nat.zero_mul,
    Nat.zero_add]

/-- A code below those of halves of pairs is that of its character. -/
theorem unitCharacter_of_lt {c : Char} (hc : c.toNat < 32) (rest : List Char) :
    unitCharacter c.toNat rest = .ok (c, 0) := by
  unfold unitCharacter
  rw [if_neg (by omega), if_pos (by omega), Char.ofNat_toNat]

/-! ### Texts -/

/-- A character that neither closes the text nor starts a form of another one stands for itself. -/
theorem readQuoted_plain {c : Char} (hquote : c ≠ '"') (hbackslash : c ≠ '\\') (hc : ¬c.toNat < 32)
    (strict : Bool) (before rest : List Char) :
    readQuoted strict before (c :: rest) = readQuoted strict (c :: before) rest := by
  rw [readQuoted, if_neg hc]
  all_goals simp [hquote, hbackslash]

/-- **A character is read back** from the form in which it is written. -/
theorem readQuoted_escaped (c : Char) (before rest : List Char) :
    readQuoted true before (escaped c ++ rest) = readQuoted true (c :: before) rest := by
  unfold escaped
  split
  case h_8 hquote hbackslash _ _ _ _ _ =>
    split
    · next hc =>
      have hcode :=
        hexCode_digits (m := c.toNat / 16) (n := c.toNat % 16) (by omega) (by omega) rest
      rw [Nat.div_add_mod'] at hcode
      simp only [List.cons_append, List.nil_append]
      rw [readQuoted, hcode]
      simp [unitCharacter_of_lt hc]
    · next hc => exact readQuoted_plain hquote hbackslash hc true before rest
  all_goals
    simp [readQuoted, escapeLetter?]

/-- **A quoted text is read back.** -/
theorem readQuoted_flatMap_escaped (s before rest : List Char) :
    readQuoted true before (s.flatMap escaped ++ '"' :: rest) =
      .ok (String.ofList (before.reverse ++ s), rest) := by
  induction s generalizing before with
  | nil => simp [readQuoted]
  | cons c s ih =>
    rw [List.flatMap_cons, List.append_assoc, readQuoted_escaped, ih, List.reverse_cons,
      List.append_assoc, List.singleton_append]

theorem readQuoted_quoted (s : String) (rest : List Char) :
    readQuoted true [] (s.toList.flatMap escaped ++ '"' :: rest) = .ok (s, rest) := by
  rw [readQuoted_flatMap_escaped, List.reverse_nil, List.nil_append, String.ofList_toList]

end Notebook.Json
