import Notebook.Number.Reading

/-!
# Numerals

Two sorts of texts spell a binary number: numerals (`Notebook.Number.IsNumeral`), which have a
digit, and the names of infinity and of not-a-number. The reading of a numeral rounds to the nearest
number or to an infinity, so not-a-number is only spelled by its name
(`Notebook.Number.Binary64.ofUnsignedText?_eq_nan_iff`).
-/

namespace Notebook.Number

/-! ### The grammar -/

/-- A sign, or none. -/
def IsSign (s : List Char) : Prop := s = [] ∨ s = ['-'] ∨ s = ['+']

/-- Digits, one at least. -/
def IsDigits (s : List Char) : Prop := s ≠ [] ∧ ∀ c ∈ s, c.isDigit = true

/-- Digits, one at least, and perhaps a point before, between or after them. -/
inductive IsMantissa : List Char → Prop
  /-- Without a point. -/
  | whole {digits : List Char} : IsDigits digits → IsMantissa digits
  /-- With a point. -/
  | point {whole places : List Char} : IsDigits (whole ++ places) →
    IsMantissa (whole ++ '.' :: places)

/-- A power of ten after a letter, or none. -/
inductive IsExponent : List Char → Prop
  /-- No power of ten. -/
  | none : IsExponent []
  /-- The letter, a sign and digits. -/
  | power {letter : Char} {sign digits : List Char} : letter = 'e' ∨ letter = 'E' → IsSign sign →
    IsDigits digits → IsExponent (letter :: (sign ++ digits))

/-- **A numeral**: digits with a point among them perhaps, and perhaps a sign in front of them and
an exponent after them. -/
inductive IsNumeral : List Char → Prop
  /-- Its three parts. -/
  | parts {sign mantissa exponent : List Char} : IsSign sign → IsMantissa mantissa →
    IsExponent exponent → IsNumeral (sign ++ (mantissa ++ exponent))

variable {s : List Char}

theorem exists_parts_of_signedWhole? {n : Int} (h : signedWhole? s = some n) :
    ∃ sign digits, s = sign ++ digits ∧ IsSign sign ∧ IsDigits digits := by
  have hdigits : ∀ (negative : Bool) (digits : List Char),
      (if digits.isEmpty || !digits.all Char.isDigit then none
        else some (if negative then -(wholeOf digits : Int) else wholeOf digits)) = some n →
      IsDigits digits := by
    intro negative digits h
    split at h
    · cases h
    · next hdigits =>
      simp only [Bool.or_eq_true, Bool.not_eq_true', not_or, Bool.not_eq_false,
        List.all_eq_true, List.isEmpty_iff] at hdigits
      exact hdigits
  unfold signedWhole? at h
  split at h
  next negative digits heq =>
  split at heq
  · obtain ⟨rfl, rfl⟩ := Prod.mk.inj heq
    exact ⟨['-'], _, rfl, .inr (.inl rfl), hdigits true _ h⟩
  · obtain ⟨rfl, rfl⟩ := Prod.mk.inj heq
    exact ⟨['+'], _, rfl, .inr (.inr rfl), hdigits false _ h⟩
  · obtain ⟨rfl, rfl⟩ := Prod.mk.inj heq
    exact ⟨[], _, rfl, .inl rfl, hdigits false _ h⟩

theorem isNumeral_of_signedWhole? {n : Int} (h : signedWhole? s = some n) : IsNumeral s := by
  obtain ⟨sign, digits, rfl, hsign, hdigits⟩ := exists_parts_of_signedWhole? h
  simpa using IsNumeral.parts hsign (.whole hdigits) .none

namespace Binary64

theorem isExponent_of_exponentOfText? {n : Int} (h : exponentOfText? s = some n) :
    IsExponent s := by
  unfold exponentOfText? at h
  split at h
  · exact .none
  · split at h
    · next hletter =>
      obtain ⟨sign, digits, rfl, hsign, hdigits⟩ := exists_parts_of_signedWhole? h
      exact .power hletter hsign hdigits
    · cases h

/-! ### What is read -/

/-- The names of infinity and of not-a-number, in small letters. -/
def names : List (List Char) :=
  [['i', 'n', 'f'], ['i', 'n', 'f', 'i', 'n', 'i', 't', 'y'], ['n', 'a', 'n']]

theorem ofDecimal_ne_nan (negative : Bool) (digits : Nat) (exponent : Int) :
    ofDecimal negative digits exponent ≠ .nan := by
  have hparts : ∀ significand e, ofParts negative significand e ≠ .nan := by
    intro significand e
    unfold ofParts
    repeat' split
    all_goals simp
  have hquotient : ∀ n d, ofQuotient negative n d ≠ .nan := by
    intro n d
    unfold ofQuotient
    split
    · simp [zero]
    · exact hparts _ _
  unfold ofDecimal
  repeat' split
  all_goals first | exact hquotient _ _ | simp [zero]

/-- **What a text without a sign spells** is told by its name, or by a mantissa and an exponent. -/
theorem ofUnsignedText?_cases {negative : Bool} {x : Binary64}
    (h : ofUnsignedText? negative s = some x) :
    s.map Char.toLower ∈ names ∨ ∃ mantissa exponent digits e, s = mantissa ++ exponent ∧
      IsMantissa mantissa ∧ IsExponent exponent ∧ x = ofDecimal negative digits e := by
  have hsplit : s.takeWhile Char.isDigit ++ s.dropWhile Char.isDigit = s :=
    List.takeWhile_append_dropWhile
  have hwhole : ∀ c ∈ s.takeWhile Char.isDigit, c.isDigit = true :=
    List.all_eq_true.mp List.all_takeWhile
  -- with a point or without one, the digits are followed by an exponent
  have hread : ∀ places rest : List Char,
      (if (s.takeWhile Char.isDigit).isEmpty && places.isEmpty then none
        else (exponentOfText? rest).map fun exponent => ofDecimal negative
          (wholeOf (s.takeWhile Char.isDigit ++ places)) (exponent - places.length)) = some x →
      s.takeWhile Char.isDigit ++ places ≠ [] ∧ IsExponent rest ∧
        ∃ digits e, x = ofDecimal negative digits e := by
    intro places rest h
    split at h
    · cases h
    · next hne =>
      obtain ⟨e, hexponent, rfl⟩ := Option.map_eq_some_iff.mp h
      exact ⟨by simpa using hne, isExponent_of_exponentOfText? hexponent, _, _, rfl⟩
  unfold ofUnsignedText? at h
  dsimp only at h
  split at h
  · next hname =>
    left
    rcases hname with hname | hname <;> simp [hname, names]
  split at h
  · next hname =>
    left
    simp [hname, names]
  right
  split at h
  · next after hdrop =>
    obtain ⟨hne, hexponent, digits, e, hx⟩ := hread _ _ h
    have hplaces : ∀ c ∈ after.takeWhile Char.isDigit, c.isDigit = true :=
      List.all_eq_true.mp List.all_takeWhile
    refine ⟨_, after.dropWhile Char.isDigit, digits, e, ?_,
      .point ⟨hne, List.forall_mem_append.mpr ⟨hwhole, hplaces⟩⟩, hexponent, hx⟩
    rw [List.append_assoc, List.cons_append, List.takeWhile_append_dropWhile, ← hdrop, hsplit]
  · obtain ⟨hne, hexponent, digits, e, hx⟩ := hread _ _ h
    rw [List.append_nil] at hne
    exact ⟨_, _, digits, e, hsplit.symm, .whole ⟨hne, hwhole⟩, hexponent, hx⟩

/-- **Not-a-number is only spelled by its name.** -/
theorem ofUnsignedText?_eq_nan_iff {negative : Bool} :
    ofUnsignedText? negative s = some .nan ↔ s.map Char.toLower = ['n', 'a', 'n'] := by
  constructor
  · intro h
    rcases ofUnsignedText?_cases h with hname | ⟨_, _, digits, e, -, -, -, hx⟩
    · simp only [names, List.mem_cons, List.not_mem_nil, or_false] at hname
      rcases hname with hname | hname | hname
      · simp [ofUnsignedText?, hname] at h
      · simp [ofUnsignedText?, hname] at h
      · exact hname
    · exact absurd hx.symm (ofDecimal_ne_nan negative digits e)
  · intro h
    simp [ofUnsignedText?, h]

end Binary64

end Notebook.Number
