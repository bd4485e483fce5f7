import Notebook.Text.Trim

/-!
# Trimmed texts

Trimming takes off an end at each side: what is left is a part of the text, and trimming it again
changes nothing. Trimming the end takes off white space alone
(`Notebook.Text.exists_trimEnd_append`), so of two texts one after the other only the second one is
trimmed, if it is there after all (`Notebook.Text.trimEnd_append`).
-/

namespace Notebook.Text

theorem dropWhile_of_head? {p : Char → Bool} {s : List Char} (h : s.head?.any p = false) :
    s.dropWhile p = s := by
  cases s with
  | nil => rfl
  | cons c s => simp [show p c = false by simpa using h]

/-- **The longest run of a class** ends before something out of it. -/
theorem takeWhile_append_of_head {p : Char → Bool} {cs rest : List Char} (h : ∀ c ∈ cs, p c = true)
    (hrest : rest.head?.any p = false) :
    (cs ++ rest).takeWhile p = cs ∧ (cs ++ rest).dropWhile p = rest := by
  rw [List.takeWhile_append_of_pos h, List.dropWhile_append_of_pos h]
  cases rest with
  | nil => simp
  | cons c rest =>
    have hc : p c = false := by simpa using hrest
    simp [hc]

theorem head?_dropWhile_any (p : Char → Bool) (s : List Char) :
    (s.dropWhile p).head?.any p = false := by
  have h := List.head?_dropWhile_not p s
  cases hs : (s.dropWhile p).head? with
  | none => rfl
  | some c => simpa [hs] using h

theorem isPrefix_dropEndWhile (p : Char → Bool) (s : List Char) : dropEndWhile p s <+: s := by
  have h := List.reverse_prefix.mpr (List.dropWhile_suffix p (l := s.reverse))
  rwa [List.reverse_reverse] at h

theorem dropEndWhile_dropEndWhile (p : Char → Bool) (s : List Char) :
    dropEndWhile p (dropEndWhile p s) = dropEndWhile p s := by
  simp only [dropEndWhile, List.reverse_reverse]
  rw [dropWhile_of_head? (head?_dropWhile_any p s.reverse)]

/-- A trimmed text does not start with white space. -/
theorem head?_trim_any (s : List Char) : (trim s).head?.any Unicode.isWhiteSpace = false := by
  obtain ⟨after, hafter⟩ := isPrefix_dropEndWhile Unicode.isWhiteSpace (trimStart s)
  have hstart := head?_dropWhile_any Unicode.isWhiteSpace s
  change (trimStart s).head?.any Unicode.isWhiteSpace = false at hstart
  rw [← hafter] at hstart
  change (trim s ++ after).head?.any Unicode.isWhiteSpace = false at hstart
  cases h : trim s with
  | nil => rfl
  | cons c cs =>
    rw [h] at hstart
    exact hstart

/-- **A text is trimmed** when neither end of it is white space. -/
theorem trim_eq_self_iff {s : List Char} :
    trim s = s ↔ s.head?.any Unicode.isWhiteSpace = false ∧ trimEnd s = s := by
  constructor
  · intro h
    have hhead := head?_trim_any s
    rw [h] at hhead
    have hstart : trimStart s = s := dropWhile_of_head? hhead
    rw [trim, hstart] at h
    exact ⟨hhead, h⟩
  · rintro ⟨hhead, hend⟩
    rw [trim, trimStart, dropWhile_of_head? hhead, hend]

/-- **Trimming again changes nothing.** -/
@[simp] theorem trim_trim (s : List Char) : trim (trim s) = trim s :=
  trim_eq_self_iff.mpr ⟨head?_trim_any s, dropEndWhile_dropEndWhile _ _⟩

/-! ### White space at the end -/

section Blank

variable {s t : List Char}

theorem isBlank_iff : isBlank s = true ↔ ∀ c ∈ s, Unicode.isWhiteSpace c = true := List.all_eq_true

theorem isBlank_append : isBlank (s ++ t) = (isBlank s && isBlank t) := List.all_append

theorem isBlank_reverse : isBlank s.reverse = isBlank s := List.all_reverse

theorem trimStart_of_isBlank (h : isBlank s = true) : trimStart s = [] := by
  induction s with
  | nil => rfl
  | cons c s ih =>
    simp only [isBlank, List.all_cons, Bool.and_eq_true] at h
    rw [trimStart, List.dropWhile_cons, if_pos h.1]
    exact ih h.2

theorem trimEnd_of_isBlank (h : isBlank s = true) : trimEnd s = [] := by
  have hstart : trimStart s.reverse = [] := trimStart_of_isBlank (isBlank_reverse.trans h)
  rw [trimEnd, dropEndWhile, ← trimStart, hstart, List.reverse_nil]

theorem trimStart_eq_nil_iff : trimStart s = [] ↔ isBlank s = true := by
  refine ⟨fun h => ?_, trimStart_of_isBlank⟩
  induction s with
  | nil => rfl
  | cons c s ih =>
    rw [trimStart, List.dropWhile_cons] at h
    split at h
    · next hc => rw [isBlank, List.all_cons, hc, Bool.true_and, ← isBlank, ih h]
    · cases h

/-- White space after a text is taken off with its own. -/
theorem trimEnd_append_of_isBlank (h : isBlank t = true) : trimEnd (s ++ t) = trimEnd s := by
  have hstart : trimStart t.reverse = [] := trimStart_of_isBlank (isBlank_reverse.trans h)
  rw [trimStart] at hstart
  simp only [trimEnd, dropEndWhile, List.reverse_append, List.dropWhile_append, hstart,
    List.isEmpty_nil, if_true]

/-- What is before a text with something in it is not trimmed. -/
theorem trimEnd_append_of_not_isBlank (h : isBlank t = false) :
    trimEnd (s ++ t) = s ++ trimEnd t := by
  have hstart : (t.reverse.dropWhile Unicode.isWhiteSpace).isEmpty = false := by
    rw [List.isEmpty_eq_false_iff, ← trimStart, Ne, trimStart_eq_nil_iff, isBlank_reverse, h]
    exact Bool.false_ne_true
  simp only [trimEnd, dropEndWhile, List.reverse_append, List.dropWhile_append, hstart,
    Bool.false_eq_true, if_false, List.reverse_reverse]

/-- Nothing is trimmed where a text ends with something to see. -/
theorem trimEnd_append_of_forall (h : ∀ c ∈ t, Unicode.isWhiteSpace c = false) (ht : t ≠ []) :
    trimEnd (s ++ t) = s ++ t := by
  have hhead : (s ++ t).reverse.head?.any Unicode.isWhiteSpace = false := by
    rw [List.reverse_append]
    cases hlast : t.reverse with
    | nil => exact absurd (List.reverse_eq_nil_iff.mp hlast) ht
    | cons c before => exact h c (List.mem_reverse.mp (hlast ▸ List.mem_cons_self ..))
  rw [trimEnd, dropEndWhile, dropWhile_of_head? hhead, List.reverse_reverse]

/-- **Only the second of two texts is trimmed**, where the first one is trimmed already. -/
theorem trimEnd_append (h : trimEnd s = s) (t : List Char) : trimEnd (s ++ t) = s ++ trimEnd t := by
  cases hblank : isBlank t with
  | true => rw [trimEnd_append_of_isBlank hblank, trimEnd_of_isBlank hblank, h, List.append_nil]
  | false => exact trimEnd_append_of_not_isBlank hblank

@[simp] theorem trimEnd_trimEnd (s : List Char) : trimEnd (trimEnd s) = trimEnd s :=
  dropEndWhile_dropEndWhile _ s

/-- Trimming the end takes off white space alone. -/
theorem exists_trimEnd_append (s : List Char) :
    ∃ blanks, isBlank blanks = true ∧ s = trimEnd s ++ blanks := by
  refine ⟨(s.reverse.takeWhile Unicode.isWhiteSpace).reverse, ?_, ?_⟩
  · rw [isBlank, List.all_reverse]
    exact List.all_takeWhile
  · rw [trimEnd, dropEndWhile, ← List.reverse_append, List.takeWhile_append_dropWhile,
      List.reverse_reverse]

/-- The end of a text that has no white space at its end has none either. -/
theorem trimEnd_of_isSuffix (hsuffix : t <:+ s) (h : trimEnd s = s) : trimEnd t = t := by
  obtain ⟨before, rfl⟩ := hsuffix
  cases hblank : isBlank t with
  | true =>
    rw [trimEnd_append_of_isBlank hblank] at h
    have hle := (isPrefix_dropEndWhile Unicode.isWhiteSpace before).length_le
    rw [← trimEnd, h, List.length_append] at hle
    rw [List.length_eq_zero_iff.mp (by omega : t.length = 0)]
    rfl
  | false =>
    rw [trimEnd_append_of_not_isBlank hblank] at h
    exact List.append_cancel_left h

theorem trim_append_of_isBlank (h : isBlank t = true) : trim (s ++ t) = trim s := by
  rw [trim, trimStart, List.dropWhile_append]
  split
  · next hnil =>
    rw [← trimStart, trimStart_of_isBlank h, trim, trimStart, List.isEmpty_iff.mp hnil]
  · exact trimEnd_append_of_isBlank h

theorem trim_trimEnd (s : List Char) : trim (trimEnd s) = trim s := by
  obtain ⟨blanks, hblanks, hs⟩ := exists_trimEnd_append s
  calc trim (trimEnd s) = trim (trimEnd s ++ blanks) := (trim_append_of_isBlank hblanks).symm
    _ = trim s := by rw [← hs]

/-- Trimming takes no notice of a change of characters that keeps white space. -/
theorem trim_map {f : Char → Char} (hf : ∀ c, Unicode.isWhiteSpace (f c) = Unicode.isWhiteSpace c)
    (s : List Char) : trim (s.map f) = (trim s).map f := by
  have hclass : Unicode.isWhiteSpace ∘ f = Unicode.isWhiteSpace := funext hf
  simp only [trim, trimEnd, trimStart, dropEndWhile, List.dropWhile_map, ← List.map_reverse, hclass]

/-! ### Without white space -/

/-- What there is to see of a text: its characters but for white space. -/
def ink (s : List Char) : List Char := s.filter (!Unicode.isWhiteSpace ·)

@[simp] theorem ink_append : ink (s ++ t) = ink s ++ ink t := List.filter_append s t

theorem ink_of_isBlank (h : isBlank s = true) : ink s = [] :=
  List.filter_eq_nil_iff.mpr fun c hc => by simp [isBlank_iff.mp h c hc]

@[simp] theorem ink_trimEnd (s : List Char) : ink (trimEnd s) = ink s := by
  obtain ⟨blanks, hblanks, hs⟩ := exists_trimEnd_append s
  calc ink (trimEnd s) = ink (trimEnd s ++ blanks) := by
        rw [ink_append, ink_of_isBlank hblanks, List.append_nil]
    _ = ink s := by rw [← hs]

end Blank

/-- Trimming leaves a part of the text. -/
theorem isInfix_trim (s : List Char) : trim s <:+: s :=
  (isPrefix_dropEndWhile _ _).isInfix.trans (List.dropWhile_suffix _).isInfix

end Notebook.Text
