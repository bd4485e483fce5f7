import Mathlib.Data.List.Basic
import Notebook.Proofs.Text.Trim
import Notebook.Text.Split

/-!
# Lines next to lines

A text that ends where a line ends (`Notebook.Text.EndsLine`) does not change how the text after it
falls into lines (`Notebook.Text.EndsLine.lines_append`), and it has as many lines as line feeds. So
a line can be found in a text by counting, and looked at without the rest.

Trimming the end of a text takes whole lines of white space off, and shortens the last line before
them; what is left keeps its place (`Notebook.Text.exists_lines_trimEnd`).
-/

namespace Notebook.Text

variable {line rest : List Char}

theorem splitWhere_ne_nil (p : Char → Bool) (s : List Char) : splitWhere p s ≠ [] := by
  rcases s with _ | ⟨c, s⟩
  · exact List.cons_ne_nil _ _
  · rw [splitWhere]
    split
    · exact List.cons_ne_nil _ _
    · split <;> exact List.cons_ne_nil _ _

theorem splitWhere_cons {p : Char → Bool} {c : Char} {s : List Char} {part : List Char}
    {parts : List (List Char)} (h : splitWhere p s = part :: parts) :
    splitWhere p (c :: s) = if p c then [] :: part :: parts else (c :: part) :: parts := by
  rw [splitWhere, h]

/-- The first part ends with the first separator. -/
theorem splitWhere_append {p : Char → Bool} {part : List Char} {c : Char}
    (hpart : ∀ d ∈ part, p d = false) (hc : p c = true) (rest : List Char) :
    splitWhere p (part ++ c :: rest) = part :: splitWhere p rest := by
  induction part with
  | nil =>
    obtain ⟨first, others, heq⟩ := List.exists_cons_of_ne_nil (splitWhere_ne_nil p rest)
    rw [List.nil_append, splitWhere_cons heq, if_pos hc, heq]
  | cons d part ih =>
    obtain ⟨hd, hpart⟩ := List.forall_mem_cons.mp hpart
    rw [List.cons_append, splitWhere_cons (ih hpart), if_neg (by simp [hd])]

theorem splitWhere_of_forall {p : Char → Bool} {part : List Char}
    (hpart : ∀ d ∈ part, p d = false) : splitWhere p part = [part] := by
  induction part with
  | nil => rfl
  | cons d part ih =>
    obtain ⟨hd, hpart⟩ := List.forall_mem_cons.mp hpart
    rw [splitWhere_cons (ih hpart), if_neg (by simp [hd])]

/-- **That a text is parted** at the characters of a class. -/
inductive PartedInto (p : Char → Bool) : List Char → List (List Char) → Prop
  /-- There is no such character. -/
  | whole {part : List Char} (hpart : ∀ c ∈ part, p c = false) : PartedInto p part [part]
  /-- The first such character ends the first part. -/
  | cut {part : List Char} {c : Char} {rest : List Char} {parts : List (List Char)}
    (hpart : ∀ d ∈ part, p d = false) (hc : p c = true) (hrest : PartedInto p rest parts) :
    PartedInto p (part ++ c :: rest) (part :: parts)

/-- A character out of the class is the first one of the first part. -/
theorem PartedInto.cons {p : Char → Bool} {c : Char} {s part : List Char} {parts : List (List Char)}
    (hc : p c = false) (h : PartedInto p s (part :: parts)) :
    PartedInto p (c :: s) ((c :: part) :: parts) := by
  cases h with
  | whole hpart => exact .whole (List.forall_mem_cons.mpr ⟨hc, hpart⟩)
  | cut hpart hend hrest => exact .cut (List.forall_mem_cons.mpr ⟨hc, hpart⟩) hend hrest

theorem partedInto_iff {p : Char → Bool} {s : List Char} {parts : List (List Char)} :
    PartedInto p s parts ↔ splitWhere p s = parts := by
  constructor
  · intro h
    induction h with
    | whole hpart => exact splitWhere_of_forall hpart
    | cut hpart hc _ ih => rw [splitWhere_append hpart hc, ih]
  · rintro rfl
    induction s with
    | nil => exact .whole (List.forall_mem_nil _)
    | cons c s ih =>
      obtain ⟨first, others, heq⟩ := List.exists_cons_of_ne_nil (splitWhere_ne_nil p s)
      rw [heq] at ih
      rw [splitWhere_cons heq]
      split
      · next hc => exact .cut (List.forall_mem_nil _) hc ih
      · next hc => exact ih.cons (Bool.eq_false_iff.mpr hc)

theorem not_lineFeed_of_not_mem (h : '\n' ∉ line) : ∀ d ∈ line, (d == '\n') = false := by
  rintro d hd
  rw [beq_eq_false_iff_ne]
  rintro rfl
  exact h hd

/-- A line in front of a line feed. -/
theorem lines_append_lineFeed (h : '\n' ∉ line) (rest : List Char) :
    lines (line ++ '\n' :: rest) = dropCarriageReturn line :: lines rest := by
  obtain ⟨first, others, heq⟩ :=
    List.exists_cons_of_ne_nil (splitWhere_ne_nil (· == '\n') rest)
  rw [lines, lines, splitWhere_append (not_lineFeed_of_not_mem h) (by decide), heq, linesOfParts]
  exact List.cons_ne_nil _ _

/-- A line that nothing ends. -/
theorem lines_of_not_mem (h : '\n' ∉ line) : lines line = if line.isEmpty then [] else [line] := by
  rw [lines, splitWhere_of_forall (not_lineFeed_of_not_mem h), linesOfParts]

theorem not_of_mem_splitWhere {p : Char → Bool} {s part : List Char} (h : part ∈ splitWhere p s) :
    ∀ c ∈ part, p c = false := by
  induction s generalizing part with
  | nil =>
    obtain rfl := List.mem_singleton.mp h
    exact List.forall_mem_nil _
  | cons d s ih =>
    obtain ⟨first, others, heq⟩ := List.exists_cons_of_ne_nil (splitWhere_ne_nil p s)
    rw [heq] at ih
    obtain ⟨hfirst, hothers⟩ := List.forall_mem_cons.mp fun part h => @ih part h
    rw [splitWhere_cons heq] at h
    split at h
    · rcases List.mem_cons.mp h with rfl | h
      · exact List.forall_mem_nil _
      · exact ih h
    · next hd =>
      rcases List.mem_cons.mp h with rfl | h
      · exact List.forall_mem_cons.mpr ⟨Bool.eq_false_iff.mpr hd, hfirst⟩
      · exact hothers part h

theorem dropCarriageReturn_prefix (line : List Char) : dropCarriageReturn line <+: line := by
  rw [dropCarriageReturn]
  split
  · exact List.dropLast_prefix line
  · exact List.prefix_refl line

/-- A carriage return that is dropped is white space. -/
theorem exists_dropCarriageReturn_append (line : List Char) :
    ∃ blanks, isBlank blanks = true ∧ line = dropCarriageReturn line ++ blanks := by
  rw [dropCarriageReturn]
  split
  · next hlast =>
    obtain ⟨others, rfl⟩ := List.getLast?_eq_some_iff.mp hlast
    exact ⟨['\r'], by decide, by rw [List.dropLast_concat]⟩
  · exact ⟨[], rfl, (List.append_nil line).symm⟩

theorem trimEnd_dropCarriageReturn (line : List Char) :
    trimEnd (dropCarriageReturn line) = trimEnd line := by
  obtain ⟨blanks, hblanks, hline⟩ := exists_dropCarriageReturn_append line
  calc trimEnd (dropCarriageReturn line) = trimEnd (dropCarriageReturn line ++ blanks) :=
        (trimEnd_append_of_isBlank hblanks).symm
    _ = trimEnd line := by rw [← hline]

theorem trim_dropCarriageReturn (line : List Char) :
    trim (dropCarriageReturn line) = trim line := by
  rw [← trim_trimEnd, trimEnd_dropCarriageReturn, trim_trimEnd]

theorem mem_of_mem_splitWhere {p : Char → Bool} {s part : List Char} (h : part ∈ splitWhere p s) :
    ∀ c ∈ part, c ∈ s := by
  induction s generalizing part with
  | nil =>
    obtain rfl := List.mem_singleton.mp h
    exact fun c hc => hc
  | cons d s ih =>
    obtain ⟨first, others, heq⟩ := List.exists_cons_of_ne_nil (splitWhere_ne_nil p s)
    rw [heq] at ih
    have hfirst := ih (List.mem_cons_self ..)
    rw [splitWhere_cons heq] at h
    split at h
    · rcases List.mem_cons.mp h with rfl | h
      · exact fun c hc => nomatch hc
      · exact fun c hc => List.mem_cons_of_mem d (ih h c hc)
    · rcases List.mem_cons.mp h with rfl | h
      · exact List.forall_mem_cons.mpr
          ⟨List.mem_cons_self .., fun c hc => List.mem_cons_of_mem d (hfirst c hc)⟩
      · exact fun c hc => List.mem_cons_of_mem d (ih (List.mem_cons_of_mem _ h) c hc)

/-- Each line is a part of the text between line feeds, perhaps without its carriage return. -/
theorem exists_part_of_mem_lines {s : List Char} (h : line ∈ lines s) :
    ∃ part ∈ splitWhere (· == '\n') s, line <+: part := by
  rw [lines] at h
  generalize splitWhere (· == '\n') s = parts at h ⊢
  fun_induction linesOfParts parts with
  | case1 => cases h
  | case2 last hlast => cases h
  | case3 last hlast =>
    obtain rfl := List.mem_singleton.mp h
    exact ⟨line, List.mem_singleton_self _, List.prefix_refl line⟩
  | case4 part parts hne ih =>
    rcases List.mem_cons.mp h with rfl | h
    · exact ⟨part, List.mem_cons_self .., dropCarriageReturn_prefix part⟩
    · obtain ⟨part', hpart', hbegins⟩ := ih h
      exact ⟨part', List.mem_cons_of_mem part hpart', hbegins⟩

/-- **A line is on one line.** -/
theorem not_mem_of_mem_lines {s : List Char} (h : line ∈ lines s) : '\n' ∉ line := by
  obtain ⟨part, hpart, hbegins⟩ := exists_part_of_mem_lines h
  exact fun hmem => absurd (not_of_mem_splitWhere hpart '\n' (hbegins.mem hmem)) (by decide)

/-- The lines of white space are white space. -/
theorem isBlank_of_mem_lines {s : List Char} (hs : isBlank s = true) (h : line ∈ lines s) :
    isBlank line = true := by
  obtain ⟨part, hpart, hbegins⟩ := exists_part_of_mem_lines h
  exact isBlank_iff.mpr fun c hc =>
    isBlank_iff.mp hs c (mem_of_mem_splitWhere hpart c (hbegins.mem hc))

/-- That a text **ends where a line ends**: it is made of lines with their line feeds. -/
inductive EndsLine : List Char → Prop
  /-- The start of a text. -/
  | nil : EndsLine []
  /-- One more line in front. -/
  | cons {line rest : List Char} : '\n' ∉ line → EndsLine rest → EndsLine (line ++ '\n' :: rest)

theorem endsLine_of_getLast? {s : List Char} (h : s = [] ∨ s.getLast? = some '\n') :
    EndsLine s := by
  induction hn : s.length using Nat.strongRecOn generalizing s with
  | ind n ih =>
    subst hn
    rcases h with rfl | h
    · exact .nil
    · obtain ⟨line, rest, rfl, hline⟩ := List.eq_append_cons_of_mem (List.mem_of_getLast? h)
      refine .cons hline (ih rest.length (by simp; omega) ?_ rfl)
      rcases rest with _ | ⟨c, rest⟩
      · exact .inl rfl
      · refine .inr ?_
        rw [List.getLast?_append_cons, List.getLast?_cons_cons] at h
        exact h

namespace EndsLine

/-- **The lines after whole lines** are those of the rest alone. -/
theorem lines_append {before : List Char} (h : EndsLine before) (rest : List Char) :
    lines (before ++ rest) = lines before ++ lines rest := by
  induction h with
  | nil => rfl
  | cons hline _ ih =>
    rw [List.append_assoc, List.cons_append, lines_append_lineFeed hline, ih,
      lines_append_lineFeed hline, List.cons_append]

theorem length_lines {before : List Char} (h : EndsLine before) :
    (lines before).length = before.count '\n' := by
  induction h with
  | nil => rfl
  | cons hline _ ih =>
    rw [lines_append_lineFeed hline, List.length_cons, ih, List.count_append, List.count_cons_self,
      List.count_eq_zero.mpr hline, Nat.zero_add]

end EndsLine

/-! ### The last line of a text -/

/-- A text falls into whole lines and what is after the last line feed. -/
theorem exists_endsLine_append (s : List Char) :
    ∃ before line, s = before ++ line ∧ EndsLine before ∧ '\n' ∉ line := by
  induction hn : s.length using Nat.strongRecOn generalizing s with
  | ind n ih =>
    subst hn
    by_cases hmem : '\n' ∈ s
    · obtain ⟨first, rest, rfl, hfirst⟩ := List.eq_append_cons_of_mem hmem
      obtain ⟨before, line, rfl, hbefore, hline⟩ := ih rest.length (by simp; omega) rest rfl
      exact ⟨first ++ '\n' :: before, line, by simp, .cons hfirst hbefore, hline⟩
    · exact ⟨[], s, rfl, .nil, hmem⟩

theorem EndsLine.eq_nil_or_concat {s : List Char} (h : EndsLine s) :
    s = [] ∨ ∃ t, s = t ++ ['\n'] := by
  induction h with
  | nil => exact .inl rfl
  | @cons line rest _ _ ih =>
    rcases ih with rfl | ⟨t, rfl⟩
    · exact .inr ⟨line, rfl⟩
    · exact .inr ⟨line ++ '\n' :: t, by rw [List.append_assoc, List.cons_append]⟩

/-- Nothing but the empty text is trimmed and ends where a line ends. -/
theorem EndsLine.eq_nil_of_trimEnd {s : List Char} (h : EndsLine s) (htrimmed : trimEnd s = s) :
    s = [] := by
  rcases h.eq_nil_or_concat with rfl | ⟨t, rfl⟩
  · rfl
  · rw [trimEnd_append_of_isBlank (by decide)] at htrimmed
    have hle : (trimEnd t).length ≤ t.length := (isPrefix_dropEndWhile _ t).length_le
    rw [htrimmed, List.length_append] at hle
    exact absurd hle (by simp)

/-- **Trimming the end of a text with something in it** takes off the lines of white space at the
end, and the white space at the end of the line before them. The lines up to there stay where they
are, whatever lines come after. -/
theorem exists_lines_trimEnd {s : List Char} (hs : isBlank s = false) :
    ∃ before last line blanks, lines s = before ++ last :: blanks ∧ trimEnd last = trimEnd line ∧
      (∀ l ∈ blanks, isBlank l = true) ∧
      ∀ rest, lines (trimEnd s ++ '\n' :: rest) = before ++ line :: lines rest := by
  obtain ⟨space, hspace, hsplit⟩ := exists_trimEnd_append s
  obtain ⟨whole, line, htrim, hwhole, hline⟩ := exists_endsLine_append (trimEnd s)
  have hrest : ∀ rest, lines (trimEnd s ++ '\n' :: rest) =
      lines whole ++ dropCarriageReturn line :: lines rest := by
    intro rest
    rw [htrim, List.append_assoc, hwhole.lines_append, lines_append_lineFeed hline]
  have hne : line ≠ [] := by
    rintro rfl
    rw [List.append_nil] at htrim
    have hnil : whole = [] := hwhole.eq_nil_of_trimEnd (by rw [← htrim, trimEnd_trimEnd])
    rw [htrim, hnil, List.nil_append] at hsplit
    exact absurd hspace (by rw [← hsplit, hs]; exact Bool.false_ne_true)
  have hs : lines s = lines whole ++ lines (line ++ space) := by
    rw [hsplit, htrim, List.append_assoc, hwhole.lines_append]
  by_cases hmem : '\n' ∈ space
  · obtain ⟨first, others, rfl, hfirst⟩ := List.eq_append_cons_of_mem hmem
    rw [isBlank_append, Bool.and_eq_true] at hspace
    have hfeed : lines (line ++ (first ++ '\n' :: others)) =
        dropCarriageReturn (line ++ first) :: lines others := by
      rw [← List.append_assoc, lines_append_lineFeed (by simp [hline, hfirst])]
    refine ⟨lines whole, _, dropCarriageReturn line, lines others, by rw [hs, hfeed], ?_, ?_, hrest⟩
    · rw [trimEnd_dropCarriageReturn, trimEnd_dropCarriageReturn,
        trimEnd_append_of_isBlank hspace.1]
    · have hothers : isBlank others = true :=
        isBlank_iff.mpr fun c hc => isBlank_iff.mp hspace.2 c (List.mem_cons_of_mem _ hc)
      exact fun l hl => isBlank_of_mem_lines hothers hl
  · have hlast : lines (line ++ space) = [line ++ space] := by
      rw [lines_of_not_mem (by simp [hline, hmem]), if_neg (by simp [hne])]
    refine ⟨lines whole, _, dropCarriageReturn line, [], by rw [hs, hlast], ?_, nofun, hrest⟩
    rw [trimEnd_dropCarriageReturn, trimEnd_append_of_isBlank hspace]

/-- White space that separates texts is not there to see. -/
theorem ink_joinWith {separator : List Char} (h : isBlank separator = true)
    (parts : List (List Char)) :
    ink (joinWith separator parts) = ink parts.flatten := by
  rw [joinWith]
  fun_induction List.intersperse separator parts with
  | case1 => rfl
  | case2 part => rfl
  | case3 part next parts ih =>
    rw [List.flatten_cons, List.flatten_cons, ink_append, ink_append, ih, ink_of_isBlank h,
      List.nil_append, List.flatten_cons, ink_append]

/-! ### Other characters in the same lines -/

theorem splitWhere_map {p : Char → Bool} {f : Char → Char} (hf : ∀ c, p (f c) = p c)
    (s : List Char) : splitWhere p (s.map f) = (splitWhere p s).map (List.map f) := by
  induction s with
  | nil => rfl
  | cons c s ih =>
    obtain ⟨part, parts, heq⟩ := List.exists_cons_of_ne_nil (splitWhere_ne_nil p s)
    rw [heq, List.map_cons] at ih
    rw [List.map_cons, splitWhere_cons ih, splitWhere_cons heq, hf]
    split <;> rfl

theorem dropCarriageReturn_map {f : Char → Char} (hf : ∀ c, f c = '\r' ↔ c = '\r')
    (line : List Char) : dropCarriageReturn (line.map f) = (dropCarriageReturn line).map f := by
  have hlast : (line.map f).getLast? = some '\r' ↔ line.getLast? = some '\r' := by
    rw [List.getLast?_map]
    cases line.getLast? <;> simp [hf]
  unfold dropCarriageReturn
  simp only [hlast]
  split
  · exact List.map_dropLast.symm
  · rfl

/-- **A change of characters that keeps line ends** goes line by line. -/
theorem lines_map {f : Char → Char} (hfeed : ∀ c, f c = '\n' ↔ c = '\n')
    (hreturn : ∀ c, f c = '\r' ↔ c = '\r') (s : List Char) :
    lines (s.map f) = (lines s).map (List.map f) := by
  have hsplit : splitWhere (· == '\n') (s.map f) = (splitWhere (· == '\n') s).map (List.map f) :=
    splitWhere_map (fun c => Bool.eq_iff_iff.mpr (by simp [hfeed])) s
  rw [lines, lines, hsplit]
  generalize splitWhere (· == '\n') s = parts
  fun_induction linesOfParts parts with
  | case1 => rfl
  | case2 last hlast => simp_all [linesOfParts]
  | case3 last hlast => simp_all [linesOfParts]
  | case4 part parts hne ih =>
    rw [List.map_cons, linesOfParts, ih, dropCarriageReturn_map hreturn, List.map_cons]
    exact fun hnil => hne (List.map_eq_nil_iff.mp hnil)

/-! ### One line of a text -/

/-- **A slot for a line** in a text: the whole lines before it, and what comes after it. -/
structure Slot where
  /-- What is before the line, with the line feed that ends it. -/
  before : List Char
  /-- What is after the line, with the line feed that ends the line. -/
  after : List Char
  before_ends : before = [] ∨ before.getLast? = some '\n'
  after_starts : after = [] ∨ after.head? = some '\n'

namespace Slot

/-- The text with a line in the slot. -/
def fill (slot : Slot) (line : List Char) : String :=
  String.ofList (slot.before ++ (line ++ slot.after))

/-- The number of the line in the slot, counted from 1. -/
def number (slot : Slot) : Nat := slot.before.count '\n' + 1

/-- The lines from the slot on. -/
def linesFrom (slot : Slot) (line : List Char) : List (List Char) := lines (line ++ slot.after)

theorem lines_fill (slot : Slot) (line : List Char) :
    lines (slot.fill line).toList = lines slot.before ++ slot.linesFrom line := by
  rw [fill, String.toList_ofList, (endsLine_of_getLast? slot.before_ends).lines_append, linesFrom]

theorem number_eq (slot : Slot) : slot.number = (lines slot.before).length + 1 := by
  rw [number, (endsLine_of_getLast? slot.before_ends).length_lines]

/-- Two lines in one slot: the lines after them are the same, or none are there. In the last slot of
a text nothing is no line. -/
theorem linesFrom_cases (slot : Slot) {line other : List Char} (hline : '\n' ∉ line)
    (hother : '\n' ∉ other) :
    (∃ rest, slot.linesFrom line = dropCarriageReturn line :: rest ∧
        slot.linesFrom other = dropCarriageReturn other :: rest) ∨
      (∀ l ∈ slot.linesFrom line, l = line) ∧ ∀ l ∈ slot.linesFrom other, l = other := by
  rcases hafter : slot.after with _ | ⟨c, after⟩
  · have halone : ∀ {line : List Char}, '\n' ∉ line → ∀ l ∈ slot.linesFrom line, l = line := by
      intro line hline l hl
      rw [linesFrom, hafter, List.append_nil, lines_of_not_mem hline] at hl
      split at hl
      · cases hl
      · exact List.mem_singleton.mp hl
    exact .inr ⟨halone hline, halone hother⟩
  · have hc : c = '\n' := by simpa [hafter] using slot.after_starts
    subst hc
    refine .inl ⟨lines after, ?_, ?_⟩ <;> rw [linesFrom, hafter]
    · exact lines_append_lineFeed hline after
    · exact lines_append_lineFeed hother after

end Slot

end Notebook.Text
