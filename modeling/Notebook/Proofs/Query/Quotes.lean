import Notebook.Proofs.Query.Pieces

/-!
# Texts in quotes, tags and links

The pieces with a text of their own. `Notebook.Query.Closes` follows the characters after an
opening quote one by one up to the closing quote, and says which text they stand for. A text with
its quotes and backslashes escaped stands for itself (`Notebook.Query.closes_quoted`). One that is
put between quotes as it is does so only when it has no quotes and no backslashes
(`Notebook.Query.not_closes_raw`).

A link ends at the first two closing brackets, so its text is found again when these do not come too
early, within the text or with its last character.
-/

namespace Notebook.Query

open Text Unicode

/-! ### Up to the closing quote -/

/-- **The characters after an opening quote** stand for a text, and others are left after its end.
-/
def Closes (cs value rest : List Char) : Prop :=
  ∃ taken, scanQuoted '"' cs = (.closed value, taken, rest)

theorem Quoted.cons_eq_closed {c : Char} {quoted : Quoted} {value : List Char} :
    quoted.cons c = .closed value ↔ ∃ others, quoted = .closed others ∧ value = c :: others := by
  cases quoted <;> simp [Quoted.cons, eq_comm]

@[simp] theorem not_closes_nil {value rest : List Char} : ¬Closes [] value rest := by
  simp [Closes, scanQuoted]

@[simp] theorem closes_quote {cs value rest : List Char} :
    Closes ('"' :: cs) value rest ↔ value = [] ∧ rest = cs := by
  simp [Closes, scanQuoted, eq_comm]

theorem closes_plain {c : Char} (hquote : c ≠ '"') (hslash : c ≠ '\\') {cs value rest : List Char} :
    Closes (c :: cs) value rest ↔ ∃ others, value = c :: others ∧ Closes cs others rest := by
  have hscan : scanQuoted '"' (c :: cs) =
      ((scanQuoted '"' cs).1.cons c, c :: (scanQuoted '"' cs).2.1, (scanQuoted '"' cs).2.2) := by
    rw [scanQuoted.eq_def]
    split <;> simp_all
  simp only [Closes, hscan, Prod.mk.injEq, Quoted.cons_eq_closed]
  constructor
  · rintro ⟨taken, ⟨others, hothers, rfl⟩, rfl, rfl⟩
    exact ⟨others, rfl, _, Prod.ext hothers rfl⟩
  · rintro ⟨others, rfl, taken, h⟩
    exact ⟨_, ⟨others, by rw [h], rfl⟩, rfl, by rw [h]⟩

theorem closes_escape {c : Char} {cs value rest : List Char} :
    Closes ('\\' :: c :: cs) value rest ↔
      ∃ d others, escapedCharacter? c = some d ∧ value = d :: others ∧ Closes cs others rest := by
  cases hc : escapedCharacter? c with
  | none => simp [Closes, scanQuoted, hc]
  | some d =>
    have hscan : scanQuoted '"' ('\\' :: c :: cs) = ((scanQuoted '"' cs).1.cons d,
        '\\' :: c :: (scanQuoted '"' cs).2.1, (scanQuoted '"' cs).2.2) := by
      simp only [scanQuoted, hc]
    simp only [Closes, hscan, Prod.mk.injEq, Quoted.cons_eq_closed, Option.some.injEq]
    constructor
    · rintro ⟨taken, ⟨others, hothers, rfl⟩, rfl, rfl⟩
      exact ⟨d, others, rfl, rfl, _, Prod.ext hothers rfl⟩
    · rintro ⟨_, others, rfl, rfl, taken, h⟩
      exact ⟨_, ⟨others, by rw [h], rfl⟩, rfl, by rw [h]⟩

/-! ### Texts in quotes -/

/-- **An escaped text stands for itself.** -/
theorem closes_quoted (s rest : List Char) :
    Closes (s.flatMap quotedCharacter ++ '"' :: rest) s rest := by
  induction s with
  | nil => simp
  | cons c s ih =>
    rw [List.flatMap_cons, List.append_assoc]
    unfold quotedCharacter
    split
    · exact closes_escape.mpr ⟨_, _, rfl, rfl, ih⟩
    · exact closes_escape.mpr ⟨_, _, rfl, rfl, ih⟩
    · exact closes_escape.mpr ⟨_, _, rfl, rfl, ih⟩
    · exact closes_escape.mpr ⟨_, _, rfl, rfl, ih⟩
    · next hquote hslash _ _ => exact (closes_plain hquote hslash).mpr ⟨s, rfl, ih⟩

/-- A text between quotes is **plain** when it has neither quotes nor backslashes. -/
def IsPlain (s : List Char) : Prop := ∀ c ∈ s, c ≠ '"' ∧ c ≠ '\\'

/-- A plain text stands for itself. -/
theorem closes_raw {s : List Char} (h : IsPlain s) (rest : List Char) :
    Closes (s ++ '"' :: rest) s rest := by
  induction s with
  | nil => simp
  | cons c s ih =>
    obtain ⟨hquote, hslash⟩ := h c (List.mem_cons_self ..)
    have hs : IsPlain s := fun d hd => h d (List.mem_cons_of_mem c hd)
    exact (closes_plain hquote hslash).mpr ⟨s, rfl, ih hs⟩

theorem escapedCharacter?_eq_backslash {c : Char} : escapedCharacter? c = some '\\' ↔ c = '\\' := by
  unfold escapedCharacter?
  split <;> simp_all

/-- Only two backslashes stand for a backslash. -/
theorem closes_backslash {cs value rest : List Char} :
    Closes ('\\' :: cs) ('\\' :: value) rest ↔
      ∃ others, cs = '\\' :: others ∧ Closes others value rest := by
  cases cs with
  | nil => simp [Closes, scanQuoted]
  | cons c cs =>
    rw [closes_escape]
    constructor
    · rintro ⟨d, others, hd, heq, h⟩
      obtain ⟨rfl, rfl⟩ := List.cons.inj heq
      exact ⟨cs, by rw [escapedCharacter?_eq_backslash.mp hd], h⟩
    · rintro ⟨others, heq, h⟩
      obtain ⟨rfl, rfl⟩ := List.cons.inj heq
      exact ⟨'\\', value, rfl, rfl, h⟩

/-- A text between quotes does not stand for itself with backslashes in front of it: each of these
would have to be there twice. -/
theorem not_closes_backslashes (count : Nat) (s after rest others : List Char) :
    ¬Closes (s ++ '"' :: rest) (List.replicate (count + 1) '\\' ++ (s ++ after)) others := by
  induction hn : s.length using Nat.strongRecOn generalizing s count with
  | ind n ih =>
    rw [List.replicate_succ, List.cons_append]
    cases s with
    | nil => simp
    | cons c s =>
      by_cases hquote : c = '"'
      · simp [hquote]
      by_cases hslash : c = '\\'
      · subst hslash
        rw [List.cons_append, closes_backslash]
        rintro ⟨tail, heq, h⟩
        cases s with
        | nil => exact absurd (List.cons.inj heq).1 (by decide)
        | cons d s =>
          obtain ⟨rfl, rfl⟩ := List.cons.inj heq
          -- one of the pair is in front of the text now, so there is one more than before
          refine ih s.length (by simp at hn; omega) (count + 1) s rfl ?_
          rwa [List.replicate_succ', List.replicate_succ', List.append_assoc, List.append_assoc]
      · rw [List.cons_append, closes_plain hquote hslash]
        rintro ⟨value, heq, -⟩
        exact hslash (List.cons.inj heq).1.symm

/-- **A text with quotes or backslashes does not stand for itself**, not even with something after
it. -/
theorem not_closes_raw {s : List Char} (h : ¬IsPlain s) (after rest others : List Char) :
    ¬Closes (s ++ '"' :: rest) (s ++ after) others := by
  induction s with
  | nil => exact absurd (by simp [IsPlain]) h
  | cons c s ih =>
    by_cases hquote : c = '"'
    · simp [hquote]
    by_cases hslash : c = '\\'
    · subst hslash
      rw [List.cons_append, List.cons_append, closes_backslash]
      rintro ⟨tail, heq, hcloses⟩
      cases s with
      | nil => exact absurd (List.cons.inj heq).1 (by decide)
      | cons d s =>
        obtain ⟨rfl, rfl⟩ := List.cons.inj heq
        exact not_closes_backslashes 0 s after rest others hcloses
    · rw [List.cons_append, List.cons_append, closes_plain hquote hslash]
      rintro ⟨value, heq, hcloses⟩
      obtain ⟨-, rfl⟩ := List.cons.inj heq
      refine ih (fun hs => h fun d hd => ?_) hcloses
      rcases List.mem_cons.mp hd with rfl | hd
      · exact ⟨hquote, hslash⟩
      · exact hs d hd

/-- A text in quotes is one token. -/
theorem tokensOf_quote {cs value rest : List Char} (h : Closes cs value rest) :
    tokensOf ('"' :: cs) = (tokensOf rest).map (.string (String.ofList value) :: ·) := by
  obtain ⟨taken, htaken⟩ := h
  have hscan : scan ('"' :: cs) = scanString '"' cs := by simp [scan, symbol?]
  exact tokensOf_of_scan rfl (by simp [hscan, scanString, htaken])
    (by simp [hscan, scanString, htaken]) (by simp)

/-- Where there are tokens, a quote is closed. -/
theorem closes_of_tokensOf {cs : List Char} {ts : List Token} (h : tokensOf ('"' :: cs) = some ts) :
    ∃ value rest, Closes cs value rest := by
  have hdrop : ('"' :: cs).dropWhile isWhiteSpace = '"' :: cs := rfl
  have hscan : scan ('"' :: cs) = scanString '"' cs := by simp [scan, symbol?]
  rcases heq : scanQuoted '"' cs with ⟨value | _ | c, taken, rest⟩
  · exact ⟨value, rest, taken, heq⟩
  · rw [tokensOf_of_error (by rw [hdrop, hscan, scanString, heq])] at h
    cases h
  · rw [tokensOf_of_error (by rw [hdrop, hscan, scanString, heq])] at h
    cases h

theorem readAs_quotedText (s : String) : ReadAs (quotedText s).toList [.string s] := by
  intro rest _
  have h := tokensOf_quote (closes_quoted s.toList rest)
  simpa [quotedText] using h

/-! ### Tags -/

/-- Characters that could be the name of a tag. -/
def isTagName (cs : List Char) : Bool := cs.head?.any startsTag && cs.all continuesTag

theorem readAs_tag {name : List Char} (h : isTagName name = true) :
    ReadAs ('#' :: name) [.tag (String.ofList name)] := by
  simp only [isTagName, Bool.and_eq_true, List.all_eq_true] at h
  obtain ⟨hstart, hall⟩ := h
  refine ReadAs.of_scan rfl (by simp) fun rest hrest => ?_
  obtain ⟨htake, hdrop⟩ :=
    takeWhile_append_of_head hall (hrest.head? (by decide) (by decide) (by decide))
  have hhead : (name ++ rest).head?.any startsTag = true := by
    cases name with
    | nil => cases hstart
    | cons c name => exact hstart
  have hscan : scan ('#' :: name ++ rest) = scanTag (name ++ rest) := by
    simp [scan, symbol?, show '#'.isDigit = false from rfl, -List.head?_append, hhead]
  rw [hscan, scanTag, htake, hdrop]
  exact ⟨rfl, rfl⟩

/-! ### Links -/

/-- **The characters after the opening brackets of a link** start with its target, and others are
left after the closing brackets. -/
def Targets (cs target rest : List Char) : Prop :=
  scanTarget cs = (true, target, ']' :: ']' :: rest)

theorem isPrefix_closing_iff {c : Char} {target rest : List Char} :
    [']', ']'] <+: c :: (target ++ [']']) ↔
      ∃ cs, c :: (target ++ ']' :: ']' :: rest) = ']' :: ']' :: cs := by
  cases target <;> simp [List.cons_prefix_cons, eq_comm]

theorem targets_of_append {target : List Char} (hline : '\n' ∉ target)
    (hclose : ¬[']', ']'] <:+: target ++ [']']) (rest : List Char) :
    Targets (target ++ ']' :: ']' :: rest) target rest := by
  induction target with
  | nil => rfl
  | cons c target ih =>
    rw [List.cons_append, List.infix_cons_iff, not_or, isPrefix_closing_iff] at hclose
    simp only [List.mem_cons, not_or] at hline
    have ihtarget : scanTarget (target ++ ']' :: ']' :: rest) = _ := ih hline.2 hclose.2
    unfold Targets
    rw [List.cons_append, scanTarget.eq_def]
    split
    · next heq => cases heq
    · next cs heq => exact absurd ⟨cs, heq⟩ hclose.1
    · next heq =>
      obtain ⟨rfl, rfl⟩ := List.cons.inj heq
      rw [if_neg (Ne.symm hline.1), ihtarget]

theorem Targets.eq_append {cs target rest : List Char} (h : Targets cs target rest) :
    cs = target ++ ']' :: ']' :: rest := by
  have hsplit := scanTarget_split cs
  rw [h] at hsplit
  exact hsplit.symm

theorem Targets.properties {cs target rest : List Char} (h : Targets cs target rest) :
    '\n' ∉ target ∧ ¬[']', ']'] <:+: target ++ [']'] := by
  have happend := h.eq_append
  unfold Targets at h
  fun_induction scanTarget cs generalizing target with
  | case1 => simp at h
  | case2 cs =>
    obtain ⟨rfl, -⟩ : [] = target ∧ _ := by simpa using h
    exact ⟨by simp, by decide⟩
  | case3 cs => simp at h
  | case4 c cs hfirst hc found others left heq ih =>
    obtain ⟨rfl, rfl, rfl⟩ : found = true ∧ c :: others = target ∧ left = _ := by simpa using h
    obtain ⟨hline, hclose⟩ := ih heq (List.cons.inj happend).2
    refine ⟨by simp [hline, Ne.symm hc], ?_⟩
    -- two brackets right here would have ended the target before this character
    rw [List.cons_append, List.infix_cons_iff, not_or, isPrefix_closing_iff]
    refine ⟨?_, hclose⟩
    rintro ⟨ds, hds⟩
    rw [← List.cons_append, ← happend] at hds
    obtain ⟨rfl, rfl⟩ := List.cons.inj hds
    exact hfirst ds rfl rfl

/-- A link is one token, its target without the blanks around it. -/
theorem tokensOf_link {cs target rest : List Char} (h : Targets cs target rest) :
    tokensOf ('[' :: '[' :: cs) =
      (tokensOf rest).map (.link (String.ofList (Text.trim target)) :: ·) := by
  have hscan : scan ('[' :: '[' :: cs) = scanLink cs := by simp [scan, symbol?, Char.isDigit]
  unfold Targets at h
  exact tokensOf_of_scan rfl (by simp [hscan, scanLink, h]) (by simp [hscan, scanLink, h]) (by simp)

end Notebook.Query
