import Notebook.Proofs.Query.Places

/-!
# What a token looks ahead to

A token is scanned with a look at what comes after it: a name ends where no name goes on, a number
looks for a point, a sign for a second character. So the same characters could be another token
elsewhere. They are not when white space or the end comes after them: characters **stand for** a
token (`Notebook.Query.StandsFor`) when they are scanned as it wherever that is so, and the
characters of every token that has been scanned do (`Notebook.Query.standsFor_of_scan`). It holds
because white space is of none of the classes that a scan looks for.
-/

namespace Notebook.Query

open Number Text Unicode

/-! ### White space -/

/-- The characters that are white space, one by one. -/
def blanks : List Char :=
  whiteSpace.flatMap fun range => (List.range' range.1 (range.2 + 1 - range.1)).map Char.ofNat

theorem mem_blanks {c : Char} (h : isWhiteSpace c = true) : c ∈ blanks := by
  obtain ⟨range, hrange, hc⟩ := List.any_eq_true.mp h
  simp only [Bool.and_eq_true, Nat.ble_eq] at hc
  refine List.mem_flatMap.mpr ⟨range, hrange, List.mem_map.mpr ⟨c.toNat, ?_, Char.ofNat_toNat c⟩⟩
  rw [List.mem_range'_1]
  omega

/-- A class is without white space when it is without each of these characters. -/
theorem not_of_blank {p : Char → Bool} (hp : blanks.all (!p ·) = true) (c : Char)
    (hc : isWhiteSpace c = true) : p c = false := by
  have hnot : (!p c) = true := List.all_eq_true.mp hp c (mem_blanks hc)
  rwa [Bool.not_eq_true'] at hnot

theorem continuesName_of_blank : ∀ c, isWhiteSpace c = true → continuesName c = false :=
  not_of_blank (by decide +kernel)

theorem continuesTag_of_blank (c : Char) (hc : isWhiteSpace c = true) : continuesTag c = false := by
  have hslash : (c == '/') = false := beq_false_of_ne (ne_of_class hc (by decide))
  change (continuesName c || c == '/') = false
  rw [continuesName_of_blank c hc, hslash, Bool.or_false]

theorem isDigit_of_blank (c : Char) (hc : isWhiteSpace c = true) : c.isDigit = false := by
  by_contra hdigit
  rw [isWhiteSpace_of_isDigit (Bool.of_not_eq_false hdigit)] at hc
  cases hc

/-- **Text that no token runs into**: it is over, or starts with white space. -/
def Spaced (rest : List Char) : Prop := ∀ c ∈ rest.head?, isWhiteSpace c = true

/-- The first character, if there is one, is not of a class without white space. -/
theorem Spaced.head? {rest : List Char} (h : Spaced rest) {p : Char → Bool}
    (hp : ∀ c, isWhiteSpace c = true → p c = false) : rest.head?.any p = false := by
  rcases rest with _ | ⟨c, rest⟩
  · rfl
  · exact hp c (h c rfl)

/-- White space is no sign. -/
theorem Spaced.ne_sign {c : Char} {rest : List Char} (h : Spaced (c :: rest)) :
    c ≠ '=' ∧ c ≠ '.' := by
  have hc : isWhiteSpace c = true := h c rfl
  exact ⟨ne_of_class hc (by decide), ne_of_class hc (by decide)⟩

/-! ### What stands for a token -/

/-- **Characters that stand for a token**: they are scanned as it, all of them, when white space or
the end comes after them. -/
structure StandsFor (cs : List Char) (t : Token) : Prop where
  /-- The end stands nowhere. -/
  ne_end : t ≠ .endOfInput
  /-- No white space is in front. -/
  head : cs.head?.any isWhiteSpace = false
  /-- What comes after it makes no difference. -/
  scan : ∀ rest, Spaced rest → scan (cs ++ rest) = ⟨.ok t, cs, rest⟩

variable {cs taken rest after : List Char} {t : Token}

theorem symbol?_of_spaced {count : Nat} (h : symbol? cs = some (t, count)) (hafter : Spaced after) :
    symbol? (cs.take count ++ after) = some (t, count) ∧ (cs.take count).length = count := by
  -- no sign of two characters comes about, which `simp` takes for the cases that it leaves out
  have hequal : ∀ others, after ≠ '=' :: others := by
    rintro others rfl
    exact hafter.ne_sign.1 rfl
  unfold symbol? at h
  split at h
  case h_13 => cases h
  all_goals
    obtain ⟨rfl, rfl⟩ := Prod.mk.inj (Option.some.inj h)
    refine ⟨?_, by simp⟩
    simp [symbol?]

theorem fractionDigits_of_spaced (hafter : Spaced after) : fractionDigits after = [] := by
  rcases after with _ | ⟨c, after⟩
  · rfl
  · have hc : c ≠ '.' := hafter.ne_sign.2
    simp [fractionDigits, hc]

theorem scanQuoted_plain {quote c : Char} (hc : c ≠ '\\') (cs : List Char) :
    scanQuoted quote (c :: cs) = if c = quote then (.closed [], [c], cs)
      else ((scanQuoted quote cs).1.cons c, c :: (scanQuoted quote cs).2.1,
        (scanQuoted quote cs).2.2) := by
  rw [scanQuoted.eq_def]
  split <;> simp_all

theorem scanQuoted_escape {quote c d : Char} (hc : escapedCharacter? c = some d) (cs : List Char) :
    scanQuoted quote ('\\' :: c :: cs) = ((scanQuoted quote cs).1.cons d,
      '\\' :: c :: (scanQuoted quote cs).2.1, (scanQuoted quote cs).2.2) := by
  simp only [scanQuoted, hc]

/-- A text in quotes is over with its closing quote. -/
theorem scanQuoted_append {quote : Char} (hquote : quote ≠ '\\') {value : List Char}
    (h : scanQuoted quote cs = (.closed value, taken, rest)) (after : List Char) :
    scanQuoted quote (taken ++ after) = (.closed value, taken, after) := by
  fun_induction scanQuoted quote cs generalizing value taken with
  | case1 => cases h
  | case2 => cases h
  | case3 c cs d hd inner others left heq ih =>
    simp only [Prod.mk.injEq, Quoted.cons_eq_closed] at h
    obtain ⟨⟨values, rfl, rfl⟩, rfl, rfl⟩ := h
    rw [List.cons_append, List.cons_append, scanQuoted_escape hd, ih heq, Quoted.cons]
  | case4 c cs hd => cases h
  | case5 cs hlast hescape =>
    simp only [Prod.mk.injEq, Quoted.closed.injEq] at h
    obtain ⟨rfl, rfl, rfl⟩ := h
    rw [List.singleton_append, scanQuoted_plain hquote, if_pos rfl]
  | case6 c cs hlast hescape hc inner others left heq ih =>
    simp only [Prod.mk.injEq, Quoted.cons_eq_closed] at h
    obtain ⟨⟨values, rfl, rfl⟩, rfl, rfl⟩ := h
    have hslash : c ≠ '\\' := by
      rintro rfl
      rcases cs with _ | ⟨d, cs⟩
      · exact hlast rfl rfl
      · exact hescape d cs rfl rfl
    rw [List.cons_append, scanQuoted_plain hslash, if_neg hc, ih heq, Quoted.cons]

theorem scanString_append {quote : Char} (hquote : quote ≠ '\\')
    (h : scanString quote cs = ⟨.ok t, taken, rest⟩) (after : List Char) :
    ∃ others, taken = quote :: others ∧
      scanString quote (others ++ after) = ⟨.ok t, taken, after⟩ := by
  unfold scanString at h
  split at h
  · next value others left heq =>
    simp only [Scan.mk.injEq, Except.ok.injEq] at h
    obtain ⟨rfl, rfl, rfl⟩ := h
    refine ⟨others, rfl, ?_⟩
    rw [scanString, scanQuoted_append hquote heq]
  · cases h
  · cases h

theorem scanLink_append (h : scanLink cs = ⟨.ok t, taken, rest⟩) (after : List Char) :
    ∃ others, taken = '[' :: '[' :: others ∧
      scanLink (others ++ after) = ⟨.ok t, taken, after⟩ := by
  have hfound := scanTarget_found cs
  unfold scanLink at h
  split at h
  · next target left heq =>
    rw [heq] at hfound
    obtain ⟨behind, rfl⟩ := hfound rfl
    have htarget : Targets cs target behind := heq
    obtain ⟨hline, hclose⟩ := htarget.properties
    simp only [Scan.mk.injEq, Except.ok.injEq] at h
    obtain ⟨rfl, rfl, rfl⟩ := h
    have htargets : Targets (target ++ ']' :: ']' :: after) target after :=
      targets_of_append hline hclose after
    unfold Targets at htargets
    refine ⟨target ++ [']', ']'], rfl, ?_⟩
    rw [List.append_assoc, List.cons_append, List.cons_append, List.nil_append, scanLink, htargets]
    rfl
  · cases h

/-- The longest run of a class stays the longest in front of white space. -/
theorem takeWhile_of_spaced {p : Char → Bool} (hp : ∀ c, isWhiteSpace c = true → p c = false)
    (cs : List Char) (hafter : Spaced after) :
    (cs.takeWhile p ++ after).takeWhile p = cs.takeWhile p ∧
      (cs.takeWhile p ++ after).dropWhile p = after :=
  takeWhile_append_of_head (fun _ hc => List.all_eq_true.mp List.all_takeWhile _ hc)
    (hafter.head? hp)

theorem isDigit_of_mem_fractionDigits {c : Char} (h : c ∈ fractionDigits cs) :
    c.isDigit = true := by
  unfold fractionDigits at h
  split at h
  · exact List.all_eq_true.mp List.all_takeWhile _ h
  · cases h

theorem head?_any_append {p : Char → Bool} (h : cs.head?.any p = true) (others : List Char) :
    (cs ++ others).head?.any p = true := by
  rcases cs with _ | ⟨c, cs⟩
  · cases h
  · exact h

theorem head?_any_takeWhile {p : Char → Bool} (h : cs.head?.any p = true) :
    (cs.takeWhile p).head?.any p = true := by
  rcases cs with _ | ⟨c, cs⟩
  · cases h
  · have hc : p c = true := h
    simp [hc]

theorem scanDigits_append {negative : Bool} (h : scanDigits negative cs = ⟨.ok t, taken, rest⟩)
    (hcs : cs.head?.any Char.isDigit = true) (hafter : Spaced after) :
    ∃ digits, taken = signOf negative ++ digits ∧ digits.head?.any Char.isDigit = true ∧
      scanDigits negative (digits ++ after) = ⟨.ok t, taken, after⟩ := by
  have hwhole : ∀ c ∈ cs.takeWhile Char.isDigit, c.isDigit = true :=
    fun _ hc => List.all_eq_true.mp List.all_takeWhile _ hc
  unfold scanDigits at h
  dsimp only at h
  split at h
  · obtain ⟨htake, hdrop⟩ := takeWhile_of_spaced isDigit_of_blank cs hafter
    simp only [Scan.mk.injEq] at h
    obtain ⟨htoken, rfl, -⟩ := h
    refine ⟨cs.takeWhile Char.isDigit, rfl, head?_any_takeWhile hcs, ?_⟩
    rw [← htoken]
    simp only [scanDigits, htake, hdrop, fractionDigits_of_spaced hafter, if_true]
  · next hplaces =>
    simp only [Scan.mk.injEq] at h
    obtain ⟨htoken, rfl, -⟩ := h
    generalize hp : fractionDigits (cs.dropWhile Char.isDigit) = places at htoken hplaces ⊢
    have hfraction : ∀ c ∈ places, c.isDigit = true := by
      rw [← hp]
      exact fun c => isDigit_of_mem_fractionDigits
    obtain ⟨hkeep, -⟩ := takeWhile_append_of_head hfraction (hafter.head? isDigit_of_blank)
    obtain ⟨htake, hdrop⟩ := takeWhile_append_of_head hwhole
      (show ('.' :: (places ++ after)).head?.any Char.isDigit = false from rfl)
    refine ⟨cs.takeWhile Char.isDigit ++ '.' :: places, by simp [signOf],
      head?_any_append (head?_any_takeWhile hcs) _, ?_⟩
    rw [← htoken, List.append_assoc, List.cons_append]
    simp [scanDigits, htake, hdrop, fractionDigits, hkeep, hplaces]

theorem continuesTag_of_startsTag {c : Char} (h : startsTag c = true) : continuesTag c = true := by
  simp only [startsTag, continuesTag, Bool.or_eq_true] at h ⊢
  rcases h with h | h
  · exact .inl (.inl (.inl h))
  · exact .inl (.inl (.inr h))

/-- **The characters of a token stand for it.** -/
theorem standsFor_of_scan (h : scan cs = ⟨.ok t, taken, rest⟩) (ht : t ≠ .endOfInput)
    (hhead : cs.head?.any isWhiteSpace = false) : StandsFor taken t := by
  have hprogress : taken ≠ [] := by
    have hp := scan_progress (congrArg Scan.outcome h) ht
    rwa [h] at hp
  have hsplit : taken ++ rest = cs := by
    have hs := scan_split cs
    rwa [h] at hs
  refine ⟨ht, ?_, fun after hafter => ?_⟩
  · rcases taken with _ | ⟨c, taken⟩
    · exact absurd rfl hprogress
    · rw [← hsplit] at hhead
      exact hhead
  have hbranch := branch_scan cs
  generalize hs : scan cs = s at hbranch
  rw [h] at hs
  cases hbranch with
  | spent =>
    simp only [Scan.mk.injEq, Except.ok.injEq] at hs
    exact absurd hs.1 ht
  | sign heq =>
    simp only [Scan.mk.injEq, Except.ok.injEq] at hs
    obtain ⟨rfl, rfl, rfl⟩ := hs
    obtain ⟨hsymbol, hlength⟩ := symbol?_of_spaced heq hafter
    rw [scan_of_symbol? hsymbol, List.take_left' hlength, List.drop_left' hlength]
  | minus _ =>
    simp only [Scan.mk.injEq, Except.ok.injEq] at hs
    obtain ⟨rfl, rfl, rfl⟩ := hs
    exact (Branch.minus (hafter.head? isDigit_of_blank)).scan_eq
  | number negative hcs =>
    obtain ⟨digits, rfl, hdigits, hscan⟩ := scanDigits_append hs.symm hcs hafter
    have hbranch : Branch (signOf negative ++ (digits ++ after)) _ :=
      .number negative (head?_any_append hdigits after)
    rw [hscan] at hbranch
    rw [List.append_assoc]
    exact hbranch.scan_eq
  | quoted hquote =>
    rename_i quote cs
    have hslash : quote ≠ '\\' := by rcases hquote with rfl | rfl <;> decide
    obtain ⟨others, rfl, hscan⟩ := scanString_append hslash hs.symm after
    have hbranch : Branch (quote :: (others ++ after)) _ := .quoted hquote
    rw [hscan] at hbranch
    exact hbranch.scan_eq
  | tag hcs =>
    rename_i cs
    simp only [scanTag, Scan.mk.injEq, Except.ok.injEq] at hs
    obtain ⟨rfl, rfl, rfl⟩ := hs
    obtain ⟨htake, hdrop⟩ := takeWhile_of_spaced continuesTag_of_blank cs hafter
    have hstart : (cs.takeWhile continuesTag ++ after).head?.any startsTag = true := by
      rcases cs with _ | ⟨c, cs⟩
      · cases hcs
      · have hc : startsTag c = true := hcs
        rw [List.takeWhile_cons, if_pos (continuesTag_of_startsTag hc)]
        exact hc
    have hbranch := Branch.tag hstart
    rw [scanTag, htake, hdrop] at hbranch
    exact hbranch.scan_eq
  | link cs =>
    obtain ⟨others, rfl, hscan⟩ := scanLink_append hs.symm after
    have hbranch := Branch.link (others ++ after)
    rw [hscan] at hbranch
    exact hbranch.scan_eq
  | name hc =>
    rename_i c cs
    simp only [scanName, Scan.mk.injEq, Except.ok.injEq] at hs
    obtain ⟨rfl, rfl, rfl⟩ := hs
    obtain ⟨htake, hdrop⟩ := takeWhile_of_spaced continuesName_of_blank (c :: cs) hafter
    have hcons : (c :: cs).takeWhile continuesName ++ after =
        c :: (cs.takeWhile continuesName ++ after) := by
      rw [List.takeWhile_cons, if_pos (continuesName_of_startsName hc), List.cons_append]
    have hbranch : Branch (c :: (cs.takeWhile continuesName ++ after)) _ := .name hc
    rw [← hcons, scanName, htake, hdrop] at hbranch
    exact hbranch.scan_eq
  | fault c cs => cases hs

theorem StandsFor.ne_nil (h : StandsFor cs t) : cs ≠ [] := by
  have hscan := h.scan [] (by simp [Spaced])
  have hprogress := scan_progress (congrArg Scan.outcome hscan) h.ne_end
  rwa [hscan] at hprogress

end Notebook.Query
