import Notebook.Proofs.Query.Quotes
import Notebook.Proofs.Text.Trim

/-!
# Texts of single tokens

Some texts are read as one token and as nothing else (`Notebook.Query.LexesAs`): words that are not
reserved, as names, and tags after a number sign. Every name and every tag that was read from some
text is also read from its own (`Notebook.Query.isWord_of_identifier`,
`Notebook.Query.isTagName_of_tag`). The target of a link that was read
(`Notebook.Query.isTarget_of_link`) is not always found again: when it ends in a bracket, the
closing ones come too early (`Notebook.Query.tokensOf_link_of_bracket`).
-/

namespace Notebook.Query

open Unicode

/-- **A text that is read as one token** and nothing else. -/
def LexesAs (text : String) (t : Token) : Prop :=
  ∃ lexemes, tokenize text = .ok lexemes ∧ lexemes.map Lexeme.token = [t, .endOfInput]

theorem lexesAs_iff {text : String} {t : Token} :
    LexesAs text t ↔ tokensOf text.toList = some [t] := by
  unfold LexesAs tokenize
  rw [Lexer.exists_tokens_iff]
  constructor
  · rintro ⟨ts, hts, heq⟩
    rw [show ([t, .endOfInput] : List Token) = [t] ++ [.endOfInput] from rfl,
      List.append_left_inj] at heq
    rw [heq]
    exact hts
  · intro h
    exact ⟨[t], h, rfl⟩

/-! ### What was scanned -/

theorem symbol?_isSign {cs : List Char} {t : Token} {count : Nat}
    (h : symbol? cs = some (t, count)) :
    (∀ name, t ≠ .identifier name) ∧ (∀ name, t ≠ .tag name) ∧ (∀ target, t ≠ .link target) ∧
      ∀ x, t ≠ .real x := by
  unfold symbol? at h
  split at h <;> simp_all <;> (obtain ⟨rfl, -⟩ := h; simp)

theorem wholeToken_isInteger {negative : Bool} {ds : List Char} {t : Token}
    (h : wholeToken negative ds = .ok t) : ∃ n, t = .integer n := by
  unfold wholeToken at h
  generalize (if negative then -(Number.wholeOf ds : Int) else Number.wholeOf ds) = n at h
  dsimp only at h
  split at h
  · exact ⟨_, (Except.ok.inj h).symm⟩
  · cases h

theorem scanDigits_isNumber {negative : Bool} {cs : List Char} {t : Token}
    (h : (scanDigits negative cs).outcome = .ok t) :
    (∃ n, t = .integer n) ∨ ∃ x, t = .real x := by
  unfold scanDigits at h
  dsimp only at h
  split at h
  · exact .inl (wholeToken_isInteger h)
  · exact .inr ⟨_, (Except.ok.inj h).symm⟩

theorem scanString_isString {quote : Char} {cs : List Char} {t : Token}
    (h : (scanString quote cs).outcome = .ok t) : ∃ s, t = .string s := by
  unfold scanString at h
  split at h
  · exact ⟨_, (Except.ok.inj h).symm⟩
  · cases h
  · cases h

/-- A name is itself unless it is reserved or a value. -/
theorem Token.ofName_cases (cs : List Char) :
    (∃ b, ofName cs = .boolean b) ∨ ofName cs = .null ∨ (∃ word, ofName cs = .keyword word) ∨
      ofName cs = .identifier (String.ofList cs) := by
  unfold ofName
  dsimp only
  repeat' split
  all_goals simp

theorem scanLink_isLink {cs : List Char} {t : Token} (h : (scanLink cs).outcome = .ok t) :
    ∃ text rest, Targets cs text rest ∧ t = .link (String.ofList (Text.trim text)) := by
  have hfound := scanTarget_found cs
  unfold scanLink at h
  split at h
  · next text after heq =>
    rw [heq] at hfound
    obtain ⟨rest, rfl⟩ := hfound rfl
    exact ⟨text, rest, heq, (Except.ok.inj h).symm⟩
  · cases h

/-- The characters that a name, a tag or a link was scanned from. -/
def ScannedFrom (cs : List Char) : Token → Prop
  | .identifier name => ∃ c ds, cs = c :: ds ∧ startsName c = true ∧
      name = String.ofList (cs.takeWhile continuesName) ∧
      Token.ofName (cs.takeWhile continuesName) = .identifier name
  | .tag name => ∃ ds, cs = '#' :: ds ∧ ds.head?.any startsTag = true ∧
      name = String.ofList (ds.takeWhile continuesTag)
  | .link target => ∃ ds text rest, cs = '[' :: '[' :: ds ∧ Targets ds text rest ∧
      target = String.ofList (Text.trim text)
  | _ => True

theorem scannedFrom_of_scan {cs : List Char} {t : Token} (h : (scan cs).outcome = .ok t) :
    ScannedFrom cs t := by
  unfold scan at h
  split at h
  · obtain rfl := Except.ok.inj h
    trivial
  next c rest =>
  split at h
  -- the branches of the scan, in its order: a sign, a number, a text, a tag, a link, a name
  · next symbol count heq =>
    obtain rfl := Except.ok.inj h
    obtain ⟨hname, htag, hlink, -⟩ := symbol?_isSign heq
    cases symbol <;> simp_all [ScannedFrom]
  have hdigits : ∀ negative ds, (scanDigits negative ds).outcome = .ok t →
      ScannedFrom (c :: rest) t := by
    intro negative ds hds
    obtain ⟨n, rfl⟩ | ⟨x, rfl⟩ := scanDigits_isNumber hds <;> trivial
  split at h
  · split at h
    · exact hdigits _ _ h
    · obtain rfl := Except.ok.inj h
      trivial
  split at h
  · exact hdigits _ _ h
  split at h
  · obtain ⟨s, rfl⟩ := scanString_isString h
    trivial
  split at h
  · next hc =>
    split at h
    · next hstart =>
      obtain rfl := Except.ok.inj h
      exact ⟨rest, by rw [hc], hstart, rfl⟩
    · cases h
  split at h
  · next hc =>
    split at h
    · obtain ⟨text, others, htargets, rfl⟩ := scanLink_isLink h
      exact ⟨_, text, others, by rw [hc], htargets, rfl⟩
    · cases h
  split at h
  · next hstart =>
    have hname := Except.ok.inj h
    obtain ⟨b, heq⟩ | heq | ⟨word, heq⟩ | heq :=
      Token.ofName_cases ((c :: rest).takeWhile continuesName)
    all_goals obtain rfl := hname.symm.trans heq
    · trivial
    · trivial
    · trivial
    · exact ⟨c, rest, rfl, hstart, rfl, heq⟩
  · cases h

/-- **A token of a text was scanned** from what is left of the text somewhere, without the white
space in front of it. -/
theorem exists_scan_of_mem {cs : List Char} {ts : List Token} {t : Token}
    (h : tokensOf cs = some ts) (ht : t ∈ ts) :
    ∃ ds, ds <:+ cs ∧ ds.head?.any isWhiteSpace = false ∧ (scan ds).outcome = .ok t := by
  fun_induction tokensOf cs generalizing ts with
  | case1 cs e herr => cases h
  | case2 cs hend =>
    obtain rfl := Option.some.inj h
    cases ht
  | case3 cs u hscan hend ih =>
    obtain ⟨us, hus, rfl⟩ := Option.map_eq_some_iff.mp h
    have hblank : cs.dropWhile isWhiteSpace <:+ cs := List.dropWhile_suffix _
    rcases List.mem_cons.mp ht with rfl | ht
    · exact ⟨_, hblank, Text.head?_dropWhile_any _ _, hscan⟩
    · obtain ⟨ds, hds, hhead, hok⟩ := ih hus ht
      have hrest : (scan (cs.dropWhile isWhiteSpace)).rest <:+ cs.dropWhile isWhiteSpace :=
        ⟨_, scan_split _⟩
      exact ⟨ds, hds.trans (hrest.trans hblank), hhead, hok⟩

theorem scannedFrom_of_mem {cs : List Char} {ts : List Token} {t : Token}
    (h : tokensOf cs = some ts) (ht : t ∈ ts) :
    ∃ ds, ds.head?.any isWhiteSpace = false ∧ ScannedFrom ds t := by
  obtain ⟨ds, -, hhead, hok⟩ := exists_scan_of_mem h ht
  exact ⟨ds, hhead, scannedFrom_of_scan hok⟩

/-! ### Names -/

/-- A name that was read is a word that is not reserved. -/
theorem isWord_of_identifier {cs : List Char} {ts : List Token} {name : String}
    (h : tokensOf cs = some ts) (hname : .identifier name ∈ ts) :
    isWord name.toList = true ∧ Token.ofName name.toList = .identifier name := by
  obtain ⟨_, hblank, c, ds, rfl, hstart, hname, heq⟩ := scannedFrom_of_mem h hname
  have hchars : name.toList = (c :: ds).takeWhile continuesName := by simp [hname]
  refine ⟨?_, hchars ▸ heq⟩
  rw [hchars, List.takeWhile_cons, if_pos (continuesName_of_startsName hstart)]
  have hc : isWhiteSpace c = false := by simpa using hblank
  simp [isWord, hstart, hc]

/-- A text is read as a name, itself, exactly when it is a word that is not reserved. -/
theorem lexesAs_identifier_iff {name : String} : LexesAs name (.identifier name) ↔
    isWord name.toList = true ∧ Token.ofName name.toList = .identifier name := by
  rw [lexesAs_iff]
  constructor
  · intro h
    exact isWord_of_identifier h (List.mem_singleton_self _)
  · rintro ⟨hword, heq⟩
    rw [← heq]
    exact (readAs_word hword).tokensOf

/-! ### Tags -/

theorem isTagName_of_tag {cs : List Char} {ts : List Token} {name : String}
    (h : tokensOf cs = some ts) (hname : .tag name ∈ ts) : isTagName name.toList = true := by
  obtain ⟨_, -, ds, rfl, hstart, rfl⟩ := scannedFrom_of_mem h hname
  cases ds with
  | nil => cases hstart
  | cons c ds =>
    have hc : startsTag c = true := hstart
    have hcontinues : continuesTag c = true := by
      simp only [startsTag, Bool.or_eq_true] at hc
      rcases hc with hc | hc <;> simp [continuesTag, hc]
    simp [isTagName, hc, hcontinues]

/-- A text is read as a tag after a number sign exactly when it is made for that. -/
theorem lexesAs_tag_iff {name : String} :
    LexesAs ("#" ++ name) (.tag name) ↔ isTagName name.toList = true := by
  rw [lexesAs_iff]
  constructor
  · intro h
    exact isTagName_of_tag h (List.mem_singleton_self _)
  · intro h
    simpa using (readAs_tag h).tokensOf

/-! ### Links -/

/-- **A text that a link has**: without blanks around it, on one line, and without two closing
brackets next to each other. -/
def IsTarget (s : List Char) : Prop := Text.trim s = s ∧ '\n' ∉ s ∧ ¬[']', ']'] <:+: s

/-- The target of a link that was read is one that a link has. -/
theorem isTarget_of_link {cs : List Char} {ts : List Token} {target : String}
    (h : tokensOf cs = some ts) (htarget : .link target ∈ ts) : IsTarget target.toList := by
  obtain ⟨_, -, ds, text, rest, rfl, htargets, rfl⟩ := scannedFrom_of_mem h htarget
  obtain ⟨hline, hclose⟩ := htargets.properties
  rw [String.toList_ofList]
  have hwithin := Text.isInfix_trim text
  refine ⟨Text.trim_trim text, fun hmem => hline (hwithin.mem hmem), fun hpart => ?_⟩
  exact hclose (hpart.trans (hwithin.trans (List.infix_append' [] text [']'])))

theorem isInfix_closing_concat {s : List Char} :
    [']', ']'] <:+: s ++ [']'] ↔ [']', ']'] <:+: s ∨ s.getLast? = some ']' := by
  rw [List.infix_concat_iff, List.suffix_concat_iff, List.getLast?_eq_some_iff, or_comm]
  constructor
  · rintro (h | h | ⟨t, heq, ys, rfl⟩)
    · exact .inl h
    · cases h
    · obtain rfl : [']'] = t := (List.append_inj' heq rfl).1
      exact .inr ⟨ys, rfl⟩
  · rintro (h | ⟨ys, rfl⟩)
    · exact .inl h
    · exact .inr (.inr ⟨[']'], rfl, ys, rfl⟩)

/-- A target that does not end in a bracket is found again. -/
theorem readAs_link {s : List Char} (h : IsTarget s) (hlast : s.getLast? ≠ some ']') :
    ReadAs ('[' :: '[' :: (s ++ [']', ']'])) [.link (String.ofList s)] := by
  obtain ⟨htrim, hline, hclose⟩ := h
  intro rest _
  have htargets : Targets (s ++ ']' :: ']' :: rest) s rest :=
    targets_of_append hline (by rw [isInfix_closing_concat]; simp [hclose, hlast]) rest
  have htokens := tokensOf_link htargets
  rw [htrim] at htokens
  simpa using htokens

/-- A target that ends in a bracket is found without it. -/
theorem tokensOf_link_of_bracket {s : List Char} (h : IsTarget (s ++ [']'])) (rest : List Char) :
    tokensOf ('[' :: '[' :: (s ++ [']'] ++ ']' :: ']' :: rest)) =
      (tokensOf (']' :: rest)).map (.link (String.ofList (Text.trim s)) :: ·) := by
  obtain ⟨-, hline, hclose⟩ := h
  have htargets : Targets (s ++ ']' :: ']' :: ']' :: rest) s (']' :: rest) :=
    targets_of_append (fun hmem => hline (List.mem_append_left _ hmem)) hclose _
  simpa using tokensOf_link htargets

end Notebook.Query
