import Notebook.Proofs.Query.Names

/-!
# The branches of a scan

`Notebook.Query.scan` looks at a character or two and then hands over to the scan of one kind of
token. `Notebook.Query.Branch` has a constructor for every kind that can be handed over to, with
what was looked at as its hypotheses; every scan is one of them (`Notebook.Query.branch_scan`), and
the hypotheses are all that it takes (`Notebook.Query.Branch.scan_eq`). So a statement about scans
is proved kind by kind, and the tests in between are gone through here alone.
-/

namespace Notebook.Query

/-- **How a scan comes about.** -/
inductive Branch : List Char → Scan → Prop
  /-- Nothing is left. -/
  | spent : Branch [] ⟨.ok .endOfInput, [], []⟩
  /-- A sign. -/
  | sign {cs : List Char} {t : Token} {count : Nat} : symbol? cs = some (t, count) →
    Branch cs ⟨.ok t, cs.take count, cs.drop count⟩
  /-- A hyphen that no digit follows. -/
  | minus {cs : List Char} : cs.head?.any Char.isDigit = false →
    Branch ('-' :: cs) ⟨.ok .minus, ['-'], cs⟩
  /-- Digits, after a hyphen or without one. -/
  | number (negative : Bool) {cs : List Char} : cs.head?.any Char.isDigit = true →
    Branch (signOf negative ++ cs) (scanDigits negative cs)
  /-- A quote. -/
  | quoted {quote : Char} {cs : List Char} : quote = '"' ∨ quote = '\'' →
    Branch (quote :: cs) (scanString quote cs)
  /-- A number sign in front of a name. -/
  | tag {cs : List Char} : cs.head?.any startsTag = true → Branch ('#' :: cs) (scanTag cs)
  /-- Two opening brackets. -/
  | link (cs : List Char) : Branch ('[' :: '[' :: cs) (scanLink cs)
  /-- A character that starts a name. -/
  | name {c : Char} {cs : List Char} : startsName c = true → Branch (c :: cs) (scanName (c :: cs))
  /-- A character that starts nothing. -/
  | fault (c : Char) (cs : List Char) : Branch (c :: cs) (scanNothing c cs)

theorem branch_scan (cs : List Char) : Branch cs (scan cs) := by
  unfold scan
  split
  · exact .spent
  next c rest =>
  split
  · next heq => exact .sign heq
  split
  · next hc =>
    subst hc
    split
    · next hd => exact .number true hd
    · next hd => exact .minus (by simpa using hd)
  split
  · next hd => exact .number false (by simpa using hd)
  split
  · next hq => exact .quoted hq
  split
  · next hc =>
    subst hc
    split
    · next ht => exact .tag ht
    · exact .fault _ _
  split
  · next hc =>
    subst hc
    split
    · exact .link _
    · exact .fault _ _
  split
  · next hs => exact .name hs
  · exact .fault _ _

theorem scan_of_symbol? {cs : List Char} {t : Token} {count : Nat}
    (h : symbol? cs = some (t, count)) : scan cs = ⟨.ok t, cs.take count, cs.drop count⟩ := by
  rcases cs with _ | ⟨c, cs⟩
  · cases h
  · simp only [scan, h]

/-- **A branch that finds a token is the scan.** -/
theorem Branch.scan_eq {cs taken rest : List Char} {t : Token}
    (h : Branch cs ⟨.ok t, taken, rest⟩) : scan cs = ⟨.ok t, taken, rest⟩ := by
  generalize hs : (⟨.ok t, taken, rest⟩ : Scan) = s at h
  cases h with
  | spent => rfl
  | sign h => exact scan_of_symbol? h
  | minus h => simp [scan, symbol?, h]
  | number negative h =>
    rename_i cs
    rcases cs with _ | ⟨c, cs⟩
    · cases h
    · exact scan_of_isDigit negative (by simpa using h) cs
  | quoted h => rcases h with rfl | rfl <;> simp [scan, symbol?, Char.isDigit]
  | tag h => simp [scan, symbol?, Char.isDigit, h]
  | link cs => simp [scan, symbol?, Char.isDigit]
  | name h => exact scan_of_startsName h _
  | fault c cs => cases hs

/-- The end of the text is scanned where nothing is left, and nowhere else. -/
theorem eq_nil_of_scan_end {cs : List Char} (h : (scan cs).outcome = .ok .endOfInput) :
    cs = [] := by
  generalize hs : scan cs = s at h
  have hbranch := branch_scan cs
  rw [hs] at hbranch
  cases hbranch with
  | spent => rfl
  | sign heq => exact absurd (Except.ok.inj h) (symbol?_eq_some heq).2.2
  | minus _ => cases h
  | number negative _ => obtain ⟨n, hn⟩ | ⟨x, hx⟩ := scanDigits_isNumber h <;> contradiction
  | quoted _ =>
    obtain ⟨s, hs⟩ := scanString_isString h
    cases hs
  | tag _ => cases h
  | link cs =>
    obtain ⟨_, _, -, hl⟩ := scanLink_isLink h
    cases hl
  | name _ => exact absurd (Except.ok.inj h) (Token.ofName_ne_endOfInput _)
  | fault c cs => cases h

end Notebook.Query
