import Notebook.Proofs.Dictionary
import Notebook.Proofs.Number.Numeral
import Notebook.Proofs.Task.Rereading
import Notebook.Proofs.Unicode.Case
import Notebook.Proofs.Value.SortOrder

/-!
# The values of annotations

An annotation comes from the last inline field with its key, from a marked date, or from the tags
(`Notebook.Task.Annotates`). Dates and tags can always be put in order. A field is a number only if
it is a numeral, or a hyphen and the name of infinity or of not-a-number
(`Notebook.Task.numeral_of_typedValue`): what starts with a hyphen passes for a numeral, and the
reading of numbers knows these names too.

So the annotations of a task can be put in order unless a field in effect is a hyphen and the name
of not-a-number (`Notebook.Task.annotation_of_mem_extract`).
-/

namespace Notebook.Task

open Number Text Unicode

variable {cs : List Char} {key : String} {v : Value}

/-! ### Where an annotation comes from -/

/-- The last inline field of a text with a key. -/
def lastField? (cs : List Char) (key : String) : Option (List Char) :=
  ((inlineFields cs).map fun field =>
    (String.ofList (lowercase field.1), field.2)).reverse.lookup key

/-- **The inline field in effect** for a key: the last one, unless the tags are kept under the key.
-/
def fieldText? (cs : List Char) (key : String) : Option (List Char) :=
  if key = "tags" ∧ Markdown.tagNames isWhiteSpace cs ≠ [] then none else lastField? cs key

theorem trim_of_fieldAt? {after : List Char} {field : List Char × List Char}
    (h : fieldAt? cs = some (field, after)) : trim field.2 = field.2 := by
  unfold fieldAt? at h
  split at h
  · split at h
    · obtain ⟨rfl, -⟩ := Prod.mk.inj (Option.some.inj h)
      exact trim_trim _
    · cases h
  · cases h

/-- The value of a field has no white space around it. -/
theorem trim_of_mem_inlineFields {field : List Char × List Char} (h : field ∈ inlineFields cs) :
    trim field.2 = field.2 := by
  fun_induction inlineFields cs with
  | case1 => cases h
  | case2 c rest found after hfound ih =>
    rcases List.mem_cons.mp h with rfl | h
    · exact trim_of_fieldAt? (Option.ite_none_right_eq_some.mp hfound).2
    · exact ih h
  | case3 c rest hnone ih => exact ih h

/-- What is kept for a key is the value of an inline field with it. -/
theorem exists_field_of_lastField? {text : List Char} (h : lastField? cs key = some text) :
    ∃ field ∈ inlineFields cs, String.ofList (lowercase field.1) = key ∧ field.2 = text := by
  obtain ⟨before, after, heq, -⟩ := List.lookup_eq_some_iff.mp h
  have hmem : (key, text) ∈ (inlineFields cs).map fun field =>
      (String.ofList (lowercase field.1), field.2) := by
    rw [← List.mem_reverse, heq]
    exact List.mem_append_right _ (List.mem_cons_self ..)
  obtain ⟨field, hfield, hpair⟩ := List.mem_map.mp hmem
  exact ⟨field, hfield, Prod.mk.inj hpair⟩

theorem trim_of_fieldText? {text : List Char} (h : fieldText? cs key = some text) :
    trim text = text := by
  obtain ⟨-, hlast⟩ := Option.ite_none_left_eq_some.mp h
  obtain ⟨field, hfield, -, rfl⟩ := exists_field_of_lastField? hlast
  exact trim_of_mem_inlineFields hfield

theorem find?_fieldAnnotations (cs : List Char) (key : String) :
    (fieldAnnotations cs).find? key = (lastField? cs key).map typedValue := by
  have hlookup : ∀ entries : List (String × List Char),
      (entries.map fun entry => (entry.1, typedValue entry.2)).lookup key =
        (entries.lookup key).map typedValue := by
    intro entries
    induction entries with
    | nil => rfl
    | cons entry entries ih =>
      rw [List.map_cons, Dictionary.lookup_entry, Dictionary.lookup_entry, ih]
      split <;> rfl
  rw [fieldAnnotations, Dictionary.find?_ofList, lastField?, ← hlookup, List.map_reverse,
    List.map_map]
  rfl

/-- A marked date is only kept under a key that has nothing. -/
theorem find?_addDate (d : Dictionary Value) (mark : String × List Char) (key : String) :
    (addDate d mark).find? key = d.find? key ∨
      d.find? key = none ∧ ∃ t, (addDate d mark).find? key = some (.date t) := by
  unfold addDate
  split
  · next t hnone _ =>
    rw [Dictionary.find?_insert]
    split
    · next hkey => exact .inr ⟨hkey ▸ hnone, t, rfl⟩
    · exact .inl rfl
  · exact .inl rfl

theorem find?_addDates (marks : List (String × List Char)) (d : Dictionary Value) (key : String) :
    (marks.foldl addDate d).find? key = d.find? key ∨
      d.find? key = none ∧ ∃ t, (marks.foldl addDate d).find? key = some (.date t) := by
  induction marks generalizing d with
  | nil => exact .inl rfl
  | cons mark marks ih =>
    rw [List.foldl_cons]
    rcases find?_addDate d mark key with hsame | ⟨hnone, t, hdate⟩
    · rw [← hsame]
      exact ih (addDate d mark)
    · rcases ih (addDate d mark) with hkept | ⟨hfree, -⟩
      · exact .inr ⟨hnone, t, hkept.trans hdate⟩
      · rw [hdate] at hfree
        cases hfree

theorem find?_addTags (d : Dictionary Value) (names : List (List Char)) (key : String) :
    (addTags d names).find? key =
      if key = "tags" ∧ names ≠ [] then
        some (.list (names.map fun name => .string (String.ofList ('#' :: name))))
      else d.find? key := by
  unfold addTags
  by_cases hnames : names = []
  · simp [hnames]
  · rw [if_neg (by simpa using hnames), Dictionary.find?_insert]
    simp [hnames]

/-- **Where an annotation comes from.** -/
inductive Annotates (cs : List Char) (key : String) : Value → Prop
  /-- From an inline field. -/
  | field {text : List Char} : fieldText? cs key = some text → Annotates cs key (typedValue text)
  /-- From a marked date. -/
  | date {t : Calendar.Instant} : fieldText? cs key = none → Annotates cs key (.date t)
  /-- From the tags. -/
  | tags {names : List (List Char)} : fieldText? cs key = none →
    Annotates cs key (.list (names.map fun name => .string (String.ofList ('#' :: name))))

theorem annotates_of_find? (h : (annotationsOf cs).find? key = some v) : Annotates cs key v := by
  rw [annotationsOf, find?_addTags] at h
  split at h
  · next htags =>
    obtain rfl := Option.some.inj h
    exact .tags (if_pos htags)
  · next htags =>
    have hfield : fieldText? cs key = lastField? cs key := if_neg htags
    rcases find?_addDates (markedDates cs) (fieldAnnotations cs) key with hsame | ⟨hnone, t, hdate⟩
    · rw [hsame, find?_fieldAnnotations] at h
      obtain ⟨text, htext, rfl⟩ := Option.map_eq_some_iff.mp h
      exact .field (hfield.trans htext)
    · obtain rfl := Option.some.inj (hdate.symm.trans h)
      rw [find?_fieldAnnotations, Option.map_eq_none_iff] at hnone
      exact .date (hfield.trans hnone)

theorem find?_of_fieldText? {text : List Char} (h : fieldText? cs key = some text) :
    (annotationsOf cs).find? key = some (typedValue text) := by
  obtain ⟨htags, hlast⟩ := Option.ite_none_left_eq_some.mp h
  have hfield : (fieldAnnotations cs).find? key = some (typedValue text) := by
    rw [find?_fieldAnnotations, hlast]
    rfl
  rw [annotationsOf, find?_addTags, if_neg htags]
  rcases find?_addDates (markedDates cs) (fieldAnnotations cs) key with hsame | ⟨hnone, -⟩
  · exact hsame.trans hfield
  · rw [hfield] at hnone
    cases hnone

/-! ### What a field spells -/

/-- **What a text is read as**: a whole number, a number that starts like one, or something else. -/
theorem typedValue_cases (cs : List Char) :
    (∃ n, signedWhole? (trim cs) = some n ∧ typedValue cs = .integer (.ofInt n)) ∨
      (∃ x, ((trim cs).head?.any fun c => c.isDigit || c == '-') = true ∧
        Binary64.ofText? (trim cs) = some x ∧ typedValue cs = .real x) ∨
      (typedValue cs).isNumber = false ∧ (typedValue cs).IsOrdered := by
  unfold typedValue
  dsimp only
  split
  · next n hwhole =>
    exact .inl ⟨n, (Option.filter_eq_some_iff.mp hwhole).1, rfl⟩
  · next x _ hreal =>
    obtain ⟨hstart, hx⟩ := Option.ite_none_right_eq_some.mp hreal
    exact .inr (.inl ⟨x, hstart, hx, rfl⟩)
  · refine .inr (.inr ?_)
    repeat' split
    all_goals exact ⟨rfl, rfl⟩

/-- A name of a number is a word of letters, so a text that starts with a digit is none. -/
theorem not_mem_names_of_isDigit {c : Char} (hc : c.isDigit = true) (s : List Char) :
    (c :: s).map Char.toLower ∉ Binary64.names := by
  intro hname
  have hletters : ∀ name ∈ Binary64.names, ∀ d ∈ name, d.isAlpha = true := by
    simp [Binary64.names]
  have hlower := hletters _ hname c.toLower (List.mem_cons_self ..)
  have hnone := isDigit_of_isAlpha (isAlpha_of_isAlpha_toLower hlower)
  rw [hc] at hnone
  cases hnone

theorem ofText?_of_isDigit {c : Char} (hc : c.isDigit = true) (s : List Char) :
    Binary64.ofText? (c :: s) = Binary64.ofUnsignedText? false (c :: s) := by
  unfold Binary64.ofText?
  split
  · next heq =>
    obtain ⟨rfl, -⟩ := List.cons.inj heq
    cases hc
  · next heq =>
    obtain ⟨rfl, -⟩ := List.cons.inj heq
    cases hc
  · rfl

/-- A text that starts with a digit or a hyphen spells a number with a numeral, or with the hyphen
and a name, of which one is that of not-a-number. -/
theorem ofText?_of_start {s : List Char} {x : Binary64}
    (hstart : (s.head?.any fun c => c.isDigit || c == '-') = true)
    (hx : Binary64.ofText? s = some x) :
    (IsNumeral s ∧ x ≠ .nan) ∨ ∃ name ∈ Binary64.names, asciiLowercase s = '-' :: name ∧
      (x = .nan → name = ['n', 'a', 'n']) := by
  rcases s with _ | ⟨c, s⟩
  · cases hstart
  have hc : c.isDigit = true ∨ c = '-' := by simpa using hstart
  rcases hc with hc | rfl
  · left
    rw [ofText?_of_isDigit hc] at hx
    rcases Binary64.ofUnsignedText?_cases hx with
      hname | ⟨mantissa, exponent, digits, e, heq, hmantissa, hexponent, rfl⟩
    · exact absurd hname (not_mem_names_of_isDigit hc s)
    · rw [heq]
      exact ⟨.parts (.inl rfl) hmantissa hexponent, Binary64.ofDecimal_ne_nan _ _ _⟩
  · rcases Binary64.ofUnsignedText?_cases hx with
      hname | ⟨mantissa, exponent, digits, e, rfl, hmantissa, hexponent, rfl⟩
    · right
      refine ⟨_, hname, rfl, ?_⟩
      rintro rfl
      exact Binary64.ofUnsignedText?_eq_nan_iff.mp hx
    · left
      exact ⟨.parts (.inr (.inl rfl)) hmantissa hexponent, Binary64.ofDecimal_ne_nan _ _ _⟩

/-- **A field is a number only if it is a numeral**, or a hyphen and a name. -/
theorem numeral_of_typedValue (h : (typedValue cs).isNumber = true) :
    IsNumeral (trim cs) ∨ ∃ name ∈ Binary64.names, asciiLowercase (trim cs) = '-' :: name := by
  rcases typedValue_cases cs with ⟨n, hwhole, -⟩ | ⟨x, hstart, hx, -⟩ | ⟨hother, -⟩
  · exact .inl (isNumeral_of_signedWhole? hwhole)
  · rcases ofText?_of_start hstart hx with ⟨hnumeral, -⟩ | ⟨name, hname, heq, -⟩
    · exact .inl hnumeral
    · exact .inr ⟨name, hname, heq⟩
  · rw [hother] at h
    cases h

theorem isOrdered_typedValue (h : typedValue cs ≠ .real .nan) : (typedValue cs).IsOrdered := by
  rcases typedValue_cases cs with ⟨n, -, heq⟩ | ⟨x, -, -, heq⟩ | ⟨-, hordered⟩
  · rw [heq]
    rfl
  · rw [heq] at h ⊢
    rcases x with _ | negative | number
    · exact absurd rfl h
    · rfl
    · rfl
  · exact hordered

/-- **A field is not-a-number** exactly when it is a hyphen and the name of that. -/
theorem typedValue_eq_nan_iff :
    typedValue cs = .real .nan ↔ asciiLowercase (trim cs) = ['-', 'n', 'a', 'n'] := by
  constructor
  · intro h
    rcases typedValue_cases cs with ⟨n, -, heq⟩ | ⟨x, hstart, hx, heq⟩ | ⟨hother, -⟩
    · cases heq.symm.trans h
    · obtain rfl := Value.real.inj (heq.symm.trans h)
      rcases ofText?_of_start hstart hx with ⟨-, hne⟩ | ⟨name, -, hlower, hname⟩
      · exact absurd rfl hne
      · rw [hlower, hname rfl]
    · rw [h] at hother
      cases hother
  · intro h
    unfold typedValue
    generalize trim cs = s at h
    obtain ⟨c, s, rfl, hc, hs⟩ := List.map_eq_cons_iff.mp h
    have hhyphen : c = '-' := by
      rcases isAlpha_of_toLower (show c.toLower = '-'.toLower from hc) with rfl | ⟨-, hletter⟩
      · rfl
      · cases hletter
    subst hhyphen
    have hwhole : signedWhole? ('-' :: s) = none := by
      obtain ⟨d, s, rfl, hd, -⟩ := List.map_eq_cons_iff.mp hs
      have hletter : d.isAlpha = true := isAlpha_of_isAlpha_toLower (by rw [hd]; rfl)
      simp [signedWhole?, isDigit_of_isAlpha hletter]
    have hreal : Binary64.ofText? ('-' :: s) = some .nan :=
      Binary64.ofUnsignedText?_eq_nan_iff.mpr hs
    simp [hwhole, hreal]

/-! ### The annotations of a task -/

theorem Annotates.isOrdered (h : Annotates cs key v) (hne : v ≠ .real .nan) : v.IsOrdered := by
  rcases h with htext | _ | _
  · exact isOrdered_typedValue hne
  · rfl
  · refine Value.isOrdered_list.mpr fun item hitem => ?_
    obtain ⟨name, -, rfl⟩ := List.mem_map.mp hitem
    rfl

/-- A number comes from a field that spells one. -/
theorem Annotates.numeral (h : Annotates cs key v) (hnumber : v.isNumber = true) :
    ∃ text, fieldText? cs key = some text ∧
      (IsNumeral text ∨ ∃ name ∈ Binary64.names, asciiLowercase text = '-' :: name) := by
  rcases h with htext | _ | _
  · have hnumeral := numeral_of_typedValue hnumber
    rw [trim_of_fieldText? htext] at hnumeral
    exact ⟨_, htext, hnumeral⟩
  · exact nomatch hnumber
  · exact nomatch hnumber

theorem find?_annotationsOf_eq_nan_iff : (annotationsOf cs).find? key = some (.real .nan) ↔
    ∃ text, fieldText? cs key = some text ∧ asciiLowercase text = ['-', 'n', 'a', 'n'] := by
  constructor
  · intro h
    obtain ⟨text, htext, -⟩ := (annotates_of_find? h).numeral rfl
    have hnan := Option.some.inj ((find?_of_fieldText? htext).symm.trans h)
    rw [typedValue_eq_nan_iff, trim_of_fieldText? htext] at hnan
    exact ⟨text, htext, hnan⟩
  · rintro ⟨text, htext, hname⟩
    rw [← trim_of_fieldText? htext] at hname
    rw [find?_of_fieldText? htext, typedValue_eq_nan_iff.mpr hname]

/-- **The annotations of a task that was read**: one is not-a-number exactly when the field in
effect for its key is a hyphen and the name of not-a-number, every other one can be put in order,
and a number comes from a field that is a numeral or a hyphen and a name. -/
theorem annotation_of_mem_extract {path body : String} {task : Task} (h : task ∈ extract path body)
    (key : String) :
    ((key, .real .nan) ∈ task.annotations.entries ↔
      ∃ text, fieldText? task.text.toList key = some text ∧
        asciiLowercase text = ['-', 'n', 'a', 'n']) ∧
    ∀ v, (key, v) ∈ task.annotations.entries → (v ≠ .real .nan → v.IsOrdered) ∧
      (v.isNumber = true → ∃ text, fieldText? task.text.toList key = some text ∧
        (IsNumeral text ∨ ∃ name ∈ Binary64.names, asciiLowercase text = '-' :: name)) := by
  rw [(legible_of_mem_extract h).annotations]
  simp only [← Dictionary.find?_eq_some_iff]
  refine ⟨find?_annotationsOf_eq_nan_iff, fun v hv => ?_⟩
  exact ⟨(annotates_of_find? hv).isOrdered, (annotates_of_find? hv).numeral⟩

/-- The number in a field can be put in order. -/
theorem isOrdered_annotation_of_numeral : ∃ task ∈ extract "a.md" "- [ ] x [k:: 1.5]",
    ∃ v, ("k", v) ∈ task.annotations.entries ∧ v.isNumber = true ∧ v.IsOrdered := by
  have hextract : extract "a.md" "- [ ] x [k:: 1.5]" =
      [⟨"a.md", 1, "x [k:: 1.5]", ' ', false, annotationsOf "x [k:: 1.5]".toList⟩] := rfl
  have hfield : fieldText? "x [k:: 1.5]".toList "k" = some ['1', '.', '5'] := by decide +kernel
  have hentry := Dictionary.find?_eq_some_iff.mp (find?_of_fieldText? hfield)
  have htask := List.mem_of_mem_head? (congrArg List.head? hextract)
  obtain ⟨hnan, hothers⟩ := annotation_of_mem_extract htask "k"
  refine ⟨_, htask, _, hentry, by decide +kernel, (hothers _ hentry).1 fun heq => ?_⟩
  obtain ⟨text, htext, hname⟩ := hnan.mp (heq ▸ hentry)
  obtain rfl := Option.some.inj (hfield.symm.trans htext)
  cases hname

/-- A hyphen passes for the start of a number, so a field can be not-a-number. -/
theorem nan_annotation_of_hyphen : ∃ task ∈ extract "a.md" "- [ ] x [k:: -nan]",
    ("k", .real .nan) ∈ task.annotations.entries := by
  have hextract : extract "a.md" "- [ ] x [k:: -nan]" =
      [⟨"a.md", 1, "x [k:: -nan]", ' ', false, annotationsOf "x [k:: -nan]".toList⟩] := rfl
  have hfield : fieldText? "x [k:: -nan]".toList "k" = some ['-', 'n', 'a', 'n'] := by
    decide +kernel
  refine ⟨_, List.mem_of_mem_head? (congrArg List.head? hextract), ?_⟩
  rw [← Dictionary.find?_eq_some_iff, find?_of_fieldText? hfield,
    typedValue_eq_nan_iff.mpr (by decide)]

end Notebook.Task
