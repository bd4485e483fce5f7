import Mathlib.Data.List.TakeWhile
import Notebook.Execution.Source
import Notebook.Proofs.Markdown.Places
import Notebook.Proofs.Query.Lookahead
import Notebook.Proofs.Query.Names
import Notebook.Proofs.Text.Lines
import Notebook.Proofs.Unicode.Case

/-!
# Looking for a tag as it is written

A query and a note are read by different rules for tags. In a query the name of a tag is made of
alphanumeric characters, in a note of letters and numbers by their categories, which are fewer: a
vowel sign or a circled letter is alphanumeric and in no such category. Where a name has one of
these, the tag in the note ends before it (`Notebook.Note.tagNames_eq`), and what it is in lower
case is shorter than what the query asks for. So a query finds a tag that stands in a note as the
query writes it exactly when all alphanumeric characters of the name are letters or numbers
(`Notebook.Query.Source.has_tag_iff`).
-/

namespace Notebook

open Text Unicode

namespace Note

/-! ### The tag on a line -/

theorem tagsAfter_of_forall {leads : Char → Bool} {cs : List Char}
    (h : ∀ c ∈ cs, leads c = false) : Markdown.tagsAfter leads cs = [] := by
  induction cs with
  | nil => rw [Markdown.tagsAfter]
  | cons c cs ih =>
    obtain ⟨hc, hcs⟩ := List.forall_mem_cons.mp h
    rw [Markdown.tagsAfter]
    split
    · next hsome =>
      rw [hc, if_neg Bool.false_ne_true] at hsome
      cases hsome
    · exact ih hcs

/-- No character of a tag in a query stands before a tag in a note. -/
theorem leadsTag_of_continuesTag {c : Char} (h : Query.continuesTag c = true) :
    Markdown.leadsTag c = false := by
  have hblank : isWhiteSpace c = false :=
    Bool.eq_false_iff.mpr fun hblank => absurd h (by simp [Query.continuesTag_of_blank c hblank])
  have hopen : c ≠ '(' := by
    rintro rfl
    exact absurd h (by decide)
  have hcomma : c ≠ ',' := by
    rintro rfl
    exact absurd h (by decide)
  simp [Markdown.leadsTag, hblank, hopen, hcomma]

/-- That a character **is the same in queries and notes**: if it is alphanumeric, it is a letter or
a number. -/
def IsCommon (c : Char) : Prop :=
  isAlphanumeric c = true → isLetter c = true ∨ isNumber c = true

theorem startsTag_iff {c : Char} (h : Query.startsTag c = true) :
    Markdown.startsTag c = true ↔ IsCommon c := by
  rw [Query.startsTag, Bool.or_eq_true, beq_iff_eq] at h
  rw [Markdown.startsTag, Bool.or_eq_true, Bool.or_eq_true, beq_iff_eq, IsCommon]
  have hnot : isAlphanumeric '_' = false := by decide
  constructor
  · rintro (hc | rfl) halphanumeric
    · exact hc
    · exact absurd (hnot.symm.trans halphanumeric) Bool.false_ne_true
  · exact fun hc => h.imp hc id

theorem continuesTag_iff {c : Char} (h : Query.continuesTag c = true) :
    Markdown.continuesTag c = true ↔ IsCommon c := by
  constructor
  · intro hc halphanumeric
    simp only [Markdown.continuesTag, Markdown.startsTag, Bool.or_eq_true, beq_iff_eq] at hc
    rcases hc with ((hc | rfl) | rfl) | rfl
    · exact hc
    all_goals exact absurd halphanumeric (by decide)
  · intro hcommon
    simp only [Query.continuesTag, Bool.or_eq_true, beq_iff_eq] at h
    rcases h with ((halphanumeric | rfl) | rfl) | rfl
    · rcases hcommon halphanumeric with hc | hc <;>
        simp [Markdown.continuesTag, Markdown.startsTag, hc]
    all_goals decide

/-- **The tag that a note has** where the tag of a query is written: the name up to its first
character that is none in a note. -/
theorem tagNames_eq {name : List Char} (h : Query.isTagName name = true) :
    Markdown.tagNames Markdown.leadsTag ('#' :: name) =
      if name.head?.any Markdown.startsTag then [name.takeWhile Markdown.continuesTag] else [] := by
  rw [Query.isTagName, Bool.and_eq_true, List.all_eq_true] at h
  have hnone : ∀ c ∈ name, Markdown.leadsTag c = false :=
    fun c hc => leadsTag_of_continuesTag (h.2 c hc)
  rcases name with _ | ⟨c, name⟩
  · exact absurd h.1 Bool.false_ne_true
  · by_cases hc : Markdown.startsTag c = true
    · have hcontinues : Markdown.continuesTag c = true := by simp [Markdown.continuesTag, hc]
      have hafter :
          Markdown.tagsAfter Markdown.leadsTag (name.dropWhile Markdown.continuesTag) = [] :=
        tagsAfter_of_forall fun d hd =>
          hnone d (List.mem_cons_of_mem c ((List.dropWhile_suffix _).mem hd))
      simp [Markdown.tagNames, Markdown.tagAt?, hc, hcontinues, hafter]
    · have hafter : Markdown.tagsAfter Markdown.leadsTag ('#' :: c :: name) = [] :=
        tagsAfter_of_forall (List.forall_mem_cons.mpr ⟨by decide, hnone⟩)
      simp [Markdown.tagNames, Markdown.tagAt?, hc, hafter]

/-! ### A note of one line -/

section OneLine

variable {note : Note} {name : List Char}

theorem fence?_numberSign (cs : List Char) : Markdown.fence? ('#' :: cs) = none := by
  simp [Markdown.fence?]

theorem declaredTags_of_empty (h : note.frontmatter = .empty) : note.declaredTags = [] := by
  have hfield : ∀ key, note.field? key = none := fun key => by rw [field?, h]; rfl
  rw [declaredTags, hfield, hfield]
  rfl

theorem tags_of_line (hname : Query.isTagName name = true)
    (hfrontmatter : note.frontmatter = .empty)
    (hlines : lines note.body.toList = ['#' :: name]) :
    note.tags = if name.head?.any Markdown.startsTag then
      [String.ofList ('#' :: name.takeWhile Markdown.continuesTag)] else [] := by
  have hinline : note.inlineTags = Markdown.tagNames Markdown.leadsTag ('#' :: name) := by
    rw [inlineTags, Markdown.plainLines_of_lines hlines (fence?_numberSign name),
      List.flatMap_singleton]
  rw [tags, declaredTags_of_empty hfrontmatter, List.nil_append, hinline, tagNames_eq hname]
  split
  · simp [distinct, pushNew]
  · rfl

theorem plainTag_ofList {cs : List Char} (h : '#' ∉ cs) :
    plainTag (String.ofList ('#' :: cs)) = lowercase cs ∧
      plainTag (String.ofList cs) = lowercase cs := by
  have hdrop : cs.dropWhile (· == '#') = cs := by
    refine dropWhile_of_head? ?_
    rcases cs with _ | ⟨c, cs⟩
    · rfl
    · simpa using Ne.symm (not_or.mp (List.mem_cons.not.mp h)).1
  simp [plainTag, hdrop]

/-- A tag that is cut off is not the tag, nor nested in it. -/
theorem eq_of_matches {short name : List Char} (hbegins : short <+: name)
    (h : (lowercase short == lowercase name ||
      (lowercase name ++ ['/']).isPrefixOf (lowercase short)) = true) : short = name := by
  by_contra hne
  have hlt := length_lowercase_lt hbegins hne
  rw [Bool.or_eq_true, beq_iff_eq, List.isPrefixOf_iff_prefix] at h
  rcases h with heq | hnested
  · exact absurd (congrArg List.length heq) (Nat.ne_of_lt hlt)
  · have hle := hnested.length_le
    rw [List.length_append] at hle
    omega

/-- The note has the tag if and only if all characters of the name are the same in queries and
notes. -/
theorem hasTag_of_line (hname : Query.isTagName name = true)
    (hfrontmatter : note.frontmatter = .empty)
    (hlines : lines note.body.toList = ['#' :: name]) :
    note.hasTag (String.ofList name) = true ↔ ∀ c ∈ name, IsCommon c := by
  obtain ⟨hstart, hall⟩ : name.head?.any Query.startsTag = true ∧ _ := by
    rwa [Query.isTagName, Bool.and_eq_true, List.all_eq_true] at hname
  have hsign : '#' ∉ name := fun hmem => absurd (hall '#' hmem) (by decide)
  have hbegins := List.takeWhile_prefix Markdown.continuesTag (l := name)
  obtain ⟨hplain, -⟩ := plainTag_ofList fun hmem => hsign (hbegins.mem hmem)
  rw [hasTag, tags_of_line hname hfrontmatter hlines, (plainTag_ofList hsign).2]
  constructor
  · intro hhas c hc
    split at hhas
    · rw [List.any_cons, List.any_nil, Bool.or_false, hplain] at hhas
      have hself := eq_of_matches hbegins hhas
      have hcontinues := List.all_eq_true.mp List.all_takeWhile c (hself.symm ▸ hc)
      exact (continuesTag_iff (hall c hc)).mp hcontinues
    · cases hhas
  · intro hcommon
    have hstarts : name.head?.any Markdown.startsTag = true := by
      rcases name with _ | ⟨c, cs⟩
      · exact hstart
      · exact (startsTag_iff hstart).mpr (hcommon c (List.mem_cons_self ..))
    have hself : name.takeWhile Markdown.continuesTag = name :=
      List.takeWhile_eq_self_iff.mpr fun c hc => (continuesTag_iff (hall c hc)).mpr (hcommon c hc)
    rw [if_pos hstarts, List.any_cons, hplain, hself, beq_self_eq_true, Bool.true_or, Bool.true_or]

end OneLine

end Note

namespace Query.Source

/-- **Whether a query finds a tag that stands in a note as the query writes it**: on the one line of
a note without front matter, exactly when each alphanumeric character of the name is a letter or a
number by its category. -/
theorem has_tag_iff {note : Note} {name : String} (hlexes : LexesAs ("#" ++ name) (.tag name))
    (hfrontmatter : note.frontmatter = .empty)
    (hlines : lines note.body.toList = ['#' :: name.toList]) :
    (Source.tag name).has note = true ↔ ∀ c ∈ name.toList,
      isAlphanumeric c = true → isLetter c = true ∨ isNumber c = true := by
  have hhas := Note.hasTag_of_line (lexesAs_tag_iff.mp hlexes) hfrontmatter hlines
  rwa [String.ofList_toList] at hhas

/-- A tag of letters with diacritics, and a tag nested in it. -/
theorem has_tag_iff_of_letters :
    let note := Note.ofBody "reise.md" "#größe/1"
    LexesAs ("#" ++ "größe/1") (.tag "größe/1") ∧ note.frontmatter = .empty ∧
      lines note.body.toList = ['#' :: "größe/1".toList] ∧
      (Source.tag "größe/1").has note = true := by
  have hlexes : LexesAs ("#" ++ "größe/1") (.tag "größe/1") :=
    lexesAs_tag_iff.mpr (by decide +kernel)
  have hcommon : "größe/1".toList.all
      (fun c => !isAlphanumeric c || (isLetter c || isNumber c)) = true := by decide +kernel
  refine ⟨hlexes, rfl, rfl, (has_tag_iff hlexes rfl rfl).mpr fun c hc halphanumeric => ?_⟩
  simpa [halphanumeric] using List.all_eq_true.mp hcommon c hc

/-- The vowel signs of the word are alphanumeric and no letters, so the tag in the note is its first
letter alone. -/
theorem not_has_tag_of_vowelSigns :
    let note := Note.ofBody "gita.md" "#गीत"
    LexesAs ("#" ++ "गीत") (.tag "गीत") ∧ note.frontmatter = .empty ∧
      lines note.body.toList = ['#' :: "गीत".toList] ∧ note.tags = ["#ग"] ∧
      (Source.tag "गीत").has note = false :=
  ⟨lexesAs_tag_iff.mpr (by decide +kernel), rfl, rfl, by decide +kernel, by decide +kernel⟩

end Query.Source

end Notebook
