import Notebook.Note.Basic
import Notebook.Proofs.Markdown.Places
import Notebook.Proofs.Markdown.Search
import Notebook.Proofs.Order.FirstOccurrence
import Notebook.Proofs.Text.Lines
import Notebook.Proofs.Unicode.Lowercase

/-!
# Tags and links that a note mentions

A note mentions tags in its front matter and on the lines outside of fenced code, and links on these
lines alone. The lists `Notebook.Note.tags` and `Notebook.Note.outlinks` have each mention once.

What is mentioned is said without the functions that collect it: `Notebook.Note.MentionsTags` goes
through the parts of the declarations and then through the lines, and
`Notebook.Note.MentionsLinks` through the lines. In both a line is searched as
`Notebook.Markdown.Finds` says, so that nothing is left open about which mentions there are
(`Notebook.Note.MentionsTags.unique`, `Notebook.Note.MentionsLinks.unique`). The lists are the first
occurrences among them (`Notebook.FirstOccurrences`).
-/

namespace Notebook

/-! ### One item after the other -/

section Collects

variable {α β : Type} {Found : α → List β → Prop} {items : List α} {found : List β}

/-- **What is found in items** one after the other, where `Found` says what is found in each. -/
inductive Collects (Found : α → List β → Prop) : List α → List β → Prop
  /-- There are no items. -/
  | nil : Collects Found [] []
  /-- What is found in the first item comes first. -/
  | cons {item : α} {items : List α} {found others : List β} (hfound : Found item found)
    (hothers : Collects Found items others) : Collects Found (item :: items) (found ++ others)

namespace Collects

theorem flatMap {find : α → List β} (h : ∀ item, Found item (find item)) (items : List α) :
    Collects Found items (items.flatMap find) := by
  induction items with
  | nil => exact .nil
  | cons item items ih =>
    rw [List.flatMap_cons]
    exact .cons (h item) ih

theorem unique (h : Collects Found items found) {found' : List β}
    (h' : Collects Found items found')
    (hunique : ∀ item found found', Found item found → Found item found' → found = found') :
    found = found' := by
  induction h generalizing found' with
  | nil =>
    cases h'
    rfl
  | cons hfound _ ih =>
    cases h' with
    | cons hfound' hothers' => rw [hunique _ _ _ hfound hfound', ih hothers']

/-- What is found is found in one of the items. -/
theorem exists_of_mem (h : Collects Found items found) {x : β} (hx : x ∈ found) :
    ∃ item ∈ items, ∃ part, Found item part ∧ x ∈ part := by
  induction h with
  | nil => cases hx
  | @cons item items part others hpart _ ih =>
    rcases List.mem_append.mp hx with hx | hx
    · exact ⟨item, List.mem_cons_self .., part, hpart, hx⟩
    · obtain ⟨item', hitem', hrest⟩ := ih hx
      exact ⟨item', List.mem_cons_of_mem _ hitem', hrest⟩

end Collects

end Collects

namespace Note

open Markdown Text Unicode

/-! ### Each item once -/

theorem equivalence_equalIgnoringAsciiCase :
    Equivalence fun a b => equalIgnoringAsciiCase a b = true where
  refl _ := equalIgnoringAsciiCase_iff.mpr rfl
  symm h := equalIgnoringAsciiCase_iff.mpr (equalIgnoringAsciiCase_iff.mp h).symm
  trans h h' := equalIgnoringAsciiCase_iff.mpr
    ((equalIgnoringAsciiCase_iff.mp h).trans (equalIgnoringAsciiCase_iff.mp h'))

/-- **Items that are listed once** are the first occurrences among those that are not empty. -/
theorem firstOccurrences_distinct (items : List (List Char)) :
    FirstOccurrences equalIgnoringAsciiCase (items.filter (!·.isEmpty)) (distinct items) := by
  refine firstOccurrences_foldl equivalence_equalIgnoringAsciiCase (fun firsts item => ?_) items
  rw [pushNew]
  cases item.isEmpty <;> cases firsts.any (equalIgnoringAsciiCase · item) <;> rfl

variable {note : Note}

/-! ### What is mentioned -/

/-- The texts in which the front matter declares tags: the one under `tags`, else the one under
`tag`, or the texts of the items of a list. -/
def declarations (note : Note) : List String :=
  match (note.field? "tags").or (note.field? "tag") with
  | some (.string s) => [s]
  | some (.list items) => items.map Value.text
  | _ => []

/-- The names of the tags that a text declares: the parts between its commas and blanks, without
white space around them and number signs before them, unless nothing is left. -/
def DeclaresTags (declaration : String) (names : List (List Char)) : Prop :=
  ∃ parts, PartedInto (fun c => c == ',' || c == ' ') declaration.toList parts ∧
    names = (parts.map fun part => (trim part).dropWhile (· == '#')).filter (!·.isEmpty)

/-- The lines of a note outside of fenced code. -/
def openLines (note : Note) : List (List Char) :=
  ((passages (lines note.body.toList)).filterMap Passage.line?).map Prod.snd

/-- **The names of the tags that a note mentions**: those that it declares, and then those on its
lines outside of fenced code. -/
def MentionsTags (note : Note) (names : List (List Char)) : Prop :=
  ∃ declared inline, Collects DeclaresTags note.declarations declared ∧
    Collects (TagsOn leadsTag) note.openLines inline ∧ names = declared ++ inline

/-- **The targets of the links that a note mentions** on its lines outside of fenced code, without
white space around them, and without those that are blank. -/
def MentionsLinks (note : Note) (targets : List (List Char)) : Prop :=
  ∃ found, Collects (Finds IsLink) note.openLines found ∧
    targets = (found.map trim).filter (!·.isEmpty)

theorem MentionsTags.unique {names names' : List (List Char)} (h : note.MentionsTags names)
    (h' : note.MentionsTags names') : names = names' := by
  obtain ⟨declared, inline, hdeclared, hinline, rfl⟩ := h
  obtain ⟨declared', inline', hdeclared', hinline', rfl⟩ := h'
  have hparts : ∀ declaration names names', DeclaresTags declaration names →
      DeclaresTags declaration names' → names = names' := by
    rintro declaration _ _ ⟨parts, hparts, rfl⟩ ⟨parts', hparts', rfl⟩
    rw [← partedInto_iff.mp hparts, partedInto_iff.mp hparts']
  rw [hdeclared.unique hdeclared' hparts, hinline.unique hinline' fun _ _ _ => TagsOn.unique]

theorem MentionsLinks.unique {targets targets' : List (List Char)} (h : note.MentionsLinks targets)
    (h' : note.MentionsLinks targets') : targets = targets' := by
  obtain ⟨found, hfound, rfl⟩ := h
  obtain ⟨found', hfound', rfl⟩ := h'
  rw [hfound.unique hfound' fun _ _ _ hline hline' =>
    hline.unique hline' fun _ _ _ _ _ => IsLink.unique]

/-! ### What is collected -/

theorem openLines_eq (note : Note) :
    note.openLines = (plainLines note.body.toList).map Prod.snd := by
  rw [openLines, plainLines_eq_passages]

theorem declaredTags_eq (note : Note) :
    note.declaredTags = note.declarations.flatMap declaredParts := by
  unfold declaredTags declarations
  cases (note.field? "tags").or (note.field? "tag") with
  | none => rfl
  | some value =>
    cases value with
    | string s => exact (List.append_nil _).symm
    | list items => exact (List.flatMap_map ..).symm
    | _ => rfl

/-- **The tags that are collected** are those that the note mentions. -/
theorem mentionsTags (note : Note) : note.MentionsTags (note.declaredTags ++ note.inlineTags) := by
  refine ⟨_, _, ?_, ?_, rfl⟩
  · rw [declaredTags_eq]
    exact .flatMap (fun declaration => ⟨_, partedInto_iff.mpr rfl, rfl⟩) _
  · rw [inlineTags, openLines_eq, ← List.flatMap_map]
    exact .flatMap (tagsOn_tagNames leadsTag) _

/-- **The links that are collected** are those that the note mentions. -/
theorem mentionsLinks (note : Note) : note.MentionsLinks
    (((plainLines note.body.toList).flatMap fun line => (linkTargets line.2).map trim).filter
      (!·.isEmpty)) := by
  refine ⟨note.openLines.flatMap linkTargets, .flatMap finds_linkTargets _, ?_⟩
  rw [openLines_eq, List.flatMap_map, List.map_flatMap]

/-- **The name of a tag** has something in it and does not start with a number sign. -/
theorem MentionsTags.exists_cons {names : List (List Char)} (h : note.MentionsTags names)
    {name : List Char} (hname : name ∈ names) : ∃ c cs, name = c :: cs ∧ c ≠ '#' := by
  obtain ⟨declared, inline, hdeclared, hinline, rfl⟩ := h
  rcases List.mem_append.mp hname with hname | hname
  · obtain ⟨_, -, _, ⟨parts, -, rfl⟩, hname⟩ := hdeclared.exists_of_mem hname
    obtain ⟨hpart, hne⟩ := List.mem_filter.mp hname
    obtain ⟨part, -, rfl⟩ := List.mem_map.mp hpart
    -- what is left after the number signs does not start with one
    have hhead := head?_dropWhile_any (· == '#') (trim part)
    cases hdrop : (trim part).dropWhile (· == '#') with
    | nil => simp [hdrop] at hne
    | cons c cs => exact ⟨c, cs, rfl, by simpa [hdrop] using hhead⟩
  · obtain ⟨_, -, _, hline, hname⟩ := hinline.exists_of_mem hname
    obtain ⟨_, _, -, ⟨first, others, rfl, hfirst, -⟩, -⟩ := hline.exists_isTag hname
    refine ⟨first, others, rfl, ?_⟩
    rintro rfl
    exact absurd hfirst (by decide)

/-! ### What is listed -/

/-- **What a note mentions is listed**, each tag and each link once up to the case of letters, in
the order in which they first come and as they are written there, declared tags first. A tag is
listed as a number sign and a name, which does not start with a number sign itself. -/
theorem mentions_listed (note : Note) :
    (∃ names, note.MentionsTags names ∧
      FirstOccurrences equalIgnoringAsciiCase (names.map ('#' :: ·))
        (note.tags.map String.toList)) ∧
    (∀ tag ∈ note.tags, ∃ c cs, tag.toList = '#' :: c :: cs ∧ c ≠ '#') ∧
    ∃ targets, note.MentionsLinks targets ∧
      FirstOccurrences equalIgnoringAsciiCase targets (note.outlinks.map String.toList) := by
  have htext : ∀ items : List (List Char), (items.map String.ofList).map String.toList = items := by
    intro items
    simp [List.map_map, Function.comp_def]
  have htags : FirstOccurrences equalIgnoringAsciiCase
      ((note.declaredTags ++ note.inlineTags).map ('#' :: ·)) (note.tags.map String.toList) := by
    have hfirst := firstOccurrences_distinct ((note.declaredTags ++ note.inlineTags).map ('#' :: ·))
    have hsign : ∀ item ∈ (note.declaredTags ++ note.inlineTags).map ('#' :: ·),
        (!item.isEmpty) = true := List.forall_mem_map.mpr fun _ _ => rfl
    rwa [List.filter_eq_self.mpr hsign, ← htext (distinct _)] at hfirst
  have hlinks := firstOccurrences_distinct
    ((plainLines note.body.toList).flatMap fun line => (linkTargets line.2).map trim)
  refine ⟨⟨_, note.mentionsTags, htags⟩, fun tag htag => ?_, ⟨_, note.mentionsLinks, ?_⟩⟩
  · obtain ⟨name, hname, heq⟩ := List.mem_map.mp (htags.mem (List.mem_map_of_mem htag))
    obtain ⟨c, cs, rfl, hc⟩ := note.mentionsTags.exists_cons hname
    exact ⟨c, cs, heq.symm, hc⟩
  · rwa [outlinks, htext]

/-- A line with tags and links that come twice. -/
example : (ofBody "n.md" "#a, #b (#A [[x#y|z]] [[ X ]] [[]]").tags = ["#a", "#b"] ∧
    (ofBody "n.md" "#a, #b (#A [[x#y|z]] [[ X ]] [[]]").outlinks = ["x"] := by
  decide +kernel

end Note

end Notebook
