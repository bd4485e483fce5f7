import Notebook.Proofs.Markdown.Links
import Notebook.Proofs.Text.Trim

/-!
# Searching a line

Tags and links are searched for from left to right, and what is found is passed over before the
next one is looked for. `Notebook.Markdown.Finds` says what such a search finds, for any shape that
is searched for: at each turn the match that starts first, and in the end nothing any more. Where a
shape can be at the start of a text in one way only, the search has one outcome
(`Notebook.Markdown.Finds.unique`).

The shapes are written here as one would describe them, and not as they are taken apart: a link is
a target with perhaps a heading and a label between brackets (`Notebook.Markdown.IsLink`), a tag is
a number sign and the longest name after it (`Notebook.Markdown.IsTag`).

| search | what it finds | theorem |
|---|---|---|
| `Notebook.Markdown.linkTargets` | links | `Notebook.Markdown.finds_linkTargets` |
| `Notebook.Markdown.tagsAfter` | led tags | `Notebook.Markdown.finds_tagsAfter` |
| `Notebook.Markdown.tagNames` | tags of a line | `Notebook.Markdown.tagsOn_tagNames` |
-/

namespace Notebook.Markdown

open Text

/-! ### Searches -/

section Searches

variable {Match : List Char → List Char → List Char → Prop}
variable {s found after : List Char} {others names : List (List Char)}

/-- **What a search finds** in a text, from left to right. That `Match cs found after` says that
there is a match at the start of `cs`, what is found by it, and which text comes after it. -/
inductive Finds (Match : List Char → List Char → List Char → Prop) :
    List Char → List (List Char) → Prop
  /-- There is no match anywhere. -/
  | nothing {s : List Char} (hnone : ∀ rest, rest <:+ s → ∀ found after, ¬Match rest found after) :
    Finds Match s []
  /-- There is a match and none that starts before it; the search goes on after it. -/
  | first {s before rest found after : List Char} {others : List (List Char)}
    (hs : s = before ++ rest) (hmatch : Match rest found after)
    (hfirst : ∀ later, later <:+ before → later ≠ [] →
      ∀ found after, ¬Match (later ++ rest) found after)
    (hothers : Finds Match after others) : Finds Match s (found :: others)

namespace Finds

theorem here (hmatch : Match s found after) (hothers : Finds Match after others) :
    Finds Match s (found :: others) :=
  .first (show s = [] ++ s from rfl) hmatch
    (fun _ hlater hne => absurd (List.suffix_nil.mp hlater) hne) hothers

/-- A character without a match is passed over. -/
theorem cons {c : Char} (hnone : ∀ found after, ¬Match (c :: s) found after)
    (h : Finds Match s names) : Finds Match (c :: s) names := by
  cases h with
  | nothing hrest =>
    refine .nothing fun rest hsuffix => ?_
    rcases List.suffix_cons_iff.mp hsuffix with rfl | hsuffix
    · exact hnone
    · exact hrest rest hsuffix
  | @first _ before rest found after others hs hmatch hfirst hothers =>
    have hsplit : c :: s = (c :: before) ++ rest := by rw [hs, List.cons_append]
    refine .first hsplit hmatch ?_ hothers
    intro later hsuffix hne
    rcases List.suffix_cons_iff.mp hsuffix with rfl | hsuffix
    · rw [List.cons_append, ← hs]
      exact hnone
    · exact hfirst later hsuffix hne

/-- What is found is found by a match. -/
theorem exists_match (h : Finds Match s names) (hfound : found ∈ names) :
    ∃ cs after, Match cs found after := by
  induction h with
  | nothing => cases hfound
  | first hs hmatch _ _ ih =>
    rcases List.mem_cons.mp hfound with rfl | hfound
    · exact ⟨_, _, hmatch⟩
    · exact ih hfound

/-- **A search has one outcome**, where there is one match at most at the start of each text. -/
theorem unique {names' : List (List Char)} (h : Finds Match s names) (h' : Finds Match s names')
    (hunique : ∀ cs found after found' after', Match cs found after → Match cs found' after' →
      found = found' ∧ after = after') : names = names' := by
  induction h generalizing names' with
  | nothing hnone =>
    cases h' with
    | nothing => rfl
    | first hs hmatch => exact absurd hmatch (hnone _ ⟨_, hs.symm⟩ _ _)
  | @first s before rest found after others hs hmatch hfirst _ ih =>
    cases h' with
    | nothing hnone => exact absurd hmatch (hnone _ ⟨_, hs.symm⟩ _ _)
    | @first _ before' rest' found' after' others' hs' hmatch' hfirst' hothers' =>
      -- neither of the two matches starts before the other one
      have hrest : rest = rest' := by
        rcases List.append_eq_append_iff.mp (hs.symm.trans hs') with
          ⟨between, hbefore, hrest⟩ | ⟨between, hbefore, hrest⟩
        · by_cases hne : between = []
          · rw [hrest, hne, List.nil_append]
          · exact absurd (hrest ▸ hmatch) (hfirst' between ⟨before, hbefore.symm⟩ hne _ _)
        · by_cases hne : between = []
          · rw [hrest, hne, List.nil_append]
          · exact absurd (hrest ▸ hmatch') (hfirst between ⟨before', hbefore.symm⟩ hne _ _)
      obtain ⟨rfl, rfl⟩ := hunique _ _ _ _ _ hmatch (hrest ▸ hmatch')
      rw [ih hothers']

end Finds

end Searches

/-! ### Links -/

section Links

variable {cs target after rest part : List Char} {mark : Char} {inPart : Char → Bool}

/-- A part of a link that may be missing: a mark, and text in which some characters cannot be. -/
def IsPart (mark : Char) (inPart : Char → Bool) (part : List Char) : Prop :=
  part = [] ∨ ∃ text, part = mark :: text ∧ ∀ c ∈ text, inPart c = true

/-- Whether a character may be part of the heading in a link. -/
def inHeading (c : Char) : Bool := !(c == ']' || c == '|')

/-- Whether a character may be part of the label of a link. -/
def inLabel (c : Char) : Bool := c != ']'

/-- **A link at the start of a text**: a target between brackets, with perhaps a heading and a label
after it. -/
def IsLink (cs target after : List Char) : Prop :=
  ∃ heading label, cs = '[' :: '[' :: (target ++ (heading ++ (label ++ ']' :: ']' :: after))) ∧
    target ≠ [] ∧ (∀ c ∈ target, inTarget c = true) ∧ IsPart '#' inHeading heading ∧
    IsPart '|' inLabel label

/-- That a function **drops a part** at the start of a text, if the part is there. -/
structure DropsPart (mark : Char) (inPart : Char → Bool) (drop : List Char → List Char) : Prop where
  /-- The empty text has no part to drop. -/
  nil : drop [] = []
  /-- A part starts with its mark and is as long as can be. -/
  cons : ∀ c cs, drop (c :: cs) = if c = mark then cs.dropWhile inPart else c :: cs

theorem dropsPart_heading : DropsPart '#' inHeading dropHeading := ⟨rfl, dropHeading_cons⟩

theorem dropsPart_label : DropsPart '|' inLabel dropLabel := ⟨rfl, dropLabel_cons⟩

namespace DropsPart

variable {drop : List Char → List Char}

/-- What is dropped is a part. -/
theorem exists_part (h : DropsPart mark inPart drop) (cs : List Char) :
    ∃ part, cs = part ++ drop cs ∧ IsPart mark inPart part := by
  cases cs with
  | nil => exact ⟨[], h.nil.symm, .inl rfl⟩
  | cons c cs =>
    rw [h.cons]
    split
    · next hc =>
      subst hc
      exact ⟨_, congrArg (c :: ·) List.takeWhile_append_dropWhile.symm,
        .inr ⟨_, rfl, List.all_eq_true.mp List.all_takeWhile⟩⟩
    · exact ⟨[], rfl, .inl rfl⟩

/-- A part is dropped up to what neither is in it nor starts it. -/
theorem append (h : DropsPart mark inPart drop) (hpart : IsPart mark inPart part)
    (hrest : rest.head?.any (fun c => inPart c || c == mark) = false) :
    drop (part ++ rest) = rest := by
  rcases hpart with rfl | ⟨text, rfl, htext⟩
  · cases rest with
    | nil => exact h.nil
    | cons c rest =>
      have hmark : ¬c = mark := by
        rintro rfl
        simp at hrest
      rw [List.nil_append, h.cons, if_neg hmark]
  · have hend : rest.head?.any inPart = false := by
      cases rest with
      | nil => rfl
      | cons c rest => exact (Bool.or_eq_false_iff.mp hrest).1
    rw [List.cons_append, h.cons, if_pos rfl, (takeWhile_append_of_head htext hend).2]

end DropsPart

/-- **Links are recognised by their shape.** -/
theorem isLink_iff : IsLink cs target after ↔
    ∃ inner, cs = '[' :: '[' :: inner ∧ linkTarget? inner = some (target, after) := by
  constructor
  · rintro ⟨heading, label, rfl, hne, htarget, hheading, hlabel⟩
    refine ⟨_, rfl, linkTarget?_eq_some_iff.mpr ?_⟩
    -- each part ends before the first character that cannot be in it
    have hclose : (label ++ ']' :: ']' :: after).head?.any (fun c => inHeading c || c == '#') =
        false := by
      rcases hlabel with rfl | ⟨text, rfl, -⟩ <;> rfl
    have hend : (heading ++ (label ++ ']' :: ']' :: after)).head?.any inTarget = false := by
      rcases hheading with rfl | ⟨text, rfl, -⟩
      · rcases hlabel with rfl | ⟨text, rfl, -⟩ <;> rfl
      · rfl
    obtain ⟨htake, hdrop⟩ := takeWhile_append_of_head htarget hend
    refine ⟨?_, htake, hne⟩
    rw [hdrop, dropsPart_heading.append hheading hclose, dropsPart_label.append hlabel rfl]
  · rintro ⟨inner, rfl, hlink⟩
    obtain ⟨hclose, rfl, hne⟩ := linkTarget?_eq_some_iff.mp hlink
    obtain ⟨heading, hsplit, hheading⟩ := dropsPart_heading.exists_part (inner.dropWhile inTarget)
    obtain ⟨label, hsplit', hlabel⟩ :=
      dropsPart_label.exists_part (dropHeading (inner.dropWhile inTarget))
    refine ⟨heading, label, ?_, hne, List.all_eq_true.mp List.all_takeWhile, hheading, hlabel⟩
    rw [← hclose, ← hsplit', ← hsplit, List.takeWhile_append_dropWhile]

theorem IsLink.unique {target' after' : List Char} (h : IsLink cs target after)
    (h' : IsLink cs target' after') : target = target' ∧ after = after' := by
  obtain ⟨inner, rfl, hlink⟩ := isLink_iff.mp h
  obtain ⟨inner', heq, hlink'⟩ := isLink_iff.mp h'
  obtain rfl : inner = inner' := by simpa using heq
  exact Prod.mk.inj (Option.some.inj (hlink.symm.trans hlink'))

/-- **The links of a line** are what the search for links finds. -/
theorem finds_linkTargets (cs : List Char) : Finds IsLink cs (linkTargets cs) := by
  fun_induction linkTargets cs with
  | case1 =>
    refine .nothing fun rest hsuffix target after hlink => ?_
    obtain ⟨inner, rfl, -⟩ := isLink_iff.mp hlink
    cases List.suffix_nil.mp hsuffix
  | case2 c rest target after h ih =>
    split at h
    · next inner => exact .here (isLink_iff.mpr ⟨inner, rfl, h⟩) ih
    · cases h
  | case3 c rest h ih =>
    refine .cons (fun target after hlink => ?_) ih
    obtain ⟨inner, heq, hsome⟩ := isLink_iff.mp hlink
    obtain ⟨rfl, rfl⟩ := List.cons.inj heq
    cases h.symm.trans hsome

end Links

/-! ### Tags -/

section Tags

variable {leads : Char → Bool} {cs name after : List Char} {names : List (List Char)}

/-- **A tag at the start of a text**: a number sign and a name, which ends before something that
could continue it. -/
def IsTag (cs name after : List Char) : Prop :=
  cs = '#' :: (name ++ after) ∧
    (∃ first others, name = first :: others ∧ startsTag first = true ∧
      ∀ c ∈ others, continuesTag c = true) ∧
    after.head?.any continuesTag = false

/-- A tag after a character that may lead it. -/
def IsLedTag (leads : Char → Bool) (cs name after : List Char) : Prop :=
  ∃ c rest, cs = c :: rest ∧ leads c = true ∧ IsTag rest name after

/-- **The tags on a line**: the search starts with a tag at the start of the line, if there is
one. -/
inductive TagsOn (leads : Char → Bool) (line : List Char) : List (List Char) → Prop
  /-- There is a tag at the start of the line. -/
  | atStart {name after : List Char} {others : List (List Char)} (hname : IsTag line name after)
    (hothers : Finds (IsLedTag leads) after others) : TagsOn leads line (name :: others)
  /-- There is none at the start of the line. -/
  | later {names : List (List Char)} (hstart : ∀ name after, ¬IsTag line name after)
    (hnames : Finds (IsLedTag leads) line names) : TagsOn leads line names

/-- What is on a line as a tag is the name of a tag. -/
theorem TagsOn.exists_isTag (h : TagsOn leads cs names) (hname : name ∈ names) :
    ∃ text after, IsTag text name after := by
  have hled : ∀ {s : List Char} {others : List (List Char)}, Finds (IsLedTag leads) s others →
      name ∈ others → ∃ text after, IsTag text name after := fun hothers hname => by
    obtain ⟨_, after, -, rest, -, -, htag⟩ := hothers.exists_match hname
    exact ⟨rest, after, htag⟩
  cases h with
  | atStart hfirst hothers =>
    rcases List.mem_cons.mp hname with rfl | hname
    · exact ⟨_, _, hfirst⟩
    · exact hled hothers hname
  | later _ hnames => exact hled hnames hname

/-- **Tags are recognised by their shape.** -/
theorem isTag_iff : IsTag cs name after ↔ tagAt? cs = some (name, after) := by
  constructor
  · rintro ⟨rfl, ⟨first, others, rfl, hfirst, hothers⟩, hend⟩
    obtain ⟨htake, hdrop⟩ := takeWhile_append_of_head hothers hend
    simp only [List.cons_append, tagAt?, if_pos hfirst, htake, hdrop]
  · intro h
    unfold tagAt? at h
    split at h
    · next first rest =>
      obtain ⟨hfirst, h⟩ := Option.ite_none_right_eq_some.mp h
      obtain ⟨rfl, rfl⟩ := Prod.mk.inj (Option.some.inj h)
      refine ⟨?_, ⟨first, _, rfl, hfirst, List.all_eq_true.mp List.all_takeWhile⟩,
        head?_dropWhile_any continuesTag rest⟩
      rw [List.cons_append, List.takeWhile_append_dropWhile]
    · cases h

theorem IsTag.unique {name' after' : List Char} (h : IsTag cs name after)
    (h' : IsTag cs name' after') : name = name' ∧ after = after' :=
  Prod.mk.inj (Option.some.inj ((isTag_iff.mp h).symm.trans (isTag_iff.mp h')))

theorem IsLedTag.unique {name' after' : List Char} (h : IsLedTag leads cs name after)
    (h' : IsLedTag leads cs name' after') : name = name' ∧ after = after' := by
  obtain ⟨c, rest, rfl, -, htag⟩ := h
  obtain ⟨c', rest', heq, -, htag'⟩ := h'
  obtain ⟨-, rfl⟩ := List.cons.inj heq
  exact htag.unique htag'

theorem TagsOn.unique {names' : List (List Char)} (h : TagsOn leads cs names)
    (h' : TagsOn leads cs names') : names = names' := by
  cases h with
  | atStart hname hothers =>
    cases h' with
    | atStart hname' hothers' =>
      obtain ⟨rfl, rfl⟩ := hname.unique hname'
      rw [hothers.unique hothers' fun _ _ _ _ _ => IsLedTag.unique]
    | later hstart => exact absurd hname (hstart _ _)
  | later hstart hnames =>
    cases h' with
    | atStart hname => exact absurd hname (hstart _ _)
    | later _ hnames' => exact hnames.unique hnames' fun _ _ _ _ _ => IsLedTag.unique

theorem finds_tagsAfter (leads : Char → Bool) (cs : List Char) :
    Finds (IsLedTag leads) cs (tagsAfter leads cs) := by
  fun_induction tagsAfter leads cs with
  | case1 =>
    refine .nothing fun rest hsuffix name after hled => ?_
    obtain ⟨c, rest, rfl, -⟩ := hled
    cases List.suffix_nil.mp hsuffix
  | case2 c rest name after h ih =>
    obtain ⟨hleads, htag⟩ := Option.ite_none_right_eq_some.mp h
    exact .here ⟨c, rest, rfl, hleads, isTag_iff.mpr htag⟩ ih
  | case3 c rest h ih =>
    refine .cons (fun name after hled => ?_) ih
    obtain ⟨c', rest', heq, hleads, htag⟩ := hled
    obtain ⟨rfl, rfl⟩ := List.cons.inj heq
    rw [dif_pos hleads, isTag_iff.mp htag] at h
    cases h

/-- **The tags of a line** are those on it. -/
theorem tagsOn_tagNames (leads : Char → Bool) (line : List Char) :
    TagsOn leads line (tagNames leads line) := by
  unfold tagNames
  split
  · next name after h => exact .atStart (isTag_iff.mpr h) (finds_tagsAfter leads after)
  · next h =>
    refine .later (fun name after htag => ?_) (finds_tagsAfter leads line)
    cases h.symm.trans (isTag_iff.mp htag)

end Tags

end Notebook.Markdown
