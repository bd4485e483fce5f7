import Mathlib.Data.List.Forall2
import Notebook.Execution.Source
import Notebook.Proofs.Markdown.Recased
import Notebook.Proofs.Note.Mentions
import Notebook.Proofs.Text.Repeated

/-!
# Looking for a link in another case

Whether a note links to a target is decided without regard to case: both the target and the links of
the note are compared in lower case. But the ending of a Markdown file is taken off both beforehand,
and there it is `.md` in small letters only. So an ending with a capital letter stays, and the same
target with a small ending is another one.

Two targets that differ in the case of letters alone have the same notes exactly when the same is
left of both without their endings, or when no link can have such a target
(`Notebook.Query.Source.has_link_iff`). It is the same with the links of a note: notes with letters
in another case link to the same exactly when the same is left of each link, or another link stands
in for it (`Notebook.Note.linksTo_eq_iff_forall₂`).
-/

namespace Notebook

open Text Unicode

namespace Note

variable {l l' t u s : List Char} {c : Char}

/-! ### Targets -/

/-- That **the same is left** of two targets without the endings of Markdown files. -/
def SameStem (s t : List Char) : Prop :=
  (dropEndRepeated ['.', 'm', 'd'] s).length = (dropEndRepeated ['.', 'm', 'd'] t).length

instance (s t : List Char) : Decidable (SameStem s t) := inferInstanceAs (Decidable (_ = _))

theorem SameStem.refl (s : List Char) : SameStem s s := rfl

/-- The beginnings of texts that differ in the case of letters alone do so too. -/
theorem asciiLowercase_of_isPrefix {before before' : List Char} (hs : before <+: s)
    (ht : before' <+: t) (hlength : before.length = before'.length)
    (h : asciiLowercase s = asciiLowercase t) : asciiLowercase before = asciiLowercase before' := by
  obtain ⟨rest, rfl⟩ := hs
  obtain ⟨rest', rfl⟩ := ht
  rw [asciiLowercase, asciiLowercase, List.map_append, List.map_append] at h
  exact (List.append_inj h (by rw [List.length_map, List.length_map, hlength])).1

/-- **Targets of which the same is left** are one target. -/
theorem plainTarget_congr (h : asciiLowercase s = asciiLowercase t) (hstem : SameStem s t) :
    plainTarget s = plainTarget t :=
  lowercase_congr (asciiLowercase_of_isPrefix (isPrefix_dropEndRepeated _ s)
    (isPrefix_dropEndRepeated _ t) hstem h)

theorem length_plainTarget_lt (h : asciiLowercase s = asciiLowercase t)
    (hlt : (dropEndRepeated ['.', 'm', 'd'] s).length <
      (dropEndRepeated ['.', 'm', 'd'] t).length) :
    (plainTarget s).length < (plainTarget t).length := by
  have hs := isPrefix_dropEndRepeated ['.', 'm', 'd'] s
  have ht := isPrefix_dropEndRepeated ['.', 'm', 'd'] t
  unfold plainTarget
  generalize dropEndRepeated ['.', 'm', 'd'] s = stem at hs hlt
  generalize dropEndRepeated ['.', 'm', 'd'] t = stem' at ht hlt
  have hsame : asciiLowercase stem = asciiLowercase (stem'.take stem.length) := by
    refine asciiLowercase_of_isPrefix hs ((List.take_prefix _ _).trans ht) ?_ h
    rw [List.length_take]
    omega
  rw [lowercase_congr hsame]
  refine length_lowercase_lt (List.take_prefix _ _) fun heq => ?_
  have hlength := congrArg List.length heq
  rw [List.length_take] at hlength
  omega

theorem plainTarget_ne (h : asciiLowercase s = asciiLowercase t) (hstem : ¬SameStem s t) :
    plainTarget s ≠ plainTarget t := by
  intro heq
  have hlength := congrArg List.length heq
  rcases Nat.lt_or_gt_of_ne hstem with hlt | hlt
  · exact absurd hlength (Nat.ne_of_lt (length_plainTarget_lt h hlt))
  · exact absurd hlength.symm (Nat.ne_of_lt (length_plainTarget_lt h.symm hlt))

/-- A character of the first 128 that is no letter and no dot is in a target when it is in what the
target comes to. -/
theorem mem_plainTarget_iff (hascii : isAscii c = true) (hletter : c.isAlpha = false)
    (hdot : c ≠ '.') : c ∈ plainTarget s ↔ c ∈ s := by
  have hmark : c ∉ ['.', 'm', 'd'] := by
    rintro hmem
    simp only [List.mem_cons, List.not_mem_nil, or_false] at hmem
    rcases hmem with rfl | rfl | rfl
    · exact hdot rfl
    · cases hletter
    · cases hletter
  rw [plainTarget, mem_lowercase_iff hascii hletter, mem_dropEndRepeated_iff hmark]

/-! ### The last segment -/

theorem splitLast?_eq_none_iff : splitLast? c s = none ↔ c ∉ s := by
  fun_induction splitLast? c s with
  | case1 => simp
  | case2 d rest before after hrest ih =>
    have hmem : c ∈ rest := by
      by_contra hnot
      cases hrest.symm.trans (ih.mpr hnot)
    simp [hmem]
  | case3 rest hrest ih => simp
  | case4 d rest hrest hd ih => simp [Ne.symm hd, ih.mp hrest]

theorem splitLast?_eq_some {before after : List Char}
    (h : splitLast? c s = some (before, after)) : s = before ++ c :: after ∧ c ∉ after := by
  fun_induction splitLast? c s generalizing before with
  | case1 => cases h
  | case2 d rest before' after' hrest ih =>
    cases h
    obtain ⟨heq, hnot⟩ := ih hrest
    exact ⟨by rw [heq, List.cons_append], hnot⟩
  | case3 rest hrest ih =>
    cases h
    exact ⟨rfl, splitLast?_eq_none_iff.mp hrest⟩
  | case4 d rest hrest hd ih => cases h

/-- The last segment has no separator in it. -/
theorem not_mem_afterLast (c : Char) (s : List Char) : c ∉ afterLast c s := by
  unfold afterLast
  split
  · next before after h => exact (splitLast?_eq_some h).2
  · next h => exact splitLast?_eq_none_iff.mp h

theorem isSuffix_afterLast (c : Char) (s : List Char) : afterLast c s <:+ s := by
  unfold afterLast
  split
  · next before after h =>
    rw [(splitLast?_eq_some h).1]
    exact (List.suffix_cons c after).trans (List.suffix_append before _)
  · exact List.suffix_rfl

theorem afterLast_of_not_mem (h : c ∉ s) : afterLast c s = s := by
  rw [afterLast, splitLast?_eq_none_iff.mpr h]

/-! ### What answers a target -/

/-- Whether a link **answers** a target: it is the target, or ends in it after a slash. -/
def answers (target link : List Char) : Bool :=
  plainTarget link == plainTarget target || afterLast '/' (plainTarget link) == plainTarget target

theorem answers_congr (ht : asciiLowercase t = asciiLowercase u) (htstem : SameStem t u)
    (hl : asciiLowercase l = asciiLowercase l') (hlstem : SameStem l l') :
    answers t l = answers u l' := by
  rw [answers, answers, plainTarget_congr ht htstem, plainTarget_congr hl hlstem]

theorem answers_self (t : List Char) : answers t t = true := by
  rw [answers, beq_self_eq_true, Bool.true_or]

/-- What answers a link answers the targets that the link answers. -/
theorem answers_trans (h : answers t l = true) (hl : answers l l' = true) :
    answers t l' = true := by
  rw [answers, Bool.or_eq_true, beq_iff_eq, beq_iff_eq] at h hl ⊢
  rcases hl with heq | heq
  · rwa [heq]
  · -- a last segment has no other last segment than itself
    have hself := afterLast_of_not_mem (heq ▸ not_mem_afterLast '/' (plainTarget l'))
    rw [hself, or_self] at h
    exact .inr (heq.trans h)

/-- **A target in another case does not answer the target** when not the same is left of both. -/
theorem not_answers (h : asciiLowercase t = asciiLowercase u) (hstem : ¬SameStem t u) :
    answers u t = false := by
  have hne := plainTarget_ne h hstem
  rw [answers, beq_false_of_ne hne, Bool.false_or]
  refine beq_false_of_ne fun hafter => ?_
  by_cases hslash : '/' ∈ t
  · -- the last segment has no slash, and the other target has one
    have hslash : '/' ∈ plainTarget u := by
      rw [mem_plainTarget_iff (by decide) (by decide) (by decide)]
      rwa [← mem_asciiLowercase_iff (by decide), ← h, mem_asciiLowercase_iff (by decide)]
    exact not_mem_afterLast '/' (plainTarget t) (hafter ▸ hslash)
  · have hslash : '/' ∉ plainTarget t := by
      rwa [mem_plainTarget_iff (by decide) (by decide) (by decide)]
    exact hne ((afterLast_of_not_mem hslash).symm.trans hafter)

/-- What answers a target has every character of it that is no letter and no dot. -/
theorem mem_of_answers (h : answers t l = true) (hascii : isAscii c = true)
    (hletter : c.isAlpha = false) (hdot : c ≠ '.') (hc : c ∈ t) : c ∈ l := by
  rw [← mem_plainTarget_iff hascii hletter hdot] at hc ⊢
  rw [answers, Bool.or_eq_true, beq_iff_eq, beq_iff_eq] at h
  rcases h with heq | heq
  · rwa [heq]
  · rw [← heq] at hc
    exact (isSuffix_afterLast '/' _).mem hc

/-! ### The links of a body -/

/-- The targets of the links in a body. -/
def bodyLinks (body : List Char) : List (List Char) :=
  distinct ((Markdown.plainLines body).flatMap fun line => (Markdown.linkTargets line.2).map trim)

theorem outlinks_eq (note : Note) :
    note.outlinks = (bodyLinks note.body.toList).map String.ofList :=
  rfl

/-- A note links to what one of its links answers. -/
theorem linksTo_eq (note : Note) (target : String) :
    note.linksTo target = (bodyLinks note.body.toList).any (answers (trim target.toList)) := by
  unfold linksTo
  dsimp only
  rw [outlinks_eq, List.any_map]
  simp only [Function.comp_def, String.toList_ofList]
  rfl

theorem pushNew_asciiLowercase (items : List (List Char)) (item : List Char) :
    pushNew (items.map asciiLowercase) (asciiLowercase item) =
      (pushNew items item).map asciiLowercase := by
  have hany : (items.map asciiLowercase).any (equalIgnoringAsciiCase · (asciiLowercase item)) =
      items.any (equalIgnoringAsciiCase · item) := by
    rw [List.any_map]
    simp only [Function.comp_def, equalIgnoringAsciiCase, asciiLowercase_asciiLowercase]
  have hempty : (asciiLowercase item).isEmpty = item.isEmpty := List.isEmpty_map
  rw [pushNew, pushNew, hany, hempty]
  split
  · rfl
  · rw [List.map_append, List.map_singleton]

theorem distinct_asciiLowercase (items : List (List Char)) :
    distinct (items.map asciiLowercase) = (distinct items).map asciiLowercase := by
  have hfold : ∀ acc : List (List Char),
      (items.map asciiLowercase).foldl pushNew (acc.map asciiLowercase) =
        (items.foldl pushNew acc).map asciiLowercase := by
    induction items with
    | nil => exact fun _ => rfl
    | cons item items ih =>
      intro acc
      rw [List.map_cons, List.foldl_cons, List.foldl_cons, pushNew_asciiLowercase, ih]
  exact hfold []

/-- **The links of a body in small letters** are its links in small letters. -/
theorem bodyLinks_asciiLowercase (body : List Char) :
    bodyLinks (asciiLowercase body) = (bodyLinks body).map asciiLowercase := by
  unfold bodyLinks
  rw [Markdown.plainLines_asciiLowercase, ← distinct_asciiLowercase, List.flatMap_map,
    List.map_flatMap]
  simp only [Markdown.linkTargets_asciiLowercase, List.map_map, Function.comp_def,
    Markdown.trim_asciiLowercase]

/-! ### What a link can have for its target -/

/-- That a text **can be the target of a link**: it is on one line, and no character in it ends a
target. -/
def IsLinkTarget (t : List Char) : Prop :=
  t.all (fun c => Markdown.inTarget c && c != '\n') = true

instance (t : List Char) : Decidable (IsLinkTarget t) := inferInstanceAs (Decidable (_ = _))

theorem isLinkTarget_iff : IsLinkTarget t ↔ ∀ c ∈ t, Markdown.inTarget c = true ∧ c ≠ '\n' := by
  simp only [IsLinkTarget, List.all_eq_true, Bool.and_eq_true, bne_iff_ne]

theorem isLinkTarget_congr (h : asciiLowercase t = asciiLowercase u) :
    IsLinkTarget t ↔ IsLinkTarget u := by
  have hletters : ∀ c : Char, c.isAlpha = true → (Markdown.inTarget c && c != '\n') = true := by
    intro c hc
    have hne : ∀ d : Char, d.isAlpha = false → c ≠ d := by
      rintro d hd rfl
      cases hc.symm.trans hd
    simp [Markdown.inTarget, hne ']' rfl, hne '|' rfl, hne '#' rfl, hne '\n' rfl]
  rw [IsLinkTarget, IsLinkTarget, all_congr hletters h]

theorem isLinkTarget_of_mem_bodyLinks {body : List Char} (h : l ∈ bodyLinks body) :
    IsLinkTarget l := by
  obtain ⟨entry, hentry, hl⟩ :=
    List.mem_flatMap.mp (List.mem_of_mem_filter ((firstOccurrences_distinct _).mem h))
  obtain ⟨target, htarget, rfl⟩ := List.mem_map.mp hl
  refine isLinkTarget_iff.mpr fun c hc => ?_
  have hc : c ∈ target := (isInfix_trim target).mem hc
  obtain ⟨hin, hline⟩ := Markdown.forall_mem_linkTargets target htarget c hc
  refine ⟨hin, ?_⟩
  rintro rfl
  exact not_mem_of_mem_lines (Markdown.mem_lines_of_mem_plainLines hentry) hline

/-- **Nothing answers what is no target.** -/
theorem linksTo_of_not_isLinkTarget {target : String} (h : ¬IsLinkTarget (trim target.toList))
    (note : Note) : note.linksTo target = false := by
  rw [linksTo_eq, List.any_eq_false]
  intro l hl hanswers
  refine h (isLinkTarget_iff.mpr fun c hc => ?_)
  by_contra hends
  -- a character that ends a target is in the link too, where none is
  have hmem : c ∈ [']', '|', '#', '\n'] := by
    by_contra hnot
    simp only [List.mem_cons, List.not_mem_nil, or_false, not_or] at hnot
    exact hends (by simp [Markdown.inTarget, hnot])
  have hkept : ∀ d ∈ [']', '|', '#', '\n'], isAscii d = true ∧ d.isAlpha = false ∧ d ≠ '.' := by
    simp only [List.mem_cons, List.not_mem_nil, or_false, forall_eq_or_imp, forall_eq]
    decide
  obtain ⟨hascii, hletter, hdot⟩ := hkept c hmem
  exact hends (isLinkTarget_iff.mp (isLinkTarget_of_mem_bodyLinks hl) c
    (mem_of_answers hanswers hascii hletter hdot hc))

/-- A body that is one link has this link alone. -/
theorem bodyLinks_of_link (htarget : IsLinkTarget t) (hne : t ≠ []) (htrim : trim t = t) :
    bodyLinks ('[' :: '[' :: (t ++ [']', ']'])) = [t] := by
  have hchars := isLinkTarget_iff.mp htarget
  have hfeed : '\n' ∉ '[' :: '[' :: (t ++ [']', ']']) := by
    have hnot : '\n' ∉ t := fun hmem => (hchars _ hmem).2 rfl
    simp [hnot]
  have hlines : lines ('[' :: '[' :: (t ++ [']', ']'])) = ['[' :: '[' :: (t ++ [']', ']'])] :=
    lines_of_not_mem hfeed
  have hfence : Markdown.fence? ('[' :: '[' :: (t ++ [']', ']'])) = none := by
    simp [Markdown.fence?]
  have hlink := Markdown.linkTarget?_of_forall (fun c hc => (hchars c hc).1) hne []
  have hnone : Markdown.linkTargets [] = [] := by
    unfold Markdown.linkTargets
    rfl
  rw [bodyLinks, Markdown.plainLines_of_lines hlines hfence, List.flatMap_singleton,
    Markdown.linkTargets_of_link hlink, hnone, List.map_singleton, htrim]
  simp [distinct, pushNew, hne]

/-! ### Notes in another case -/

/-- That a note is another one **with letters in another case**: their bodies differ in the case of
letters alone, and the same is left of each link. -/
structure Recased (note other : Note) : Prop where
  /-- The bodies differ in the case of letters alone. -/
  body : equalIgnoringAsciiCase note.body.toList other.body.toList = true
  /-- The same is left of each link. -/
  links : List.Forall₂ (fun l l' => SameStem l.toList l'.toList) note.outlinks other.outlinks

theorem Recased.refl (note : Note) : note.Recased note where
  body := equalIgnoringAsciiCase_iff.mpr rfl
  links := List.forall₂_same.mpr fun _ _ => .refl _

variable {note other : Note} {link target : String}

theorem linksTo_iff : note.linksTo target = true ↔
    ∃ link ∈ note.outlinks, answers (trim target.toList) link.toList = true := by
  simp only [linksTo_eq, outlinks_eq, List.any_eq_true, List.mem_map, exists_exists_and_eq_and,
    String.toList_ofList]

theorem trim_of_mem_outlinks (h : link ∈ note.outlinks) : trim link.toList = link.toList := by
  rw [outlinks_eq] at h
  obtain ⟨l, hl, rfl⟩ := List.mem_map.mp h
  obtain ⟨entry, -, htargets⟩ :=
    List.mem_flatMap.mp (List.mem_of_mem_filter ((firstOccurrences_distinct _).mem hl))
  obtain ⟨target, -, rfl⟩ := List.mem_map.mp htargets
  rw [String.toList_ofList, trim_trim]

/-- A note links to its links, also with letters in another case if the same is left of them. -/
theorem linksTo_of_mem_outlinks (h : link ∈ note.outlinks)
    (hlower : asciiLowercase (trim target.toList) = asciiLowercase link.toList)
    (hstem : SameStem (trim target.toList) link.toList) : note.linksTo target = true := by
  refine linksTo_iff.mpr ⟨link, h, ?_⟩
  rw [answers_congr hlower hstem rfl rfl, answers_self]

theorem linksTo_outlink (h : link ∈ note.outlinks) : note.linksTo link = true := by
  have htrim := trim_of_mem_outlinks h
  exact linksTo_of_mem_outlinks h (congrArg asciiLowercase htrim) (by rw [htrim]; exact .refl _)

/-- A note that links to all links of another one links to what that one links to. -/
theorem linksTo_of_forall_mem_outlinks (h : ∀ link ∈ note.outlinks, other.linksTo link = true)
    (htarget : note.linksTo target = true) : other.linksTo target = true := by
  obtain ⟨link, hlink, hanswers⟩ := linksTo_iff.mp htarget
  obtain ⟨link', hlink', hanswers'⟩ := linksTo_iff.mp (h link hlink)
  rw [trim_of_mem_outlinks hlink] at hanswers'
  exact linksTo_iff.mpr ⟨link', hlink', answers_trans hanswers hanswers'⟩

/-- **Two notes link to the same** exactly when each of them links to all links of the other. -/
theorem linksTo_eq_iff : (∀ target, note.linksTo target = other.linksTo target) ↔
    (∀ link ∈ note.outlinks, other.linksTo link = true) ∧
      ∀ link ∈ other.outlinks, note.linksTo link = true := by
  constructor
  · intro h
    refine ⟨fun link hlink => ?_, fun link hlink => ?_⟩
    · rw [← h, linksTo_outlink hlink]
    · rw [h, linksTo_outlink hlink]
  · rintro ⟨hforth, hback⟩ target
    exact Bool.eq_iff_iff.mpr ⟨linksTo_of_forall_mem_outlinks hforth,
      linksTo_of_forall_mem_outlinks hback⟩

/-- The links of two bodies that differ in the case of letters alone do so too. -/
theorem forall₂_outlinks (h : equalIgnoringAsciiCase note.body.toList other.body.toList = true) :
    List.Forall₂ (fun l l' => asciiLowercase l.toList = asciiLowercase l'.toList) note.outlinks
      other.outlinks := by
  have hsame : (bodyLinks note.body.toList).map asciiLowercase =
      (bodyLinks other.body.toList).map asciiLowercase := by
    rw [← bodyLinks_asciiLowercase, ← bodyLinks_asciiLowercase, equalIgnoringAsciiCase_iff.mp h]
  rw [← List.forall₂_eq_eq_eq, List.forall₂_map_left_iff, List.forall₂_map_right_iff] at hsame
  rw [outlinks_eq, outlinks_eq, List.forall₂_map_left_iff, List.forall₂_map_right_iff]
  simpa only [String.toList_ofList] using hsame

/-- **Notes with letters in another case link to the same** exactly when the same is left of each
link, or else both notes have links that answer it as it is in the other one. -/
theorem linksTo_eq_iff_forall₂
    (h : equalIgnoringAsciiCase note.body.toList other.body.toList = true) :
    (∀ target, note.linksTo target = other.linksTo target) ↔
      List.Forall₂ (fun l l' => SameStem l.toList l'.toList ∨
        other.linksTo l = true ∧ note.linksTo l' = true) note.outlinks other.outlinks := by
  have hlower := List.forall₂_iff_zip.mp (forall₂_outlinks h)
  rw [linksTo_eq_iff, List.forall₂_iff_zip]
  constructor
  · rintro ⟨hforth, hback⟩
    refine ⟨hlower.1, fun hpair => .inr ⟨hforth _ ?_, hback _ ?_⟩⟩
    · exact (List.of_mem_zip hpair).1
    · exact (List.of_mem_zip hpair).2
  · rintro ⟨-, hlinks⟩
    have hstands : ∀ l l', (l, l') ∈ note.outlinks.zip other.outlinks →
        other.linksTo l = true ∧ note.linksTo l' = true := by
      intro l l' hpair
      rcases hlinks hpair with hstem | hstands
      · have hsame := hlower.2 hpair
        obtain ⟨hl, hl'⟩ := List.of_mem_zip hpair
        constructor
        · refine linksTo_of_mem_outlinks hl' ?_ ?_ <;> rwa [trim_of_mem_outlinks hl]
        · refine linksTo_of_mem_outlinks hl ?_ ?_ <;> rw [trim_of_mem_outlinks hl']
          · exact hsame.symm
          · exact hstem.symm
      · exact hstands
    constructor
    · intro link hlink
      rw [← List.map_fst_zip hlower.1.le] at hlink
      obtain ⟨pair, hpair, rfl⟩ := List.mem_map.mp hlink
      exact (hstands _ _ hpair).1
    · intro link hlink
      rw [← List.map_snd_zip hlower.1.ge] at hlink
      obtain ⟨pair, hpair, rfl⟩ := List.mem_map.mp hlink
      exact (hstands _ _ hpair).2

example (target : String) : (Note.ofBody "n.md" "[[a.md]] [[b/a]] [[c/a.MD]]").linksTo target =
    (Note.ofBody "n.md" "[[a.MD]] [[b/a]] [[c/a.MD]]").linksTo target :=
  (linksTo_eq_iff_forall₂ (by decide +kernel)).mpr (by decide +kernel) target

theorem Recased.linksTo (h : note.Recased other) {target' : String}
    (htarget : asciiLowercase target.toList = asciiLowercase target'.toList)
    (hstem : SameStem (trim target.toList) (trim target'.toList)) :
    note.linksTo target = other.linksTo target' := by
  have htrim : asciiLowercase (trim target.toList) = asciiLowercase (trim target'.toList) := by
    rw [← Markdown.trim_asciiLowercase, ← Markdown.trim_asciiLowercase, htarget]
  rw [(linksTo_eq_iff_forall₂ h.body).mpr (h.links.imp fun _ _ => .inl) target, linksTo_eq,
    linksTo_eq]
  exact congrArg (List.any _) (funext fun l => answers_congr htrim hstem rfl rfl)

end Note

namespace Query.Source

open Note

/-- **Targets that differ in the case of letters alone have the same notes**, also when letters of
the notes are in another case, exactly when the same is left of both without the endings of Markdown
files, or no link can have them for its target. -/
theorem has_link_iff {t u : String} (h : equalIgnoringAsciiCase t.toList u.toList = true) :
    (∀ note other : Note, note.Recased other →
        (Source.link t).has note = (Source.link u).has other) ↔
      SameStem (trim t.toList) (trim u.toList) ∨ ¬IsLinkTarget (trim t.toList) := by
  have hlower := equalIgnoringAsciiCase_iff.mp h
  have htrim : asciiLowercase (trim t.toList) = asciiLowercase (trim u.toList) := by
    rw [← Markdown.trim_asciiLowercase, ← Markdown.trim_asciiLowercase, hlower]
  constructor
  · intro hall
    by_contra hnot
    obtain ⟨hstem, htarget⟩ := not_or.mp hnot
    rw [not_not] at htarget
    have hne : trim t.toList ≠ [] := by
      intro hnil
      rw [hnil] at hstem htrim
      exact hstem (by rw [List.map_eq_nil_iff.mp htrim.symm, SameStem])
    -- the note whose body is a link to the one target has no link to the other one
    let note : Note := Note.ofBody "" (String.ofList ('[' :: '[' :: (trim t.toList ++ [']', ']'])))
    have hlinks : bodyLinks note.body.toList = [trim t.toList] := by
      change bodyLinks (String.ofList _).toList = _
      rw [String.toList_ofList, bodyLinks_of_link htarget hne (trim_trim _)]
    have hsame := hall note note (.refl note)
    change note.linksTo t = note.linksTo u at hsame
    rw [linksTo_eq, linksTo_eq, hlinks, List.any_cons, List.any_cons, answers_self,
      not_answers htrim hstem] at hsame
    cases hsame
  · rintro (hstem | htarget) note other hrecased
    · exact hrecased.linksTo hlower hstem
    · have hother : ¬IsLinkTarget (trim u.toList) := mt (isLinkTarget_congr htrim).mpr htarget
      exact (linksTo_of_not_isLinkTarget htarget note).trans
        (linksTo_of_not_isLinkTarget hother other).symm

/-- Notes and targets with capital letters before the ending. -/
theorem has_link_iff_of_capitals :
    equalIgnoringAsciiCase "Note.md".toList "NOTE.md".toList = true ∧
      (Note.ofBody "n.md" "[[note]]").Recased (Note.ofBody "n.md" "[[NOTE]]") ∧
      (Source.link "Note.md").has (Note.ofBody "n.md" "[[note]]") = true ∧
      (Source.link "NOTE.md").has (Note.ofBody "n.md" "[[NOTE]]") = true := by
  have hsame : equalIgnoringAsciiCase "Note.md".toList "NOTE.md".toList = true := by
    decide +kernel
  have hrecased : (Note.ofBody "n.md" "[[note]]").Recased (Note.ofBody "n.md" "[[NOTE]]") :=
    ⟨by decide +kernel, by decide +kernel⟩
  have hhas : (Source.link "Note.md").has (Note.ofBody "n.md" "[[note]]") = true := by
    decide +kernel
  refine ⟨hsame, hrecased, hhas, ?_⟩
  rw [← (has_link_iff hsame).mpr (.inl (by decide +kernel)) _ _ hrecased]
  exact hhas

/-- **An ending with a capital letter stays**: in the target, and in a link of the note. -/
theorem not_has_link_of_capitalEnding :
    equalIgnoringAsciiCase "a.md".toList "a.MD".toList = true ∧
      (Source.link "a.md").has (Note.ofBody "n.md" "[[a]]") = true ∧
      (Source.link "a.MD").has (Note.ofBody "n.md" "[[a]]") = false ∧
      (Source.link "a").has (Note.ofBody "n.md" "[[a.md]]") = true ∧
      (Source.link "a").has (Note.ofBody "n.md" "[[a.MD]]") = false := by
  decide +kernel

end Query.Source

end Notebook
