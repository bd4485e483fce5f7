import Mathlib.Data.List.Infix
import Notebook.Markdown.Inline

/-!
# Links on a line

A link says its target when nothing but a heading and a label is between the target and the closing
brackets (`Notebook.Markdown.linkTarget?_eq_some_iff`), and a line has the links that start at one
of its opening brackets, from left to right. A target is a part of the line without the characters
that end a target (`Notebook.Markdown.forall_mem_linkTargets`).
-/

namespace Notebook.Markdown

theorem dropHeading_cons (c : Char) (cs : List Char) : dropHeading (c :: cs) =
    if c = '#' then cs.dropWhile fun d => !(d == ']' || d == '|') else c :: cs := by
  unfold dropHeading
  split <;> simp_all

theorem dropLabel_cons (c : Char) (cs : List Char) : dropLabel (c :: cs) =
    if c = '|' then cs.dropWhile (· != ']') else c :: cs := by
  unfold dropLabel
  split <;> simp_all

theorem isSuffix_dropHeading (cs : List Char) : dropHeading cs <:+ cs := by
  rcases cs with _ | ⟨c, cs⟩
  · exact List.suffix_rfl
  · rw [dropHeading_cons]
    split
    · exact (List.dropWhile_suffix _).trans (List.suffix_cons c cs)
    · exact List.suffix_rfl

theorem isSuffix_dropLabel (cs : List Char) : dropLabel cs <:+ cs := by
  rcases cs with _ | ⟨c, cs⟩
  · exact List.suffix_rfl
  · rw [dropLabel_cons]
    split
    · exact (List.dropWhile_suffix _).trans (List.suffix_cons c cs)
    · exact List.suffix_rfl

/-- **What a link says** once its brackets have been opened. -/
theorem linkTarget?_eq_some_iff {cs target after : List Char} :
    linkTarget? cs = some (target, after) ↔
      dropLabel (dropHeading (cs.dropWhile inTarget)) = ']' :: ']' :: after ∧
        cs.takeWhile inTarget = target ∧ target ≠ [] := by
  unfold linkTarget?
  split
  · next rest hrest =>
    dsimp only
    rw [hrest, Option.ite_none_left_eq_some, List.isEmpty_iff, Option.some.injEq, Prod.mk.injEq,
      List.cons.injEq, List.cons.injEq]
    constructor
    · rintro ⟨hne, rfl, rfl⟩
      exact ⟨⟨rfl, rfl, rfl⟩, rfl, hne⟩
    · rintro ⟨⟨-, -, rfl⟩, rfl, hne⟩
      exact ⟨hne, rfl, rfl⟩
  · next hnone => exact ⟨nofun, fun h => absurd h.1 (hnone after)⟩

/-- A link whose target is a text without the characters that end one. -/
theorem linkTarget?_of_forall {target : List Char} (htarget : ∀ c ∈ target, inTarget c = true)
    (hne : target ≠ []) (after : List Char) :
    linkTarget? (target ++ ']' :: ']' :: after) = some (target, after) := by
  refine linkTarget?_eq_some_iff.mpr ⟨?_, ?_, hne⟩
  · rw [List.dropWhile_append_of_pos htarget]
    rfl
  · rw [List.takeWhile_append_of_pos htarget]
    exact List.append_nil target

theorem isSuffix_of_linkTarget? {cs target after : List Char}
    (h : linkTarget? cs = some (target, after)) : after <:+ cs := by
  obtain ⟨hrest, -, -⟩ := linkTarget?_eq_some_iff.mp h
  calc after <:+ ']' :: ']' :: after := List.suffix_append [']', ']'] after
    _ = dropLabel (dropHeading (cs.dropWhile inTarget)) := hrest.symm
    _ <:+ dropHeading (cs.dropWhile inTarget) := isSuffix_dropLabel _
    _ <:+ cs.dropWhile inTarget := isSuffix_dropHeading _
    _ <:+ cs := List.dropWhile_suffix _

theorem linkTargets_of_link {inner target after : List Char}
    (h : linkTarget? inner = some (target, after)) :
    linkTargets ('[' :: '[' :: inner) = target :: linkTargets after := by
  conv => lhs; unfold linkTargets
  split
  · next found =>
    obtain ⟨rfl, rfl⟩ := Prod.mk.inj (Option.some.inj (h.symm.trans found))
    rfl
  · next hnone => cases h.symm.trans hnone

theorem linkTargets_of_no_link {c : Char} {rest : List Char}
    (h : ∀ inner, c :: rest = '[' :: '[' :: inner → linkTarget? inner = none) :
    linkTargets (c :: rest) = linkTargets rest := by
  conv => lhs; unfold linkTargets
  split
  · next found =>
    split at found
    · next inner => cases (h inner rfl).symm.trans found
    · cases found
  · rfl

/-- **The target of a link** is a part of the line, and no character in it ends a target. -/
theorem forall_mem_linkTargets {cs : List Char} :
    ∀ target ∈ linkTargets cs, ∀ c ∈ target, inTarget c = true ∧ c ∈ cs := by
  fun_induction linkTargets cs with
  | case1 => nofun
  | case2 c rest target after h ih =>
    split at h
    · next inner =>
      have hinner : ∀ d ∈ inner, d ∈ '[' :: '[' :: inner := fun d hd => by simp [hd]
      rw [List.forall_mem_cons]
      refine ⟨fun d hd => ?_, fun other hother d hd => ?_⟩
      · obtain ⟨-, rfl, -⟩ := linkTarget?_eq_some_iff.mp h
        exact ⟨List.all_eq_true.mp List.all_takeWhile d hd,
          hinner d ((List.takeWhile_prefix _).mem hd)⟩
      · obtain ⟨hin, hd⟩ := ih other hother d hd
        exact ⟨hin, hinner d ((isSuffix_of_linkTarget? h).mem hd)⟩
    · cases h
  | case3 c rest h ih =>
    intro target htarget d hd
    exact (ih target htarget d hd).imp id (List.mem_cons_of_mem c)

end Notebook.Markdown
