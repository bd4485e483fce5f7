import Notebook.Proofs.Markdown.Links
import Notebook.Proofs.Markdown.Places
import Notebook.Proofs.Text.Lines
import Notebook.Proofs.Unicode.Lowercase

/-!
# Markdown in small letters

Nothing that gives a body its shape is a letter: line ends, fences and the brackets of links are
read in the same way when the letters `A` to `Z` are written small. So a body in small letters has
the same plain lines in small letters (`Notebook.Markdown.plainLines_asciiLowercase`), and on them
the same links (`Notebook.Markdown.linkTargets_asciiLowercase`).
-/

namespace Notebook.Markdown

open Text Unicode

/-! ### Runs of a class -/

theorem takeWhile_asciiLowercase {p : Char → Bool} (hp : ∀ c : Char, p c.toLower = p c)
    (cs : List Char) : (asciiLowercase cs).takeWhile p = asciiLowercase (cs.takeWhile p) := by
  rw [asciiLowercase, List.takeWhile_map, (funext hp : p ∘ Char.toLower = p)]
  rfl

theorem dropWhile_asciiLowercase {p : Char → Bool} (hp : ∀ c : Char, p c.toLower = p c)
    (cs : List Char) : (asciiLowercase cs).dropWhile p = asciiLowercase (cs.dropWhile p) := by
  rw [asciiLowercase, List.dropWhile_map, (funext hp : p ∘ Char.toLower = p)]
  rfl

/-- A single character that is no letter. -/
theorem beq_toLower {d : Char} (hd : d.isAlpha = false) (c : Char) :
    (c.toLower == d) = (c == d) :=
  Bool.eq_iff_iff.mpr (by rw [beq_iff_eq, beq_iff_eq, toLower_eq_iff hd])

theorem trim_asciiLowercase (cs : List Char) :
    trim (asciiLowercase cs) = asciiLowercase (trim cs) :=
  trim_map (class_toLower fun _ => not_isWhiteSpace_of_isAlpha) cs

/-! ### Fences -/

/-- A fence with its info string in small letters. -/
def Fence.small (fence : Fence) : Fence := { fence with info := asciiLowercase fence.info }

theorem fence?_asciiLowercase (line : List Char) :
    fence? (asciiLowercase line) = (fence? line).map Fence.small := by
  have hindent : ((asciiLowercase line).takeWhile (· == ' ')).length =
      (line.takeWhile (· == ' ')).length := by
    rw [takeWhile_asciiLowercase (beq_toLower (by decide)), asciiLowercase, List.length_map]
  have hdrop (n : Nat) (cs : List Char) : (asciiLowercase cs).drop n = asciiLowercase (cs.drop n) :=
    List.map_drop.symm
  unfold fence?
  dsimp only
  rw [hindent, hdrop]
  cases line.drop (line.takeWhile (· == ' ')).length with
  | nil => rfl
  | cons mark rest =>
    have hcons : asciiLowercase (mark :: rest) = mark.toLower :: asciiLowercase rest := rfl
    by_cases hmark : mark = '`' ∨ mark = '~'
    · have hletter : mark.isAlpha = false := by
        rcases hmark with rfl | rfl <;> rfl
      have hself : asciiLowercase (mark :: rest) = mark :: asciiLowercase rest := by
        rw [hcons, (toLower_eq_iff hletter).mpr rfl]
      have hrun := takeWhile_asciiLowercase (p := (· == mark)) (beq_toLower hletter) (mark :: rest)
      have hlength : (asciiLowercase ((mark :: rest).takeWhile (· == mark))).length =
          ((mark :: rest).takeWhile (· == mark)).length := List.length_map _
      rw [hself] at hrun ⊢
      dsimp only
      rw [hrun, hlength, ← hself, hdrop, trim_asciiLowercase]
      generalize trim ((mark :: rest).drop ((mark :: rest).takeWhile (· == mark)).length) = info
      have hcontains : (asciiLowercase info).contains '`' = info.contains '`' := by
        rw [Bool.eq_iff_iff, List.contains_iff_mem, List.contains_iff_mem]
        exact mem_asciiLowercase_iff (by decide)
      rw [hcontains]
      split <;> rfl
    · have hlower : ¬(mark.toLower = '`' ∨ mark.toLower = '~') := by
        rwa [toLower_eq_iff (by decide), toLower_eq_iff (by decide)]
      rw [hcons]
      simp [hmark, hlower]

/-! ### Places of lines -/

theorem Fence.closedBy_asciiLowercase (fence : Fence) (line : List Char) :
    fence.small.closedBy (asciiLowercase line) = fence.closedBy line := by
  rw [closedBy, closedBy, fence?_asciiLowercase]
  cases fence? line with
  | none => rfl
  | some f =>
    have hempty : (asciiLowercase f.info).isEmpty = f.info.isEmpty := List.isEmpty_map
    exact congrArg (f.mark == fence.mark && decide (fence.length ≤ f.length) && ·) hempty

theorem placeLine_asciiLowercase (region : Option Fence) (line : List Char) :
    placeLine (region.map Fence.small) (asciiLowercase line) =
      ((placeLine region line).1, (placeLine region line).2.map Fence.small) := by
  cases region with
  | some fence =>
    dsimp only [placeLine, Option.map_some]
    rw [Fence.closedBy_asciiLowercase]
    split <;> rfl
  | none =>
    dsimp only [placeLine, Option.map_none]
    rw [fence?_asciiLowercase]
    cases fence? line <;> rfl

theorem placeLines_asciiLowercase (number : Nat) (region : Option Fence)
    (lines : List (List Char)) :
    placeLines number (region.map Fence.small) (lines.map asciiLowercase) =
      (placeLines number region lines).map fun entry =>
        (entry.1, entry.2.1, asciiLowercase entry.2.2) := by
  induction lines generalizing number region with
  | nil => rfl
  | cons line lines ih =>
    rw [List.map_cons, placeLines, placeLines, placeLine_asciiLowercase]
    exact congrArg (_ :: ·) (ih _ _)

/-- **The plain lines in small letters** are those of the body. -/
theorem plainLines_asciiLowercase (body : List Char) : plainLines (asciiLowercase body) =
    (plainLines body).map fun entry => (entry.1, asciiLowercase entry.2) := by
  have hlines : lines (asciiLowercase body) = (lines body).map asciiLowercase :=
    lines_map (fun _ => toLower_eq_iff (by decide)) (fun _ => toLower_eq_iff (by decide)) body
  have hplaces := placeLines_asciiLowercase 1 none (lines body)
  rw [Option.map_none] at hplaces
  unfold plainLines
  rw [hlines, hplaces, List.filterMap_map, List.map_filterMap]
  refine List.filterMap_congr fun entry _ => ?_
  obtain ⟨number, place, line⟩ := entry
  dsimp only [Function.comp]
  split <;> rfl

/-! ### Links -/

theorem inTarget_toLower (c : Char) : inTarget c.toLower = inTarget c := by
  simp only [inTarget, beq_toLower (show (']' : Char).isAlpha = false by decide),
    beq_toLower (show ('|' : Char).isAlpha = false by decide),
    beq_toLower (show ('#' : Char).isAlpha = false by decide)]

theorem dropHeading_asciiLowercase (cs : List Char) :
    dropHeading (asciiLowercase cs) = asciiLowercase (dropHeading cs) := by
  rcases cs with _ | ⟨c, cs⟩
  · rfl
  have hcons : asciiLowercase (c :: cs) = c.toLower :: asciiLowercase cs := rfl
  have hsign : c.toLower = '#' ↔ c = '#' := toLower_eq_iff (by decide)
  have hdrop := dropWhile_asciiLowercase (p := fun d => !(d == ']' || d == '|'))
    (fun d => by rw [beq_toLower (by decide), beq_toLower (by decide)]) cs
  rw [hcons, dropHeading_cons, dropHeading_cons]
  simp only [hsign, hdrop]
  split <;> rfl

theorem dropLabel_asciiLowercase (cs : List Char) :
    dropLabel (asciiLowercase cs) = asciiLowercase (dropLabel cs) := by
  rcases cs with _ | ⟨c, cs⟩
  · rfl
  have hcons : asciiLowercase (c :: cs) = c.toLower :: asciiLowercase cs := rfl
  have hbar : c.toLower = '|' ↔ c = '|' := toLower_eq_iff (by decide)
  have hdrop := dropWhile_asciiLowercase (p := (· != ']'))
    (fun d => congrArg not (beq_toLower (by decide) d)) cs
  rw [hcons, dropLabel_cons, dropLabel_cons]
  simp only [hbar, hdrop]
  split <;> rfl

theorem linkTarget?_asciiLowercase_of_some {cs target after : List Char}
    (h : linkTarget? cs = some (target, after)) :
    linkTarget? (asciiLowercase cs) = some (asciiLowercase target, asciiLowercase after) := by
  obtain ⟨hrest, htarget, hne⟩ := linkTarget?_eq_some_iff.mp h
  refine linkTarget?_eq_some_iff.mpr ⟨?_, ?_, ?_⟩
  · rw [dropWhile_asciiLowercase inTarget_toLower, dropHeading_asciiLowercase,
      dropLabel_asciiLowercase, hrest]
    rfl
  · rw [takeWhile_asciiLowercase inTarget_toLower, htarget]
  · exact mt List.map_eq_nil_iff.mp hne

theorem linkTarget?_of_asciiLowercase {cs : List Char} (h : linkTarget? cs = none) :
    linkTarget? (asciiLowercase cs) = none := by
  rw [Option.eq_none_iff_forall_ne_some]
  rintro ⟨target, after⟩ hsome
  obtain ⟨hrest, htarget, hne⟩ := linkTarget?_eq_some_iff.mp hsome
  rw [dropWhile_asciiLowercase inTarget_toLower, dropHeading_asciiLowercase,
    dropLabel_asciiLowercase] at hrest
  obtain ⟨c, rest, hcs, hc, hrest⟩ := List.map_eq_cons_iff.mp hrest
  obtain ⟨d, rest, rfl, hd, hrest⟩ := List.map_eq_cons_iff.mp hrest
  obtain rfl := (toLower_eq_iff (by decide)).mp hc
  obtain rfl := (toLower_eq_iff (by decide)).mp hd
  rw [takeWhile_asciiLowercase inTarget_toLower] at htarget
  have hsome : cs.takeWhile inTarget ≠ [] := by
    intro hnil
    rw [hnil] at htarget
    exact hne htarget.symm
  cases h.symm.trans (linkTarget?_eq_some_iff.mpr ⟨hcs, rfl, hsome⟩)

/-- **The links in small letters** are those of the line. -/
theorem linkTargets_asciiLowercase (cs : List Char) :
    linkTargets (asciiLowercase cs) = (linkTargets cs).map asciiLowercase := by
  fun_induction linkTargets cs with
  | case1 =>
    rw [asciiLowercase, List.map_nil, List.map_nil]
    unfold linkTargets
    rfl
  | case2 c rest target after h ih =>
    split at h
    · next inner =>
      exact (linkTargets_of_link (linkTarget?_asciiLowercase_of_some h)).trans
        (congrArg (asciiLowercase target :: ·) ih)
    · cases h
  | case3 c rest h ih =>
    refine (linkTargets_of_no_link fun inner hinner => ?_).trans ih
    obtain ⟨hc, hrest⟩ := List.cons.inj hinner
    obtain ⟨d, rest, rfl, hd, rfl⟩ := List.map_eq_cons_iff.mp hrest
    obtain rfl := (toLower_eq_iff (by decide)).mp hc
    obtain rfl := (toLower_eq_iff (by decide)).mp hd
    exact linkTarget?_of_asciiLowercase h

end Notebook.Markdown
