import Notebook.Note.Basic
import Notebook.Proofs.Block.Detection
import Notebook.Proofs.Markdown.LineEnds
import Notebook.Proofs.Markdown.Opacity
import Notebook.Proofs.Text.Lines
import Notebook.Task.Basic

/-!
# Fenced code says nothing about a note

A line inside of fenced code can be replaced by any other line that does not close the region, and
the tags, the links and the tasks of the note stay as they are; so do its query blocks, unless the
region is one of them. All four are read off the passages of the body, and these are alike before
and after (`Notebook.Note.passages_fill_alike`). The result is `Notebook.Note.fill_inside`.
-/

namespace Notebook

open Markdown Text

namespace Block

/-- Passages that are alike for a fence that names no query language have the same queries. -/
theorem flatMap_queriesIn_of_alike {c : Configuration} {fence : Fence} {ps qs : List Passage}
    (hfence : ¬NamesQueries c fence.info) (h : List.Forall₂ (Alike fence) ps qs) :
    ps.flatMap (queriesIn c) = qs.flatMap (queriesIn c) := by
  induction h with
  | nil => rfl
  | cons hpq _ ih =>
    rw [List.flatMap_cons, List.flatMap_cons, ih]
    rcases hpq with _ | ⟨ha, hb⟩
    · rfl
    · rw [queriesIn, queriesIn, ha, hb, if_neg hfence, if_neg hfence]

end Block

namespace Note

/-- **The passages are alike** whatever line is inside of a region, as long as it does not close
it. -/
theorem passages_fill_alike {slot : Slot} {line other : List Char} {region : Region}
    (hline : '\n' ∉ line) (hother : '\n' ∉ other)
    (hregion : .code region ∈ passages (lines (slot.fill line).toList))
    (hfirst : region.first < slot.number)
    (hinside : slot.number ≤ region.first + region.inside.length)
    (hopen : region.fence.closedBy other = false) :
    List.Forall₂ (Alike region.fence) (passages (lines (slot.fill line).toList))
      (passages (lines (slot.fill other).toList)) := by
  rw [slot.number_eq] at hfirst hinside
  rw [slot.lines_fill, passages] at hregion
  obtain ⟨hafter, first, rest, htail, hstays⟩ := openAfter_of_inside List.drop_zero hregion
    (by omega) (by omega)
  rw [slot.lines_fill, slot.lines_fill, passages, passages]
  refine passagesFrom_alike List.drop_zero List.drop_zero hafter fun n hall hothers => ?_
  -- in the last slot of a text a line can be missing, and then there is none to compare
  rcases slot.linesFrom_cases hline hother with ⟨rest', hfrom, hfrom'⟩ | ⟨honly, honly'⟩
  · have hclosed : region.fence.closedBy (dropCarriageReturn line) = false := by
      rw [(List.cons.inj (hfrom.symm.trans htail)).1]
      exact hstays
    rw [← region.fence.closedBy_dropCarriageReturn] at hopen
    generalize slot.linesFrom line = tail at hfrom hall ⊢
    generalize slot.linesFrom other = tail' at hfrom' hothers ⊢
    subst hfrom hfrom'
    exact passagesFrom_inside hclosed hopen hall hothers
  · have hclosed : region.fence.closedBy line = false := by
      rw [← honly first (htail ▸ List.mem_cons_self ..)]
      exact hstays
    rw [passagesFrom_of_forall fun l hl => (congrArg _ (honly l hl)).trans hclosed,
      passagesFrom_of_forall fun l hl => (congrArg _ (honly' l hl)).trans hopen]

/-- **Fenced code says nothing about a note.** Where a line of the body stands inside of a region,
after its fence and not the one that closes it, any other single line can stand that does not close
the region: the tags, the links and the tasks are the same, and so are the query blocks under every
configuration for which the region is none of them. -/
theorem fill_inside {note : Note} {slot : Slot} {line other : List Char} {region : Region}
    (hbody : note.body = slot.fill line) (hline : '\n' ∉ line) (hother : '\n' ∉ other)
    (hregion : .code region ∈ passages (lines note.body.toList))
    (hfirst : region.first < slot.number)
    (hinside : slot.number ≤ region.first + region.inside.length)
    (hopen : region.fence.closedBy other = false) :
    let changed := { note with body := slot.fill other }
    changed.tags = note.tags ∧ changed.outlinks = note.outlinks ∧
      (∀ path, Task.extract path changed.body = Task.extract path note.body) ∧
      ∀ c, ¬Block.NamesQueries c region.fence.info →
        (Block.Detector.ofConfiguration c).detect changed.body =
          (Block.Detector.ofConfiguration c).detect note.body := by
  intro changed
  rw [hbody] at hregion
  have halike := passages_fill_alike hline hother hregion hfirst hinside hopen
  have hplain : plainLines changed.body.toList = plainLines note.body.toList := by
    rw [plainLines_eq_passages, plainLines_eq_passages, hbody]
    exact (filterMap_line?_of_alike halike).symm
  refine ⟨?_, ?_, fun path => ?_, fun c hc => ?_⟩
  · rw [tags, tags, inlineTags, inlineTags, hplain]
    rfl
  · rw [outlinks, outlinks, hplain]
  · rw [Task.extract, Task.extract, hplain]
  · rw [Block.detect_eq_named, Block.detect_eq_named, hbody,
      Block.flatMap_queriesIn_of_alike hc halike]

/-- A slot inside of a region that nothing closes, with a shorter fence after it. -/
def unclosedSlot : Slot where
  before := "#a\n~~~~ js\n".toList
  after := "\n~~~\n- [ ] b".toList
  before_ends := by decide
  after_starts := by decide

theorem fill_inside_unclosedSlot :
    let note := Note.ofBody "c.md" (unclosedSlot.fill "```".toList)
    let changed := { note with body := unclosedSlot.fill "~~~~~ #d [[e]]".toList }
    let region : Region := ⟨⟨'~', 4, "js".toList⟩, 2, 5,
      ["```".toList, "~~~".toList, "- [ ] b".toList]⟩
    .code region ∈ passages (lines note.body.toList) ∧ unclosedSlot.number = 3 ∧
      region.fence.closedBy "~~~~~ #d [[e]]".toList = false ∧
      changed.tags = note.tags ∧ changed.outlinks = note.outlinks ∧
      (∀ path, Task.extract path changed.body = Task.extract path note.body) ∧
      ∀ c, ¬Block.NamesQueries c region.fence.info →
        (Block.Detector.ofConfiguration c).detect changed.body =
          (Block.Detector.ofConfiguration c).detect note.body := by
  intro note changed region
  have hregion : .code region ∈ passages (lines note.body.toList) := by decide +kernel
  have hopen : region.fence.closedBy "~~~~~ #d [[e]]".toList = false := by decide +kernel
  exact ⟨hregion, by decide +kernel, hopen, fill_inside rfl (by decide) (by decide) hregion
    (by decide +kernel) (by decide +kernel) hopen⟩

end Note

end Notebook
