import Mathlib.Data.List.Basic
import Notebook.Proofs.Block.Detection
import Notebook.Proofs.Markdown.LineEnds
import Notebook.Proofs.Markdown.Opacity

/-!
# Documents that go on

What the detector finds in a document when more text comes after it. From one line to the next the
detector remembers nothing but the region that is open (`Notebook.Block.regionAfter`), so the blocks
that end on the lines of the document are found all the same, whatever follows
(`Notebook.Block.scan_append`). That the end of the document is trimmed first makes no difference to
them: the white space that goes is at the ends of lines, where it has no part in what a line is.

What is left is the region that the document leaves open. Text that does not close it goes inside
it, so a query in it becomes another one. This is the only way in which a document that goes on
loses a block (`Notebook.Block.scan_prefix_iff`).
-/

namespace Notebook.Block

open Markdown Text

/-! ### Line by line -/

section Scan

variable {detector : Detector} {number : Nat} {region : Option OpenRegion} {line : List Char}
  {lines before after : List (List Char)}

/-- The region that is open after a line. -/
def regionAfterLine (number : Nat) (region : Option OpenRegion) (line : List Char) :
    Option OpenRegion :=
  match region with
  | some region =>
    if region.fence.closedBy line then none
    else some { region with inside := line :: region.inside }
  | none => (fence? line).map (⟨·, number, []⟩)

/-- The blocks that end on a line. -/
def Detector.endingOn (detector : Detector) (number : Nat) (region : Option OpenRegion)
    (line : List Char) : List Found :=
  match region with
  | some region => if region.fence.closedBy line then detector.fencedBlock region number else []
  | none => if (fence? line).isSome then [] else detector.inlineOn number line

/-- **The region that is open after some lines.** -/
def regionAfter (number : Nat) (region : Option OpenRegion) : List (List Char) → Option OpenRegion
  | [] => region
  | line :: lines => regionAfter (number + 1) (regionAfterLine number region line) lines

/-- **The blocks that end on some lines.** -/
def Detector.ended (detector : Detector) (number : Nat) (region : Option OpenRegion) :
    List (List Char) → List Found
  | [] => []
  | line :: lines =>
    detector.endingOn number region line ++
      detector.ended (number + 1) (regionAfterLine number region line) lines

theorem scan_nil :
    detector.scan number region [] =
      region.toList.flatMap (detector.fencedBlock · (number - 1)) := by
  cases region with
  | none => rfl
  | some region => exact (List.append_nil _).symm

/-- One step of the scan. -/
theorem scan_cons :
    detector.scan number region (line :: lines) =
      detector.endingOn number region line ++
        detector.scan (number + 1) (regionAfterLine number region line) lines := by
  cases region with
  | some region =>
    rw [Detector.scan, Detector.endingOn, regionAfterLine]
    split <;> rfl
  | none =>
    rw [Detector.scan, Detector.endingOn, regionAfterLine]
    cases fence? line <;> rfl

/-- **The blocks that end on the lines before** are found whatever comes after. -/
theorem scan_append :
    detector.scan number region (before ++ after) =
      detector.ended number region before ++
        detector.scan (number + before.length) (regionAfter number region before) after := by
  induction before generalizing number region with
  | nil => rfl
  | cons line before ih =>
    rw [List.cons_append, scan_cons, ih, Detector.ended, regionAfter, List.append_assoc,
      List.length_cons, Nat.add_assoc, Nat.add_comm 1]

/-- All that a scan finds. -/
theorem scan_eq_ended :
    detector.scan number region lines =
      detector.ended number region lines ++
        (regionAfter number region lines).toList.flatMap
          (detector.fencedBlock · (number + lines.length - 1)) := by
  have h : detector.scan number region (lines ++ []) = _ := scan_append
  rwa [List.append_nil, scan_nil] at h

theorem ended_append :
    detector.ended number region (before ++ after) =
      detector.ended number region before ++
        detector.ended (number + before.length) (regionAfter number region before) after := by
  induction before generalizing number region with
  | nil => rfl
  | cons line before ih =>
    rw [List.cons_append, Detector.ended, ih, Detector.ended, regionAfter, List.append_assoc,
      List.length_cons, Nat.add_assoc, Nat.add_comm 1]

theorem regionAfter_append :
    regionAfter number region (before ++ after) =
      regionAfter (number + before.length) (regionAfter number region before) after := by
  induction before generalizing number region with
  | nil => rfl
  | cons line before ih =>
    rw [List.cons_append, regionAfter, ih, regionAfter, List.length_cons, Nat.add_assoc,
      Nat.add_comm 1]

theorem map_fence_regionAfterLine :
    (regionAfterLine number region line).map OpenRegion.fence =
      (placeLine (region.map OpenRegion.fence) line).2 := by
  cases region with
  | some region =>
    simp only [regionAfterLine, placeLine, Option.map_some]
    split <;> rfl
  | none =>
    simp only [regionAfterLine, placeLine, Option.map_none]
    cases fence? line <;> rfl

/-- The detector has that fence open which the tracker of fenced code has. -/
theorem map_fence_regionAfter :
    (regionAfter number region lines).map OpenRegion.fence =
      openAfter (region.map OpenRegion.fence) lines := by
  induction lines generalizing number region with
  | nil => rfl
  | cons line lines ih => rw [regionAfter, ih, map_fence_regionAfterLine, openAfter_cons]

end Scan

/-! ### White space -/

section WhiteSpace

variable {detector : Detector} {number : Nat} {region : Option OpenRegion} {line last : List Char}
  {blanks : List (List Char)}

/-- White space at the end of a line has no part in what ends on the line. -/
theorem endingOn_congr (h : trimEnd last = trimEnd line) :
    detector.endingOn number region last = detector.endingOn number region line := by
  have hspans : codeSpans last = codeSpans line := by rw [← codeSpans_trimEnd, h, codeSpans_trimEnd]
  cases region with
  | some region => rw [Detector.endingOn, Fence.closedBy_congr h, Detector.endingOn]
  | none =>
    rw [Detector.endingOn, fence?_congr h, Detector.inlineOn, hspans, Detector.endingOn,
      Detector.inlineOn]

/-- A region but for white space: what is inside it without it. -/
def OpenRegion.inked (region : OpenRegion) : OpenRegion :=
  { region with inside := [ink region.inside.reverse.flatten] }

theorem fence_eq_of_inked {a b : OpenRegion} (h : a.inked = b.inked) : a.fence = b.fence :=
  (congrArg OpenRegion.fence h :)

theorem ink_inside_eq_of_inked {a b : OpenRegion} (h : a.inked = b.inked) :
    ink a.inside.reverse.flatten = ink b.inside.reverse.flatten :=
  List.head_eq_of_cons_eq (congrArg OpenRegion.inside h :)

/-- White space at the end of a line has no part in what is open after the line, but for white
space. -/
theorem inked_regionAfterLine_congr (h : trimEnd last = trimEnd line) :
    (regionAfterLine number region last).map OpenRegion.inked =
      (regionAfterLine number region line).map OpenRegion.inked := by
  have hink : ink last = ink line := by rw [← ink_trimEnd, h, ink_trimEnd]
  cases region with
  | none => rw [regionAfterLine, fence?_congr h, regionAfterLine]
  | some region =>
    rw [regionAfterLine, Fence.closedBy_congr h, regionAfterLine]
    split
    · rfl
    · simp [OpenRegion.inked, hink]

/-- Blank lines end nothing. -/
theorem ended_of_isBlank (h : ∀ line ∈ blanks, isBlank line = true) :
    detector.ended number region blanks = [] := by
  induction blanks generalizing number region with
  | nil => rfl
  | cons line blanks ih =>
    obtain ⟨hline, hblanks⟩ := List.forall_mem_cons.mp h
    have hspans : codeSpans line = [] :=
      codeSpans_of_not_mem fun hmem => absurd (isBlank_iff.mp hline '`' hmem) (by decide)
    have hending : detector.endingOn number region line = [] := by
      cases region with
      | some region =>
        rw [Detector.endingOn, Fence.closedBy_of_isBlank hline, if_neg Bool.false_ne_true]
      | none =>
        simp only [Detector.endingOn, fence?_of_isBlank hline, Detector.inlineOn, hspans]
        cases detector.mark <;> rfl
    rw [Detector.ended, hending, ih hblanks, List.append_nil]

/-- Blank lines are white space inside of the region that is open. -/
theorem inked_regionAfter_of_isBlank (h : ∀ line ∈ blanks, isBlank line = true) :
    (regionAfter number region blanks).map OpenRegion.inked = region.map OpenRegion.inked := by
  induction blanks generalizing number region with
  | nil => rfl
  | cons line blanks ih =>
    obtain ⟨hline, hblanks⟩ := List.forall_mem_cons.mp h
    rw [regionAfter, ih hblanks]
    cases region with
    | none => rw [regionAfterLine, fence?_of_isBlank hline, Option.map_none]
    | some region =>
      rw [regionAfterLine, Fence.closedBy_of_isBlank hline]
      simp [OpenRegion.inked, ink_of_isBlank hline]

/-- Nothing is found in white space. -/
theorem scan_of_isBlank {s : List Char} (hs : isBlank s = true) :
    detector.scan 1 none (lines s) = [] := by
  have hblanks : ∀ line ∈ lines s, isBlank line = true := fun line => isBlank_of_mem_lines hs
  have hregion : regionAfter 1 none (lines s) = none := by
    have hinked : (regionAfter 1 none (lines s)).map OpenRegion.inked = none :=
      inked_regionAfter_of_isBlank hblanks
    exact Option.map_eq_none_iff.mp hinked
  rw [scan_eq_ended, ended_of_isBlank hblanks, hregion]
  rfl

end WhiteSpace

/-! ### More text -/

section More

variable {s : List Char}

/-- **A document that goes on** after its end is trimmed. What ends in the document is found as
before; the two scans part with the region that the document leaves open, which is the same one but
for white space. -/
theorem exists_scan_trimEnd (detector : Detector) (hs : isBlank s = false) :
    ∃ (shared : List Found) (number last : Nat) (region region' : Option OpenRegion),
      region.map OpenRegion.fence = openAfter none (lines s) ∧
      region.map OpenRegion.inked = region'.map OpenRegion.inked ∧
      detector.scan 1 none (lines s) =
        shared ++ region.toList.flatMap (detector.fencedBlock · last) ∧
      ∀ rest, detector.scan 1 none (lines (trimEnd s ++ '\n' :: rest)) =
        shared ++ detector.scan number region' (lines rest) := by
  obtain ⟨before, final, line, blanks, hlines, hline, hblanks, hrest⟩ := exists_lines_trimEnd hs
  refine ⟨detector.ended 1 none before ++
      detector.endingOn (1 + before.length) (regionAfter 1 none before) line,
    1 + before.length + 1, 1 + (lines s).length - 1, regionAfter 1 none (lines s),
    regionAfterLine (1 + before.length) (regionAfter 1 none before) line,
    map_fence_regionAfter, ?_, ?_, fun rest => ?_⟩
  · rw [hlines, regionAfter_append, regionAfter, inked_regionAfter_of_isBlank hblanks,
      inked_regionAfterLine_congr hline]
  · have hended : detector.ended 1 none (lines s) = detector.ended 1 none before ++
        detector.endingOn (1 + before.length) (regionAfter 1 none before) line := by
      rw [hlines, ended_append, Detector.ended, ended_of_isBlank hblanks, List.append_nil,
        endingOn_congr hline]
    rw [scan_eq_ended, hended]
  · rw [hrest, scan_append, scan_cons, List.append_assoc]

/-- An open region takes in lines until one closes it. -/
theorem exists_scan_of_open (detector : Detector) (region : OpenRegion) (number : Nat)
    (lines : List (List Char)) :
    ∃ inside last later, detector.scan number (some region) lines =
      detector.fencedBlock { region with inside := inside ++ region.inside } last ++ later := by
  induction lines generalizing number region with
  | nil => exact ⟨[], number - 1, [], (List.append_nil _).symm⟩
  | cons line lines ih =>
    rw [Detector.scan]
    split
    · exact ⟨[], number, _, rfl⟩
    · obtain ⟨inside, last, later, heq⟩ :=
        ih { region with inside := line :: region.inside } (number + 1)
      exact ⟨inside ++ [line], last, later, by rw [heq, List.append_assoc]; rfl⟩

/-- A line that an open region takes in. -/
theorem scan_of_not_closedBy {detector : Detector} {region : OpenRegion} {number : Nat}
    {line : List Char} {lines : List (List Char)} (h : region.fence.closedBy line = false) :
    detector.scan number (some region) (line :: lines) =
      detector.scan (number + 1) (some { region with inside := line :: region.inside }) lines := by
  rw [Detector.scan, h, if_neg Bool.false_ne_true]

/-- The line of a rule. -/
def rule : List Char := ['-', '-', '-']

theorem closedBy_rule (fence : Fence) : fence.closedBy rule = false := by
  rw [Fence.closedBy, show fence? rule = none by decide]

/-- The block of a region that a document leaves open **becomes another one** when a rule comes
after the document: there is more in it to see. -/
theorem fencedBlock_ne_of_rule {a b : OpenRegion} {inside : List (List Char)} {last last' : Nat}
    (h : a.inked = b.inked) :
    (⟨.fenced, joinWith ['\n'] a.inside.reverse, a.startLine, last⟩ : Found) ≠
      ⟨.fenced, joinWith ['\n'] (inside ++ rule :: [] :: b.inside).reverse, b.startLine,
        last'⟩ := by
  intro heq
  have hlength := congrArg (fun found : Found => (ink found.source).length) heq
  have hink := congrArg List.length (ink_inside_eq_of_inked h)
  have hrule : (ink rule).length = 3 := by decide
  have hjoin (parts : List (List Char)) : ink (joinWith ['\n'] parts) = ink parts.flatten :=
    ink_joinWith (by decide) parts
  simp only [hjoin, List.reverse_append, List.reverse_cons, List.flatten_append, ink_append,
    List.flatten_cons, List.flatten_nil, List.length_append, hrule] at hlength
  omega

end More

section Prefix

variable (c : Configuration) {s : List Char}

theorem fencedBlock_of_namesQueries {region : OpenRegion} (h : NamesQueries c region.fence.info)
    (last : Nat) : (Detector.ofConfiguration c).fencedBlock region last =
      [⟨.fenced, joinWith ['\n'] region.inside.reverse, region.startLine, last⟩] := by
  rw [Detector.fencedBlock, if_pos ((contains_languages_iff c).mpr h)]

theorem fencedBlock_of_not_namesQueries {region : OpenRegion}
    (h : ¬NamesQueries c region.fence.info) (last : Nat) :
    (Detector.ofConfiguration c).fencedBlock region last = [] := by
  rw [Detector.fencedBlock, if_neg (mt (contains_languages_iff c).mp h)]

/-- An empty line and a rule go inside of an open region. -/
theorem exists_scan_of_rule {region : OpenRegion} (h : NamesQueries c region.fence.info)
    (number : Nat) (lines : List (List Char)) :
    ∃ inside last later,
      (Detector.ofConfiguration c).scan number (some region) ([] :: rule :: lines) =
        ⟨.fenced, joinWith ['\n'] (inside ++ rule :: [] :: region.inside).reverse, region.startLine,
          last⟩ :: later := by
  rw [scan_of_not_closedBy (Fence.closedBy_of_isBlank rfl _),
    scan_of_not_closedBy (closedBy_rule _)]
  obtain ⟨inside, last, later, heq⟩ :=
    exists_scan_of_open (Detector.ofConfiguration c)
      { region with inside := rule :: [] :: region.inside } (number + 1 + 1) lines
  refine ⟨inside, last, later, heq.trans ?_⟩
  rw [fencedBlock_of_namesQueries c (by exact h), List.singleton_append]

theorem flatMap_fencedBlock_of_not_namesQueries {region : Option OpenRegion}
    (h : ∀ fence ∈ region.map OpenRegion.fence, ¬NamesQueries c fence.info) (last : Nat) :
    region.toList.flatMap ((Detector.ofConfiguration c).fencedBlock · last) = [] := by
  rcases region with _ | region
  · rfl
  · rw [Option.toList_some, List.flatMap_singleton]
    exact fencedBlock_of_not_namesQueries c (h region.fence rfl) last

/-- A region that a document leaves open is a block of it. -/
theorem not_namesQueries_of_scan_eq_nil {lines : List (List Char)}
    (h : (Detector.ofConfiguration c).scan 1 none lines = []) :
    ∀ fence ∈ openAfter none lines, ¬NamesQueries c fence.info := by
  intro fence hopen hqueries
  have hfence : (regionAfter 1 none lines).map OpenRegion.fence = openAfter none lines :=
    map_fence_regionAfter
  obtain ⟨region, hregion, rfl⟩ := Option.map_eq_some_iff.mp (hfence.trans hopen)
  rw [scan_eq_ended, hregion, Option.toList_some, List.flatMap_singleton,
    fencedBlock_of_namesQueries c hqueries] at h
  exact List.append_ne_nil_of_right_ne_nil _ (List.cons_ne_nil _ _) h

/-- **What a document still says when it goes on** with a rule and more text: the blocks found in it
are found first, but for the last one if it is in a region that the document leaves open. -/
theorem scan_prefix_iff (hs : isBlank s = false) (more : List Char) :
    let founds := (Detector.ofConfiguration c).scan 1 none (lines s)
    let again := (Detector.ofConfiguration c).scan 1 none
      (lines (trimEnd s ++ '\n' :: '\n' :: (rule ++ '\n' :: more)))
    (founds <+: again ↔ ∀ fence ∈ openAfter none (lines s), ¬NamesQueries c fence.info) ∧
      founds.dropLast <+: again := by
  obtain ⟨shared, number, last, region, region', hfence, hinked, hscan, hagain⟩ :=
    exists_scan_trimEnd (Detector.ofConfiguration c) hs
  have hlines : lines ('\n' :: (rule ++ '\n' :: more)) = [] :: rule :: lines more :=
    (lines_append_lineFeed List.not_mem_nil _).trans
      (congrArg ([] :: ·) (lines_append_lineFeed (by decide) more))
  dsimp only
  rw [hscan, hagain, hlines, ← hfence]
  by_cases hplain : ∀ fence ∈ region.map OpenRegion.fence, ¬NamesQueries c fence.info
  · rw [flatMap_fencedBlock_of_not_namesQueries c hplain, List.append_nil]
    exact ⟨iff_of_true (List.prefix_append ..) hplain,
      (List.dropLast_prefix _).trans (List.prefix_append ..)⟩
  · obtain ⟨fence, hopen, hqueries⟩ : ∃ fence ∈ region.map OpenRegion.fence,
        NamesQueries c fence.info := by simpa using hplain
    obtain ⟨region, rfl, rfl⟩ := Option.map_eq_some_iff.mp hopen
    obtain ⟨region', rfl, hsame⟩ := Option.map_eq_some_iff.mp hinked.symm
    have hqueries' : NamesQueries c region'.fence.info := by rwa [fence_eq_of_inked hsame]
    obtain ⟨inside, last', later, hrule⟩ := exists_scan_of_rule c hqueries' number (lines more)
    rw [hrule, Option.toList_some, List.flatMap_singleton, fencedBlock_of_namesQueries c hqueries]
    refine ⟨iff_of_false (fun hbegins => ?_) hplain, ?_⟩
    · rw [List.prefix_append_right_inj, List.cons_prefix_cons] at hbegins
      exact fencedBlock_ne_of_rule hsame.symm hbegins.1
    · rw [List.dropLast_concat]
      exact List.prefix_append ..

end Prefix

/-! ### Names -/

theorem named_prefix_iff {founds again : List Found} {count : Nat} :
    named count founds <+: named count again ↔ founds <+: again := by
  induction founds generalizing again count with
  | nil => simp [named]
  | cons found founds ih =>
    rcases again with _ | ⟨other, again⟩
    · simp [named]
    · rw [named, named, List.cons_prefix_cons, List.cons_prefix_cons, ih]
      refine and_congr_left' ⟨fun h => ?_, fun h => h ▸ rfl⟩
      obtain ⟨-, hkind, hsource, hstart, hend⟩ := Block.mk.inj h
      rcases found
      rcases other
      cases hkind
      cases hstart
      cases hend
      cases String.ofList_injective hsource
      rfl

theorem dropLast_named {founds : List Found} {count : Nat} :
    (named count founds).dropLast = named count founds.dropLast := by
  induction founds generalizing count with
  | nil => rfl
  | cons found founds ih =>
    rcases founds with _ | ⟨next, founds⟩
    · rfl
    · exact congrArg (_ :: ·) ih

end Notebook.Block
