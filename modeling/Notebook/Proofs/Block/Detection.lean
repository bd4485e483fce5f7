import Mathlib.Data.List.Basic
import Notebook.Block
import Notebook.Proofs.Markdown.Places

/-!
# What the detector finds

The detector of query blocks goes through a document on its own: it remembers the fence that is open
and collects the lines inside it, and what the last region leaves open it closes at the end. That it
sees the same regions as the tracker of fenced code, by which tags, links and tasks are looked for,
is the theorem of this file (`Notebook.Block.detect_ofConfiguration`): what it finds are the queries
in the passages of the document (`Notebook.Block.queriesIn`), passage by passage.

A scan that starts in the middle of a document finds what is in the passage that the lines before
leave open and in the passages to come (`Notebook.Block.scan_ofConfiguration`), and this is what the
induction on the lines carries.
-/

namespace Notebook.Block

open Markdown Text

/-! ### What is looked for -/

/-- That an info string **names a query language** of a configuration with its first word; case does
not matter. -/
def NamesQueries (c : Configuration) (info : List Char) : Prop :=
  ∃ language ∈ c.fenceLanguages, Unicode.lowercase language.toList = languageOf info

instance (c : Configuration) (info : List Char) : Decidable (NamesQueries c info) :=
  inferInstanceAs (Decidable (∃ _ ∈ _, _))

/-- **The query in a code span**: what follows the mark of inline queries, without white space
around it, if the span starts with that mark after white space. A blank mark starts nothing. -/
def inlineQuery? (c : Configuration) (span : List Char) : Option (List Char) :=
  match c.inlineMark with
  | some mark =>
    if isBlank mark.toList = false ∧ mark.toList <+: trimStart span then
      some (trim ((trimStart span).drop mark.toList.length))
    else none
  | none => none

/-- **The queries of a passage**: of a plain line those in its code spans, and of a region of fenced
code the one that is inside it, if the fence names a query language. -/
def queriesIn (c : Configuration) : Passage → List Found
  | .plain number line =>
    (codeSpans line).filterMap fun span =>
      (inlineQuery? c span).map fun source => ⟨.inline, source, number, number⟩
  | .code region =>
    if NamesQueries c region.fence.info then
      [⟨.fenced, joinWith ['\n'] region.inside, region.first, region.last⟩]
    else []

/-! ### The detector of a configuration -/

theorem isPrefixOf?_eq_drop {mark span : List Char} :
    mark.isPrefixOf? span = if mark <+: span then some (span.drop mark.length) else none := by
  split
  · next h =>
    obtain ⟨rest, rfl⟩ := h
    rw [List.isPrefixOf?_eq_some_iff_append_eq, List.drop_left]
  · next h =>
    refine Option.eq_none_iff_forall_ne_some.mpr fun rest hrest => h ⟨rest, ?_⟩
    exact List.append_eq_of_isPrefixOf?_eq_some hrest

section Configuration

variable (c : Configuration)

theorem contains_languages_iff {info : List Char} :
    (Detector.ofConfiguration c).languages.contains (languageOf info) = true ↔
      NamesQueries c info := by
  rw [List.contains_iff_mem]
  exact List.mem_map

/-- The detector looks for the queries of code spans by the mark that its configuration leaves
it. -/
theorem inlineQuery?_eq_bind (span : List Char) :
    inlineQuery? c span = (Detector.ofConfiguration c).mark.bind fun mark =>
      (mark.isPrefixOf? (trimStart span)).map trim := by
  cases hmark : c.inlineMark with
  | none => simp [inlineQuery?, Detector.ofConfiguration, hmark]
  | some mark =>
    cases hblank : isBlank mark.toList with
    | true => simp [inlineQuery?, Detector.ofConfiguration, hmark, hblank, Option.filter]
    | false =>
      by_cases hprefix : mark.toList <+: trimStart span <;>
        simp [inlineQuery?, Detector.ofConfiguration, hmark, hblank, Option.filter,
          isPrefixOf?_eq_drop, hprefix]

theorem inlineOn_ofConfiguration (number : Nat) (line : List Char) :
    (Detector.ofConfiguration c).inlineOn number line = queriesIn c (.plain number line) := by
  rw [Detector.inlineOn, queriesIn]
  cases hmark : (Detector.ofConfiguration c).mark with
  | none => simp [inlineQuery?_eq_bind, hmark]
  | some mark => simp [inlineQuery?_eq_bind, hmark, Function.comp_def]

theorem fencedBlock_ofConfiguration (region : OpenRegion) (last : Nat) :
    (Detector.ofConfiguration c).fencedBlock region last =
      queriesIn c (.code ⟨region.fence, region.startLine, last, region.inside.reverse⟩) := by
  rw [Detector.fencedBlock, queriesIn]
  simp only [contains_languages_iff]

/-! ### The scan -/

/-- The region that comes of one that the lines so far leave open, where `number` is the last of
these and the lines after it are given. -/
def OpenRegion.complete (region : OpenRegion) (number : Nat) (after : List (List Char)) : Region :=
  let rest := region.fence.region number after
  ⟨region.fence, region.startLine, rest.last, region.inside.reverse ++ rest.inside⟩

/-- The passage that the lines so far leave open, if there is one. -/
def pending (number : Nat) (open? : Option OpenRegion) (after : List (List Char)) : List Passage :=
  open?.toList.map fun region => .code (region.complete number after)

/-- **The scan finds what is in the passages**: the one that is open, and those to come. -/
theorem scan_ofConfiguration {all lines : List (List Char)} {number : Nat}
    (h : all.drop number = lines) (open? : Option OpenRegion) :
    (Detector.ofConfiguration c).scan (number + 1) open? lines =
      (pending number open? lines ++
        passagesFrom all (number + 1) (open?.map OpenRegion.fence) lines).flatMap
          (queriesIn c) := by
  induction lines generalizing number open? with
  | nil =>
    cases open? with
    | none => rfl
    | some region =>
      rw [Detector.scan, fencedBlock_ofConfiguration]
      simp [pending, OpenRegion.complete, Fence.region_nil, passagesFrom, placeLines]
  | cons line lines ih =>
    have hdrop : all.drop (number + 1) = lines := drop_succ_of_drop h
    cases open? with
    | some region =>
      rw [Detector.scan, Option.map_some]
      cases hclosed : region.fence.closedBy line with
      | true =>
        have hcomplete : region.complete number (line :: lines) =
            ⟨region.fence, region.startLine, number + 1, region.inside.reverse⟩ := by
          simp [OpenRegion.complete, Fence.region_of_closedBy hclosed]
        rw [if_pos rfl, ih hdrop, fencedBlock_ofConfiguration, passagesFrom_of_closedBy hclosed,
          pending, pending, ← hcomplete]
        rfl
      | false =>
        have hcomplete : region.complete number (line :: lines) =
            { region with inside := line :: region.inside }.complete (number + 1) lines := by
          simp [OpenRegion.complete, Fence.region_of_not_closedBy hclosed]
        rw [if_neg Bool.false_ne_true, ih hdrop, passagesFrom_of_not_closedBy hclosed, pending,
          pending]
        simp only [Option.toList_some, List.map_cons, hcomplete]
        rfl
    | none =>
      rw [Detector.scan, Option.map_none]
      cases hfence : fence? line with
      | some fence =>
        have hcomplete : (OpenRegion.mk fence (number + 1) []).complete (number + 1) lines =
            fence.region (number + 1) lines := by
          rw [OpenRegion.complete, Fence.region]
          split <;> rfl
        dsimp only
        rw [ih hdrop, passagesFrom_of_fence hfence, hdrop, ← hcomplete]
        rfl
      | none =>
        dsimp only
        rw [ih hdrop, inlineOn_ofConfiguration, passagesFrom_of_no_fence hfence]
        rfl

end Configuration

/-! ### Names -/

/-- A block that has been found, with its number among the blocks of the document. -/
def Found.numbered (found : Found) (number : Nat) : Block :=
  ⟨"dv-" ++ Number.digitsOf number, found.kind, String.ofList found.source, found.startLine,
    found.endLine⟩

theorem named_eq_mapIdx (count : Nat) (founds : List Found) :
    named count founds = founds.mapIdx fun index found => found.numbered (count + index) := by
  induction founds generalizing count with
  | nil => rfl
  | cons found rest ih =>
    rw [named, ih, List.mapIdx_cons]
    simp only [Nat.add_assoc, Nat.add_comm 1, Found.numbered, Nat.add_zero]

theorem map_startLine_named (count : Nat) (founds : List Found) :
    (named count founds).map Block.startLine = founds.map Found.startLine := by
  induction founds generalizing count with
  | nil => rfl
  | cons found rest ih => rw [named, List.map_cons, ih, List.map_cons]

/-! ### The order of blocks -/

theorem startLine_of_mem_queriesIn {c : Configuration} {passage : Passage} {found : Found}
    (h : found ∈ queriesIn c passage) : found.startLine = passage.first := by
  cases passage with
  | plain number line =>
    obtain ⟨span, -, hquery⟩ := List.mem_filterMap.mp h
    obtain ⟨source, -, rfl⟩ := Option.map_eq_some_iff.mp hquery
    rfl
  | code region =>
    rw [queriesIn] at h
    split at h
    · obtain rfl := List.mem_singleton.mp h
      rfl
    · cases h

theorem pairwise_queriesIn (c : Configuration) (lines : List (List Char)) :
    ((passages lines).flatMap (queriesIn c)).Pairwise fun a b => a.startLine ≤ b.startLine := by
  refine List.pairwise_flatMap.mpr ⟨fun passage _ => ?_, ?_⟩
  · refine List.pairwise_of_forall_mem_list fun a ha b hb => Nat.le_of_eq ?_
    rw [startLine_of_mem_queriesIn ha, startLine_of_mem_queriesIn hb]
  · refine (pairwise_passages lines).imp fun hlt a ha b hb => ?_
    rw [startLine_of_mem_queriesIn ha, startLine_of_mem_queriesIn hb]
    exact Nat.le_of_lt hlt

/-- The blocks of a document are the queries in its passages, with their names. -/
theorem detect_eq_named (c : Configuration) (document : String) :
    (Detector.ofConfiguration c).detect document =
      named 1 ((passages (lines document.toList)).flatMap (queriesIn c)) :=
  congrArg (named 1) (scan_ofConfiguration c List.drop_zero none)

/-- **What the detector finds**: of every passage of a document in order the queries in it, numbered
from 1. The blocks come in the order of their first lines; a line is code for the tracker, which
says where tags, links and tasks are looked for, if and only if it is in one of the regions among
the passages, and the other passages are the lines that are no code for it. -/
theorem detect_ofConfiguration (c : Configuration) (document : String) :
    let all := lines document.toList
    let blocks := (Detector.ofConfiguration c).detect document
    blocks = ((passages all).flatMap (queriesIn c)).mapIdx
        (fun index found => found.numbered (index + 1)) ∧
      blocks.Pairwise (fun a b => a.startLine ≤ b.startLine) ∧
      (∀ entry ∈ placeLines 1 none all, entry.2.1 ≠ .plain ↔ CoveredBy (passages all) entry.1) ∧
      plainLines document.toList = (passages all).filterMap Passage.line? := by
  intro all blocks
  have hblocks : blocks = named 1 ((passages all).flatMap (queriesIn c)) :=
    detect_eq_named c document
  have hstarts : (blocks.map Block.startLine).Pairwise (· ≤ ·) := by
    rw [hblocks, map_startLine_named, List.pairwise_map]
    exact pairwise_queriesIn c all
  refine ⟨?_, List.pairwise_map.mp hstarts, fun entry => place_ne_plain_iff,
    plainLines_eq_passages _⟩
  rw [hblocks, named_eq_mapIdx]
  simp only [Nat.add_comm 1]

example : (Detector.ofConfiguration {}).detect "`dv: LIST`\n```Dataview\nTASK\n~~~" =
    [⟨"dv-1", .inline, "LIST", 1, 1⟩, ⟨"dv-2", .fenced, "TASK\n~~~", 2, 4⟩] := by
  decide +kernel

end Notebook.Block
