import Notebook.Engine
import Notebook.Proofs.Block.Continuation

/-!
# Documents with their results

A document with the results of its queries is a document again, and whoever looks for queries in it
should find those that gave the results. The results come after a rule, and nothing of them is read
as part of a block of the document, unless the document leaves a region of code open: then the rule
and the results go inside it. So the blocks are found again exactly when no region with a query in
it is left open at the end of the document (`Notebook.Engine.detect_rendered`).
-/

namespace Notebook.Engine

open Block Markdown Report Text

/-- What follows a document with blocks starts with an empty line and a rule. -/
theorem exists_withResults (document : String) {outcomes : List Outcome} (h : outcomes ≠ []) :
    ∃ more, (withResults document outcomes).toList =
      trimEnd document.toList ++ '\n' :: '\n' :: (rule ++ '\n' :: more) := by
  let sections := String.join (outcomes.map Outcome.sectionText)
  refine ⟨"\n## Query Results\n".toList ++ sections.toList, ?_⟩
  rw [withResults, if_neg (by rwa [List.isEmpty_iff]), String.toList_append, String.toList_append,
    String.toList_ofList, List.append_assoc, resultsHeading]
  rfl

/-- **What a document still says with its results after it**: its blocks are found first, unchanged,
if and only if it leaves no region open whose fence names a query language; and all its blocks but
the last one are found in any case. -/
theorem detect_rendered (engine : Engine) (document : String) (collection : Collection) :
    let blocks := engine.detect document
    let again := engine.detect (engine.processDocument document collection).rendered
    (blocks <+: again ↔ ∀ fence ∈ openAfter none (lines document.toList),
        ¬NamesQueries engine.configuration fence.info) ∧
      blocks.dropLast <+: again := by
  intro blocks again
  by_cases hblocks : blocks = []
  · have hscan : (Detector.ofConfiguration engine.configuration).scan 1 none
        (lines document.toList) = [] := by
      have hnil : blocks <+: named 1 [] := hblocks ▸ List.nil_prefix
      exact List.prefix_nil.mp (named_prefix_iff.mp hnil)
    rw [hblocks]
    exact ⟨iff_of_true List.nil_prefix (not_namesQueries_of_scan_eq_nil _ hscan), List.nil_prefix⟩
  · have hs : isBlank document.toList = false := by
      refine Bool.eq_false_iff.mpr fun hblank => hblocks ?_
      exact congrArg (named 1) (scan_of_isBlank hblank)
    have houtcomes : blocks.map (engine.processBlock · collection) ≠ [] := by
      rwa [Ne, List.map_eq_nil_iff]
    obtain ⟨more, hmore⟩ := exists_withResults document houtcomes
    have hagain : again = named 1 _ :=
      congrArg (named 1 <| (Detector.ofConfiguration engine.configuration).scan 1 none <| lines ·)
        hmore
    rw [hagain, show blocks = named 1 _ from rfl, named_prefix_iff, dropLast_named,
      named_prefix_iff]
    exact scan_prefix_iff engine.configuration hs more

/-- A region that is left open takes in the results of the query in it, which is another query then.
-/
theorem not_isPrefix_detect_rendered :
    let engine := ofConfiguration {}
    let document := "```dataview\nLIST"
    ¬engine.detect document <+:
      engine.detect (engine.processDocument document (Collection.ofList [])).rendered := by
  decide +kernel

end Notebook.Engine
