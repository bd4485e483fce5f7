import Notebook.Proofs.Block.Continuation
import Notebook.Proofs.Block.Detection
import Notebook.Proofs.Markdown.Spans

/-!
# Inline queries next to stray backticks

An inline query is a code span, so the rule for code spans says where the inline queries of a
document are: on the lines outside of fenced code, in the spans among the pieces of the line
(`Notebook.Block.queriesAmong`). The detector goes by the search for code spans, and this search
ends at the first run of backticks that nothing closes. So it finds the queries of a document
exactly when no inline query comes after such a run on its line
(`Notebook.Block.detect_eq_iff_hidden`); the queries that it does find are in any case the right
ones, line by line.
-/

namespace Notebook.Block

open Markdown Text

/-- **The queries of a passage by the rule for code spans**: of a plain line those in all of its
spans, and of a region of fenced code the one that is inside it. -/
def queriesAmong (c : Configuration) : Passage → List Found
  | .plain number line =>
    (contents (piecesOf line)).filterMap fun span =>
      (inlineQuery? c span).map fun source => ⟨.inline, source, number, number⟩
  | .code region => queriesIn c (.code region)

variable {c : Configuration}

/-- What the detector finds in a passage are the first ones of its queries. -/
theorem queriesIn_begins (c : Configuration) (passage : Passage) :
    queriesIn c passage <+: queriesAmong c passage := by
  cases passage with
  | plain number line =>
    rw [queriesIn, queriesAmong, ← codeSpans_append_hiddenSpans, List.filterMap_append]
    exact List.prefix_append _ _
  | code region => exact List.prefix_refl _

/-- On a plain line they are all of them if no query is in a span that stays hidden. -/
theorem queriesIn_plain_eq_iff {number : Nat} {line : List Char} :
    queriesIn c (.plain number line) = queriesAmong c (.plain number line) ↔
      ∀ span ∈ hiddenSpans line, inlineQuery? c span = none := by
  rw [queriesIn, queriesAmong, ← codeSpans_append_hiddenSpans, List.filterMap_append,
    List.self_eq_append_right, List.filterMap_eq_nil_iff]
  simp only [Option.map_eq_none_iff]

/-- Where each list is the beginning of another one, they make up the same only if each is the whole
of it. -/
theorem flatMap_eq_iff_of_prefix {α β : Type} {f g : α → List β} (h : ∀ a, f a <+: g a)
    {items : List α} : items.flatMap f = items.flatMap g ↔ ∀ a ∈ items, f a = g a := by
  have hle : ∀ items : List α, (items.flatMap f).length ≤ (items.flatMap g).length := by
    intro items
    induction items with
    | nil => exact Nat.le_refl _
    | cons a items ih =>
      rw [List.flatMap_cons, List.flatMap_cons, List.length_append, List.length_append]
      exact Nat.add_le_add (h a).length_le ih
  induction items with
  | nil => exact iff_of_true rfl (List.forall_mem_nil _)
  | cons a items ih =>
    rw [List.flatMap_cons, List.flatMap_cons, List.forall_mem_cons]
    constructor
    · intro heq
      have hlength := congrArg List.length heq
      rw [List.length_append, List.length_append] at hlength
      have hhead : (f a).length = (g a).length := by
        have := (h a).length_le
        have := hle items
        omega
      obtain ⟨ha, hitems⟩ := List.append_inj heq hhead
      exact ⟨ha, ih.mp hitems⟩
    · rintro ⟨ha, hitems⟩
      rw [ha, ih.mpr hitems]

theorem named_inj {founds others : List Found} {count : Nat} :
    named count founds = named count others ↔ founds = others := by
  refine ⟨fun h => ?_, fun h => h ▸ rfl⟩
  have hle : named count founds <+: named count others := h ▸ List.prefix_refl _
  have hge : named count others <+: named count founds := h ▸ List.prefix_refl _
  exact (named_prefix_iff.mp hle).eq_of_length_le (named_prefix_iff.mp hge).length_le

/-- **Which inline queries are found.** A line falls into its pieces in one way only. The search for
code spans finds those of its spans that no run which stands alone comes before; so it finds all of
them if and only if none stays hidden. And the blocks that are detected in a document are its
queries, by the rule for code spans, if and only if no hidden span of a plain line is an inline
query. -/
theorem detect_eq_iff_hidden (c : Configuration) (document : String) :
    let all := passages (lines document.toList)
    (∀ line pieces, FallsInto line pieces ↔ pieces = piecesOf line) ∧
      (∀ line, codeSpans line ++ hiddenSpans line = contents (piecesOf line) ∧
        (codeSpans line = contents (piecesOf line) ↔ hiddenSpans line = [])) ∧
      ((Detector.ofConfiguration c).detect document = named 1 (all.flatMap (queriesAmong c)) ↔
        ∀ number line, .plain number line ∈ all →
          ∀ span ∈ hiddenSpans line, inlineQuery? c span = none) := by
  intro all
  refine ⟨fun line pieces => fallsInto_iff,
    fun line => ⟨codeSpans_append_hiddenSpans line, codeSpans_eq_iff line⟩, ?_⟩
  rw [detect_eq_named, named_inj, flatMap_eq_iff_of_prefix (queriesIn_begins c)]
  constructor
  · intro h number line hplain
    exact queriesIn_plain_eq_iff.mp (h _ hplain)
  · rintro h (⟨number, line⟩ | region) hpassage
    · exact queriesIn_plain_eq_iff.mpr (h number line hpassage)
    · rfl

/-- A stray backtick hides the inline query after it. -/
theorem detect_eq_nil_of_strayBacktick :
    let document := "a ` b ``dv: LIST``"
    FallsInto document.toList [.alone 1, .span "dv: LIST".toList] ∧
      codeSpans document.toList ≠ contents [.alone 1, .span "dv: LIST".toList] ∧
      (Detector.ofConfiguration {}).detect document = [] ∧
      named 1 ((passages (lines document.toList)).flatMap (queriesAmong {})) =
        [⟨"dv-1", .inline, "LIST", 1, 1⟩] := by
  intro document
  refine ⟨fallsInto_iff.mpr ?_, ?_, ?_, ?_⟩ <;> decide +kernel

end Notebook.Block
