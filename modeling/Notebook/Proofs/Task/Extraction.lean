import Notebook.Task.Basic
import Notebook.Proofs.Markdown.Places

/-!
# The order of tasks

The lines of a body are numbered one by one, and each of them gives one task at most; so the tasks
of a body come with greater and greater lines (`Notebook.Task.pairwise_extract`).
-/

namespace Notebook

namespace Task

theorem line_of_ofLine? {path : String} {number : Nat} {line : List Char} {task : Task}
    (h : ofLine? path number line = some task) : task.line = number := by
  obtain ⟨parts, -, rfl⟩ := Option.map_eq_some_iff.mp h
  rfl

/-- **The tasks of a body come in the order of their lines**, one on a line. -/
theorem pairwise_extract (path body : String) :
    (extract path body).Pairwise fun s t => s.line < t.line := by
  refine (Markdown.pairwise_plainLines body.toList).filterMap _ ?_
  rintro ⟨m, line⟩ ⟨n, line'⟩ hlt s hs t ht
  rw [line_of_ofLine? hs, line_of_ofLine? ht]
  exact hlt

end Task

end Notebook
