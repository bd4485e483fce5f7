import Mathlib.Data.List.Nodup
import Notebook.Engine

/-!
# The order in which notes arrive

A host hands over its notes in any order, and a collection holds them in the order of their paths.
Where notes have paths of their own there is one such order only, so that a collection is its notes
(`Notebook.Collection.eq_of_perm`). Everything that is done with notes is done with a collection of
them: the bound on their count, the source, the tasks, the condition, the sorting, the links. So no
report on a document shows in which order the notes came (`Notebook.Engine.processDocument_perm`).

For notes that share a path this fails: they stay in the order in which they came.
-/

namespace Notebook

namespace Collection

variable {collection other : Collection} {notes others : List Note}

theorem perm_notes_ofList (notes : List Note) : (ofList notes).notes.Perm notes :=
  List.mergeSort_perm notes Note.pathLe

/-- Two notes that may come before each other have the same path. -/
theorem path_eq_of_pathLe {a b : Note} (hab : a.pathLe b = true) (hba : b.pathLe a = true) :
    a.path = b.path :=
  Std.LawfulEqCmp.eq_of_compare (Std.OrientedCmp.isLE_antisymm hab hba)

/-- **A collection is its notes**, where these have paths of their own. -/
theorem eq_of_perm (hpaths : (collection.notes.map Note.path).Nodup)
    (hperm : collection.notes.Perm other.notes) : collection = other := by
  have hapart : ∀ a b, a ∈ collection.notes → b ∈ other.notes →
      a.pathLe b = true → b.pathLe a = true → a = b := by
    intro a b ha hb hab hba
    exact List.inj_on_of_nodup_map hpaths ha (hperm.mem_iff.mpr hb) (path_eq_of_pathLe hab hba)
  have hnotes : collection.notes = other.notes :=
    hperm.eq_of_pairwise hapart collection.ordered other.ordered
  cases collection
  cases other
  subst hnotes
  rfl

/-- Lists of notes with paths of their own give the same collection exactly when they hold the same
notes. -/
theorem ofList_eq_iff_perm (hpaths : (notes.map Note.path).Nodup) :
    ofList notes = ofList others ↔ notes.Perm others := by
  constructor
  · intro heq
    calc notes.Perm (ofList notes).notes := (perm_notes_ofList notes).symm
      _ |>.Perm others := heq ▸ perm_notes_ofList others
  · intro hperm
    refine eq_of_perm (((perm_notes_ofList notes).map _).nodup_iff.mpr hpaths) ?_
    calc (ofList notes).notes.Perm notes := perm_notes_ofList notes
      _ |>.Perm others := hperm
      _ |>.Perm (ofList others).notes := (perm_notes_ofList others).symm

end Collection

namespace Engine

/-- **The report does not show the order in which notes came**, if these have paths of their own. It
has the same outcomes for the same blocks, failures among them, and the same rendered text, also
where the configuration bounds how many notes are looked at. -/
theorem processDocument_perm (engine : Engine) (document : String) {notes others : List Note}
    (hpaths : (notes.map Note.path).Nodup) (hperm : notes.Perm others) :
    engine.processDocument document (.ofList notes) =
      engine.processDocument document (.ofList others) := by
  rw [(Collection.ofList_eq_iff_perm hpaths).mpr hperm]

/-- Of two notes one is looked at, and it is the one with the smaller path for both orders. -/
theorem processDocument_perm_bounded :
    let engine := ofConfiguration { maxNotes := some 1 }
    let a := Note.ofBody "a.md" "- [ ] one"
    let b := Note.ofBody "b.md" "- [ ] two"
    ([b, a].map Note.path).Nodup ∧ [b, a].Perm [a, b] ∧
      engine.bounded (.ofList [b, a]) = [a] ∧
      engine.processDocument "`dv: TASK`" (.ofList [b, a]) =
        engine.processDocument "`dv: TASK`" (.ofList [a, b]) := by
  intro engine a b
  have hpaths : ([b, a].map Note.path).Nodup := by decide +kernel
  have hperm : [b, a].Perm [a, b] := .swap a b []
  have hsorted : [a, b].Pairwise fun m n => m.pathLe n = true := by decide +kernel
  have hnotes : (Collection.ofList [b, a]).notes = [a, b] := by
    rw [(Collection.ofList_eq_iff_perm hpaths).mpr hperm]
    exact List.mergeSort_of_pairwise hsorted
  refine ⟨hpaths, hperm, ?_, processDocument_perm engine _ hpaths hperm⟩
  rw [bounded, hnotes]
  rfl

end Engine

end Notebook
