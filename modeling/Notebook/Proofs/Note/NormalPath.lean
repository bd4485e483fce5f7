import Notebook.Note.Document
import Notebook.Proofs.Json.Quoted
import Notebook.Proofs.Json.Record
import Notebook.Proofs.Text.Repeated
import Notebook.Proofs.Text.Trim

/-!
# Paths that settle

The normal form of a path is made in three steps, each of them once: white space around the path is
dropped, then the steps into the present folder at its start, then backslashes become slashes. A
step can leave work for an earlier one. White space may come to the start when a step into the
present folder is dropped, and a dot and a backslash become such a step. These two are all that can
happen (`Notebook.Note.normalPath_normalPath_iff`): the normal form of any other path is its own
normal form.

A note that is written as a document and read back is given the normal form of its path
(`Notebook.Note.path_of_ofText_toJson`). So it keeps its path when the path has settled, and only
then (`Notebook.Note.path_settles_iff`).
-/

namespace Notebook.Note

open Json Text Unicode
open Evaluation (bind_eq_ok_iff)

/-! ### The normal form of a normal form -/

/-- **What is left of a path** after white space and the steps into the present folder. -/
def afterSteps (path : String) : List Char := dropRepeated ['.', '/'] (trim path.toList)

/-- That a path **starts plainly**: neither with white space nor with a dot and a backslash. -/
def StartsPlainly (cs : List Char) : Prop :=
  cs.head?.any isWhiteSpace = false ∧ ¬['.', '\\'] <+: cs

instance (cs : List Char) : Decidable (StartsPlainly cs) := inferInstanceAs (Decidable (_ ∧ _))

/-- A slash for a backslash. -/
def forwardSlash (c : Char) : Char := if c = '\\' then '/' else c

theorem toList_normalPath (path : String) :
    (normalPath path).toList = (afterSteps path).map forwardSlash := String.toList_ofList

theorem map_forwardSlash {cs : List Char} (h : '\\' ∉ cs) : cs.map forwardSlash = cs := by
  have hsame : ∀ c ∈ cs, forwardSlash c = c := fun c hc => if_neg (ne_of_mem_of_not_mem hc h)
  calc cs.map forwardSlash = cs.map id := List.map_congr_left hsame
    _ = cs := List.map_id cs

theorem not_mem_map_forwardSlash (cs : List Char) : '\\' ∉ cs.map forwardSlash := by
  intro hmem
  obtain ⟨c, -, hc⟩ := List.mem_map.mp hmem
  unfold forwardSlash at hc
  split at hc
  · cases hc
  · next hne => exact hne hc

theorem isWhiteSpace_forwardSlash (c : Char) : isWhiteSpace (forwardSlash c) = isWhiteSpace c := by
  unfold forwardSlash
  split
  · next hc => rw [hc]; decide
  · rfl

/-- A path without backslashes is its own normal form when there is nothing to drop. -/
theorem normalPath_eq_self_iff {path : String} (h : '\\' ∉ path.toList) :
    normalPath path = path ↔ trim path.toList = path.toList ∧ ¬['.', '/'] <+: path.toList := by
  have hsuffix : afterSteps path <:+ trim path.toList := isSuffix_dropRepeated _ _
  have hinfix := isInfix_trim path.toList
  have hnone : '\\' ∉ afterSteps path := fun hmem => h ((hsuffix.isInfix.trans hinfix).mem hmem)
  rw [← String.toList_inj, toList_normalPath, map_forwardSlash hnone]
  constructor
  · intro hsame
    have htrim : trim path.toList = path.toList :=
      hinfix.eq_of_length_le (hsame ▸ hsuffix.length_le)
    refine ⟨htrim, ?_⟩
    rw [afterSteps, htrim] at hsame
    exact (dropRepeated_eq_self_iff (by simp)).mp hsame
  · rintro ⟨htrim, hstart⟩
    rw [afterSteps, htrim]
    exact dropRepeated_of_not_isPrefix hstart

/-- A start with a dot and a slash, once backslashes are slashes. -/
theorem isPrefix_map_forwardSlash_iff {cs : List Char} (h : ¬['.', '/'] <+: cs) :
    ['.', '/'] <+: cs.map forwardSlash ↔ ['.', '\\'] <+: cs := by
  match cs with
  | [] => simp
  | [c] => simp
  | c :: d :: cs =>
    simp only [List.map_cons, List.cons_prefix_cons, List.nil_prefix, and_true] at h ⊢
    unfold forwardSlash
    split <;> split <;> simp_all [eq_comm]

/-- **Whether a normal form is its own normal form** is told by how the path starts after its steps.
-/
theorem normalPath_normalPath_iff (path : String) :
    normalPath (normalPath path) = normalPath path ↔ StartsPlainly (afterSteps path) := by
  have hend : trimEnd (afterSteps path) = afterSteps path :=
    trimEnd_of_isSuffix (isSuffix_dropRepeated _ _) (trimEnd_trimEnd _)
  have hstep : ¬['.', '/'] <+: afterSteps path := not_isPrefix_dropRepeated (by simp) _
  have htrim : (trim (afterSteps path)).map forwardSlash = (afterSteps path).map forwardSlash ↔
      trim (afterSteps path) = afterSteps path := by
    refine ⟨fun h => (isInfix_trim _).eq_of_length ?_, congrArg _⟩
    simpa using congrArg List.length h
  rw [normalPath_eq_self_iff (by rw [toList_normalPath]; exact not_mem_map_forwardSlash _),
    toList_normalPath, trim_map isWhiteSpace_forwardSlash, isPrefix_map_forwardSlash_iff hstep,
    htrim, trim_eq_self_iff, and_iff_left hend, StartsPlainly]

/-! ### Reading a note back -/

variable {note again : Note}

/-- Only the path itself changes the path of a note that is read. -/
theorem path_of_read {slot : Slot Note} (hslot : slot ∈ slots) (hkey : slot.key ≠ "path")
    {depth : Nat} {s rest : List Char} (h : slot.read depth note s = .ok (again, rest)) :
    again.path = note.path := by
  simp only [slots, List.mem_cons, List.not_mem_nil, or_false] at hslot
  rcases hslot with rfl | rfl | rfl | rfl | rfl | rfl | rfl | rfl | rfl
  case inl => exact absurd rfl hkey
  case inr.inr.inr.inr.inl =>
    obtain ⟨⟨frontmatter, left⟩, -, h⟩ := bind_eq_ok_iff.mp h
    cases h
    rfl
  all_goals
    obtain ⟨value, -, rfl⟩ := Slot.exists_of_read h
    rfl

/-- The text of a note starts with its path. -/
theorem exists_toList_toJson (note : Note) : ∃ left, note.toJson.text.toList =
    '{' :: '"' :: ("path".toList.flatMap escaped ++ '"' :: ':' :: '"' ::
      (note.path.toList.flatMap escaped ++ '"' :: left)) := by
  simp [toJson, Json.text, membersText, quoted]

/-- The field of the path puts the normal form of what it reads into the note. -/
theorem path_of_readField {depth : Nat} {state state' : Note × List String} {path : String}
    {left rest : List Char} (h : readField slots depth state "path"
      (':' :: '"' :: (path.toList.flatMap escaped ++ '"' :: left)) = .ok (state', rest)) :
    state'.1.path = normalPath path ∧ "path" ∈ state'.2 := by
  unfold readField at h
  split at h
  · next hnone => cases hnone
  · next slot hslot =>
    cases hslot
    split at h
    · cases h
    · obtain ⟨after, hcolon, h⟩ := bind_eq_ok_iff.mp h
      cases hcolon
      obtain ⟨⟨record, _⟩, hread, h⟩ := bind_eq_ok_iff.mp h
      cases h
      have hslot : (Slot.of "path" readText fun (note : Note) path =>
          { note with path := normalPath path }).read depth state.1 _ = .ok (record, rest) := hread
      obtain ⟨value, hvalue, rfl⟩ := Slot.exists_of_read hslot
      have hquoted : readQuoted true [] _ = .ok (value, rest) := hvalue
      rw [readQuoted_quoted] at hquoted
      cases hquoted
      exact ⟨rfl, List.mem_cons_self ..⟩

/-- **A note that is read back** has the normal form of its path for a path. -/
theorem path_of_ofText_toJson (h : ofText note.toJson.text = .ok again) :
    again.path = normalPath note.path := by
  obtain ⟨left, htext⟩ := exists_toList_toJson note
  obtain ⟨rest, hread⟩ := exists_of_readAll h
  rw [htext] at hread
  obtain ⟨seen, hmembers⟩ := exists_of_readRecord hread
  obtain ⟨key, after, state, last, hkey, hfield, hrest⟩ := exists_member_of_first hmembers
  rw [readQuoted_quoted] at hkey
  cases hkey
  -- the path is read first, and no later member changes it
  have hkept : again.path = normalPath note.path ∧ "path" ∈ seen := by
    refine foldMembers_keeps (P := fun state => state.1.path = normalPath note.path ∧
      "path" ∈ state.2) ?_ (path_of_readField hfield) hrest
    intro state name s state' rest hstate hfield
    refine readField_keeps (P := fun record => record.path = normalPath note.path) ?_ hstate hfield
    intro slot hslot hne record s record' rest hrecord hread
    exact (path_of_read hslot hne hread).trans hrecord
  exact hkept.1

/-- **Whether a path settles**: its normal form is its own normal form exactly when what is left of
it after white space and the steps into the present folder starts neither with white space nor with
a dot and a backslash; and a note with that normal form for its path, once written and read back,
has kept its path exactly then. -/
theorem path_settles_iff (path : String) :
    (normalPath (normalPath path) = normalPath path ↔ StartsPlainly (afterSteps path)) ∧
      ∀ note again : Note, note.path = normalPath path → ofText note.toJson.text = .ok again →
        (again.path = note.path ↔ StartsPlainly (afterSteps path)) := by
  refine ⟨normalPath_normalPath_iff path, fun note again hpath hread => ?_⟩
  rw [path_of_ofText_toJson hread, hpath]
  exact normalPath_normalPath_iff path

/-- A note whose path has a backslash further on is written and read back, and keeps its path. -/
theorem path_settles_iff_of_folder : ∃ again,
    ofText (ofBody "./notes\\a.md" "- [ ] ship \"it\"").toJson.text = .ok again ∧
      again.path = "notes/a.md" := by
  have hsome :
      (ofText (ofBody "./notes\\a.md" "- [ ] ship \"it\"").toJson.text).toOption.isSome := by
    -- one string after the other, as taking all of the text apart is slow
    unfold ofText readAll
    simp only [toJson, Json.text, membersText, quoted, String.toList_append, String.toList_ofList]
    decide +kernel
  cases hread : ofText (ofBody "./notes\\a.md" "- [ ] ship \"it\"").toJson.text with
  | error fault =>
    rw [hread] at hsome
    cases hsome
  | ok again =>
    have hplain : StartsPlainly (afterSteps "./notes\\a.md") := by decide +kernel
    have hpath := ((path_settles_iff "./notes\\a.md").2 _ again rfl hread).mpr hplain
    exact ⟨again, rfl, hpath.trans (by decide +kernel)⟩

/-- A backslash after a dot at the start becomes a step into the present folder, which is dropped
only the next time. -/
theorem not_settles_of_backslash :
    normalPath ".\\a.md" = "./a.md" ∧ normalPath (normalPath ".\\a.md") = "a.md" := by
  decide +kernel

end Notebook.Note
