import Notebook.Proofs.Task.Annotations
import Notebook.Proofs.Unicode.Lowercase

/-!
# What a task says of itself

An inline field of a task is kept under its key in lower case, and so is everything else that a task
is annotated with (`Notebook.Task.lowerKeyed_annotationsOf`). A condition asks for a name as it is
written. So the field is found under the key with which it stands in the text exactly when this key
is in lower case (`Notebook.Task.lookup_inlineField_iff`). Under any other key the task has nothing,
and the question goes to the note, whose front matter may well have an answer, since there the case
of letters does not matter.

The names of what every task has, such as its text, come first and are left out here.
-/

namespace Notebook.Task

open Text Unicode

variable {cs : List Char} {key name : String} {v : Value} {field : List Char × List Char}

/-! ### The keys of annotations -/

/-- A dictionary **with its keys in lower case**. -/
def LowerKeyed (d : Dictionary Value) : Prop :=
  ∀ key v, d.find? key = some v → lowercase key.toList = key.toList

theorem LowerKeyed.insert {d : Dictionary Value} (h : LowerKeyed d)
    (hkey : lowercase key.toList = key.toList) (v : Value) : LowerKeyed (d.insert key v) := by
  intro k w hw
  rw [Dictionary.find?_insert] at hw
  split at hw
  · next hk => rw [hk, hkey]
  · exact h k w hw

theorem lowerKeyed_fieldAnnotations (cs : List Char) : LowerKeyed (fieldAnnotations cs) := by
  intro key v h
  rw [find?_fieldAnnotations] at h
  obtain ⟨text, htext, -⟩ := Option.map_eq_some_iff.mp h
  obtain ⟨field, -, rfl, -⟩ := exists_field_of_lastField? htext
  rw [String.toList_ofList, lowercase_lowercase]

/-- The words that dates are kept under are in small letters. -/
theorem lowercase_of_dateKey? {c : Char} (h : dateKey? c = some key) :
    lowercase key.toList = key.toList := by
  unfold dateKey? at h
  split at h
  case h_6 => cases h
  all_goals
    obtain rfl := Option.some.inj h
    exact lowercase_of_isLower (by simp)

theorem lowercase_of_mem_markedDates {mark : String × List Char} (h : mark ∈ markedDates cs) :
    lowercase mark.1.toList = mark.1.toList := by
  fun_induction markedDates cs with
  | case1 => cases h
  | case2 c rest hnone ih => exact ih h
  | case3 c rest key hkey day after hday ih =>
    rcases List.mem_cons.mp h with rfl | h
    · exact lowercase_of_dateKey? hkey
    · exact ih h
  | case4 c rest key hkey hnone ih => exact ih h

theorem LowerKeyed.addDates {d : Dictionary Value} (h : LowerKeyed d)
    {marks : List (String × List Char)}
    (hmarks : ∀ mark ∈ marks, lowercase mark.1.toList = mark.1.toList) :
    LowerKeyed (marks.foldl addDate d) := by
  induction marks generalizing d with
  | nil => exact h
  | cons mark marks ih =>
    obtain ⟨hmark, hmarks⟩ := List.forall_mem_cons.mp hmarks
    refine ih ?_ hmarks
    unfold addDate
    split
    · exact h.insert hmark _
    · exact h

/-- **Annotations have their keys in lower case.** -/
theorem lowerKeyed_annotationsOf (cs : List Char) : LowerKeyed (annotationsOf cs) := by
  have hdates : LowerKeyed ((markedDates cs).foldl addDate (fieldAnnotations cs)) :=
    (lowerKeyed_fieldAnnotations cs).addDates fun _ hmark => lowercase_of_mem_markedDates hmark
  unfold annotationsOf addTags
  split
  · exact hdates
  · exact hdates.insert (lowercase_of_isLower (by simp)) _

/-! ### What is kept of a field -/

/-- An inline field leaves an annotation under its key in lower case. -/
theorem exists_annotation_of_mem_inlineFields (h : field ∈ inlineFields cs) :
    ∃ v, (annotationsOf cs).find? (String.ofList (lowercase field.1)) = some v := by
  by_cases htags : String.ofList (lowercase field.1) = "tags" ∧
      Markdown.tagNames isWhiteSpace cs ≠ []
  · exact ⟨_, by rw [annotationsOf, find?_addTags, if_pos htags]⟩
  · have hlast : (lastField? cs (String.ofList (lowercase field.1))).isSome := by
      rw [lastField?, List.lookup_isSome_iff]
      exact ⟨_, List.mem_reverse.mpr (List.mem_map_of_mem h), beq_self_eq_true _⟩
    obtain ⟨text, htext⟩ := Option.isSome_iff_exists.mp hlast
    exact ⟨_, find?_of_fieldText? ((if_neg htags).trans htext)⟩

theorem typedValue_ne_absent (cs : List Char) : typedValue cs ≠ .absent := by
  unfold typedValue
  dsimp only
  repeat' split
  all_goals nofun

theorem Annotates.ne_absent (h : Annotates cs key v) : v ≠ .absent := by
  rcases h with htext | _ | _
  · exact typedValue_ne_absent _
  · nofun
  · nofun

/-! ### Asking a task -/

/-- The names of what every task has. -/
def ownNames : List String := ["text", "completed", "checked", "status", "line"]

theorem field?_of_not_mem {task : Task} (h : name ∉ ownNames) :
    task.field? name = task.annotations.find? name := by
  unfold field?
  split
  case h_6 => rfl
  all_goals exact absurd (by decide) h

variable {path body : String} {task : Task}

/-- **What is asked of a task under the key of one of its inline fields**: the annotation that the
field leaves when the key is in lower case, and the note otherwise. -/
theorem lookup_inlineField (htask : task ∈ extract path body)
    (hfield : field ∈ inlineFields task.text.toList) (hname : String.ofList field.1 ∉ ownNames) :
    ∃ v ≠ .absent, task.annotations.find? (String.ofList (lowercase field.1)) = some v ∧
      ∀ note, task.lookup note ⟨[String.ofList field.1]⟩ =
        if lowercase field.1 = field.1 then v else note.lookup ⟨[String.ofList field.1]⟩ := by
  obtain ⟨v, hv⟩ := exists_annotation_of_mem_inlineFields hfield
  rw [(legible_of_mem_extract htask).annotations]
  refine ⟨v, (annotates_of_find? hv).ne_absent, hv, fun note => ?_⟩
  change (task.field? (String.ofList field.1)).getD _ = _
  rw [field?_of_not_mem hname, (legible_of_mem_extract htask).annotations]
  split
  · next hlower =>
    rw [hlower] at hv
    rw [hv, Option.getD_some]
  · next hlower =>
    have hnone : (annotationsOf task.text.toList).find? (String.ofList field.1) = none := by
      rw [Option.eq_none_iff_forall_ne_some]
      intro w hw
      have hkey := lowerKeyed_annotationsOf _ _ _ hw
      rw [String.toList_ofList] at hkey
      exact hlower hkey
    rw [hnone, Option.getD_none]

/-- **A task answers for its inline field**, whatever the note that holds it says, exactly when the
key of the field is in lower case. Otherwise the note answers. -/
theorem lookup_inlineField_iff (htask : task ∈ extract path body)
    (hfield : field ∈ inlineFields task.text.toList) (hname : String.ofList field.1 ∉ ownNames) :
    ∃ v, task.annotations.find? (String.ofList (lowercase field.1)) = some v ∧
      ((∀ note : Note, note.path = path → note.body = body →
          task.lookup note ⟨[String.ofList field.1]⟩ = v) ↔ lowercase field.1 = field.1) ∧
      (lowercase field.1 ≠ field.1 → ∀ note : Note,
        task.lookup note ⟨[String.ofList field.1]⟩ = note.lookup ⟨[String.ofList field.1]⟩) := by
  obtain ⟨v, hpresent, hv, hlookup⟩ := lookup_inlineField htask hfield hname
  refine ⟨v, hv, ⟨fun hall => ?_, fun hlower note _ _ => by rw [hlookup, if_pos hlower]⟩,
    fun hlower note => by rw [hlookup, if_neg hlower]⟩
  -- a note without front matter has no answer
  by_contra hlower
  have hempty := hall ⟨path, none, none, none, .empty, body, none, none, none⟩ rfl rfl
  rw [hlookup, if_neg hlower] at hempty
  exact hpresent hempty.symm

/-- A task answers for the field `due`, also where the front matter has one. -/
theorem lookup_inlineField_of_due : ∃ task ∈ extract "a.md" "- [ ] x [due:: 5]",
    (['d', 'u', 'e'], ['5']) ∈ inlineFields task.text.toList ∧ "due" ∉ ownNames ∧
      ∃ v, task.annotations.find? "due" = some v ∧ ∀ note : Note, note.path = "a.md" →
        note.body = "- [ ] x [due:: 5]" → task.lookup note ⟨["due"]⟩ = v := by
  have hextract : extract "a.md" "- [ ] x [due:: 5]" =
      [⟨"a.md", 1, "x [due:: 5]", ' ', false, annotationsOf "x [due:: 5]".toList⟩] := rfl
  have htask := List.mem_of_mem_head? (congrArg List.head? hextract)
  have hfields : inlineFields "x [due:: 5]".toList = [(['d', 'u', 'e'], ['5'])] := by
    decide +kernel
  have hfield : (['d', 'u', 'e'], ['5']) ∈ inlineFields "x [due:: 5]".toList := by
    rw [hfields]
    exact List.mem_singleton_self _
  have hlower : lowercase ['d', 'u', 'e'] = ['d', 'u', 'e'] := lowercase_of_isLower (by simp)
  have hname : String.ofList ['d', 'u', 'e'] ∉ ownNames := by decide
  obtain ⟨v, hv, hall, -⟩ := lookup_inlineField_iff htask hfield hname
  rw [hlower] at hv
  exact ⟨_, htask, hfield, hname, v, hv, hall.mpr hlower⟩

/-- Under a key with a capital letter the note answers instead. -/
theorem note_answers_of_capital : ∃ task ∈ extract "a.md" "- [ ] x [Due:: 5]",
    (['D', 'u', 'e'], ['5']) ∈ inlineFields task.text.toList ∧ "Due" ∉ ownNames ∧
      task.annotations.find? "due" = some (.integer 5) ∧
      task.lookup ((Note.ofBody "a.md" "- [ ] x [Due:: 5]").withField "due" (.string "note"))
        ⟨["Due"]⟩ = .string "note" := by
  have hextract : extract "a.md" "- [ ] x [Due:: 5]" =
      [⟨"a.md", 1, "x [Due:: 5]", ' ', false, annotationsOf "x [Due:: 5]".toList⟩] := rfl
  have hfields : inlineFields "x [Due:: 5]".toList = [(['D', 'u', 'e'], ['5'])] := by
    decide +kernel
  have htext : fieldText? "x [Due:: 5]".toList "due" = some ['5'] := by decide +kernel
  have htask := List.mem_of_mem_head? (congrArg List.head? hextract)
  have hfield : (['D', 'u', 'e'], ['5']) ∈ inlineFields "x [Due:: 5]".toList := by
    rw [hfields]
    exact List.mem_singleton_self _
  have hlower : lowercase ['D', 'u', 'e'] ≠ ['D', 'u', 'e'] := fun hsame =>
    absurd (lowercase_eq_self_iff.mp hsame 'D' (List.mem_cons_self ..)) (by decide)
  obtain ⟨v, -, -, hlookup⟩ := lookup_inlineField htask hfield (by decide)
  refine ⟨_, htask, hfield, by decide, find?_of_fieldText? htext, ?_⟩
  exact (hlookup _).trans (if_neg hlower)

end Notebook.Task
