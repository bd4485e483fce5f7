import Notebook.Proofs.Evaluation.Constant
import Notebook.Task.Basic

/-!
# The attributes of a file

A field path under `file` asks for what is known of the note as a file: its name, its path, its
times, the tags and the links in it. The front matter may have a key `name`, or even a key
`file.name`, and a task may have an annotation of any name; none of them is asked
(`Notebook.Note.lookup_file`). Only the tags of a note are declared in the front matter as well,
under `tags` or `tag`, and so they alone may change with it.

Hence a condition that asks for nothing else gives the same for a note and for all of its tasks,
whatever they say of themselves (`Notebook.Note.evaluate_file`).
-/

namespace Notebook.Note

open Evaluation Query

/-- That two notes **are one file**: nothing but the front matter tells them apart. -/
def SameFile (note other : Note) : Prop := other = { note with frontmatter := other.frontmatter }

/-- That two notes **declare alike**: both have the same entry for tags, whatever the case of its
key. -/
structure DeclareAlike (note other : Note) : Prop where
  /-- The entries under `tags` are the same. -/
  tags : note.field? "tags" = other.field? "tags"
  /-- The entries under `tag` are the same. -/
  tag : note.field? "tag" = other.field? "tag"

variable {note other : Note} {name : String}

/-! ### Attributes -/

/-- The tags of a file change with what is declared alone. -/
theorem tags_congr (hfile : SameFile note other) (hdeclare : DeclareAlike note other) :
    note.tags = other.tags := by
  have hbody : note.body = other.body := by rw [hfile]
  rw [tags, tags, declaredTags, declaredTags, inlineTags, inlineTags, hdeclare.tags, hdeclare.tag,
    hbody]

/-- **The attributes of a file do not change with the front matter**, but for the tags. -/
theorem fileAttribute_congr (hfile : SameFile note other)
    (htags : name = "tags" → DeclareAlike note other) :
    note.fileAttribute name = other.fileAttribute name := by
  by_cases hname : name = "tags"
  · subst hname
    rw [fileAttribute, fileAttribute, tags_congr hfile (htags rfl)]
  · rw [hfile]
    unfold fileAttribute
    split
    case h_9 => exact absurd rfl hname
    all_goals rfl

/-! ### Paths -/

/-- What a path under `file` stands for: an attribute if one name is left, else nothing. -/
theorem lookup_fileCons (note : Note) (name : String) (rest : List String) :
    note.lookup ⟨"file" :: name :: rest⟩ =
      if rest = [] then note.fileAttribute name else .absent := by
  cases rest <;> rfl

/-- **The namespace `file` cannot be taken over.** A path under it stands for the same in two notes
that are one file, and in any tasks of them; of all these paths `file.tags` alone may stand for
something else, and only where the two notes declare other tags. -/
theorem lookup_file (hfile : SameFile note other) {rest : List String}
    (htags : name :: rest = ["tags"] → DeclareAlike note other) (task task' : Task) :
    let path : FieldPath := ⟨"file" :: name :: rest⟩
    note.environment path = other.environment path ∧
      task.environment note path = note.environment path ∧
      task'.environment other path = note.environment path := by
  intro path
  have hsame : note.lookup path = other.lookup path := by
    rw [lookup_fileCons, lookup_fileCons]
    split
    · next hrest => exact fileAttribute_congr hfile fun hname => htags (by rw [hname, hrest])
    · rfl
  exact ⟨hsame, rfl, hsame.symm⟩

/-- The tags of a file whose front matter and task have keys of the names of attributes. -/
theorem lookup_file_of_shadows :
    let file := Note.ofBody "work/alpha.md" "#x [[b]]"
    let note := (file.withField "Tags" (.string "a, b")).withField "file.tags" (.string "shadow")
    let other := (file.withField "Tags" (.string "a, b")).withField "file" .null
    let task : Task := ⟨"work/alpha.md", 1, "t", ' ', false,
      Dictionary.empty.insert "file.tags" (.string "mine")⟩
    let path : FieldPath := ⟨["file", "tags"]⟩
    SameFile note other ∧ DeclareAlike note other ∧
      note.environment path = .list [.string "#a", .string "#b", .string "#x"] ∧
      note.environment path = other.environment path ∧
      task.environment note path = note.environment path ∧
      task.environment other path = note.environment path := by
  intro file note other task path
  have hfile : SameFile note other := rfl
  have hdeclare : DeclareAlike note other := ⟨rfl, rfl⟩
  have htags : note.tags = ["#a", "#b", "#x"] := by decide +kernel
  have hvalue : note.environment path = .list (note.tags.map .string) := rfl
  rw [htags] at hvalue
  exact ⟨hfile, hdeclare, hvalue, lookup_file hfile (fun _ => hdeclare) task task⟩

/-- The tags do change with the front matter. -/
example : (Note.ofBody "a.md" "").tags ≠
    ((Note.ofBody "a.md" "").withField "TAG" (.string "x")).tags := by
  decide +kernel

/-! ### Conditions on files -/

/-- **A condition on a file** has the same outcome for two notes that are one file, and for their
tasks: one whose fields are all under `file`, without `file.tags` unless the notes declare alike. -/
theorem evaluate_file (hfile : SameFile note other) {functions : Registry} {e : Expression}
    (he : ∀ path, .field path ∈ e.parts → ∃ name rest, path = ⟨"file" :: name :: rest⟩ ∧
      (name :: rest = ["tags"] → DeclareAlike note other)) (task task' : Task) :
    evaluate functions note.environment e = evaluate functions other.environment e ∧
      evaluate functions (task.environment note) e = evaluate functions note.environment e ∧
      evaluate functions (task'.environment other) e = evaluate functions note.environment e := by
  have hlookup : ∀ path, .field path ∈ e.parts →
      note.environment path = other.environment path ∧
        task.environment note path = note.environment path ∧
        task'.environment other path = note.environment path := by
    intro path hpath
    obtain ⟨name, rest, rfl, htags⟩ := he path hpath
    exact lookup_file hfile htags task task'
  exact ⟨evaluate_congr fun path hpath => (hlookup path hpath).1,
    evaluate_congr fun path hpath => (hlookup path hpath).2.1,
    evaluate_congr fun path hpath => (hlookup path hpath).2.2⟩

end Notebook.Note
