import Notebook.Evaluation.Basic
import Notebook.Note.Basic

/-!
# Fields of notes

What a field path stands for when a note is asked. Paths under `file` are the attributes of the note
itself, and nothing in the front matter can take their place; every other path is a key of the front
matter, also when it has dots. What is not there is absent.
-/

namespace Notebook.Note

open Query (FieldPath)

/-- A time as a value, absent when it is not known. -/
def timeValue : Option Calendar.Instant → Value
  | some t => .date t
  | none => .absent

/-- **An attribute of a note** by its name. -/
def fileAttribute (note : Note) (name : String) : Value :=
  match name with
  | "name" => .string note.name
  | "title" => .string note.shownTitle
  | "link" => .string note.link
  | "path" => .string note.path
  | "folder" => .string note.shownFolder
  | "size" => .integer (.ofNat (min note.shownSize (Nat.pow 2 63 - 1)))
  | "ctime" => timeValue note.created
  | "mtime" => timeValue note.modified
  | "tags" => .list (note.tags.map .string)
  | "outlinks" => .list (note.outlinks.map fun target => .string ("[[" ++ target ++ "]]"))
  | _ => .absent

/-- **What a field path stands for** when a note is asked. -/
def lookup (note : Note) (path : FieldPath) : Value :=
  match path.within? "file" with
  | some [name] => note.fileAttribute name
  | some _ => .absent
  | none => (note.field? path.text).getD .absent

/-- The fields of a note, for evaluation. -/
def environment (note : Note) : Evaluation.Environment := note.lookup

end Notebook.Note
