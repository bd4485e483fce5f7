import Notebook.Note.Document
import Notebook.Note.Attribute
import Notebook.Task.Line

/-!
# Tasks

The tasks of a note: one for each task line outside of fenced code, with the number of its line and
its annotations. An inline field is kept under its key in lower case, a later one replacing an
earlier one; a marked date is kept under what it says unless an inline field has that key; the tags
are kept together under `tags`.

A condition on tasks sees the task first and the note that holds it second:
`Notebook.Task.environment`.
-/

namespace Notebook

open Text Unicode

/-- **A task.** -/
structure Task where
  /-- The path of the note. -/
  path : String
  /-- The line of the body, from 1. -/
  line : Nat
  /-- The text after the box. -/
  text : String
  /-- The character in the box. -/
  status : Char
  /-- Whether the task is done. -/
  completed : Bool
  /-- The annotations in the text. -/
  annotations : Dictionary Value

namespace Task

/-! ### Annotations -/

/-- The inline fields of a text, by their keys in lower case. -/
def fieldAnnotations (cs : List Char) : Dictionary Value :=
  .ofList ((inlineFields cs).map fun field =>
    (String.ofList (lowercase field.1), typedValue field.2))

/-- Annotations with a marked date, unless there is no such day or its key is taken. -/
def addDate (d : Dictionary Value) (mark : String × List Char) : Dictionary Value :=
  match d.find? mark.1, Calendar.readDate? mark.2 with
  | none, some t => d.insert mark.1 (.date t)
  | _, _ => d

/-- Annotations with tags, if there are any. -/
def addTags (d : Dictionary Value) (names : List (List Char)) : Dictionary Value :=
  if names.isEmpty then d
  else d.insert "tags" (.list (names.map fun name => .string (String.ofList ('#' :: name))))

/-- **The annotations in a text.** -/
def annotationsOf (cs : List Char) : Dictionary Value :=
  addTags ((markedDates cs).foldl addDate (fieldAnnotations cs))
    (Markdown.tagNames isWhiteSpace cs)

/-! ### Extraction -/

/-- The task on a numbered line, if it is a task line. -/
def ofLine? (path : String) (number : Nat) (line : List Char) : Option Task :=
  (taskLine? line).map fun (status, text) =>
    { path := path
      line := number
      text := String.ofList text
      status := status
      completed := status == 'x' || status == 'X'
      annotations := annotationsOf text }

/-- **The tasks in a body**, in the order of their lines. -/
def extract (path body : String) : List Task :=
  (Markdown.plainLines body.toList).filterMap fun (number, line) => ofLine? path number line

/-! ### Fields -/

/-- **A field of a task** by its name. -/
def field? (task : Task) (name : String) : Option Value :=
  match name with
  | "text" => some (.string task.text)
  | "completed" => some (.boolean task.completed)
  | "checked" => some (.boolean (task.status != ' '))
  | "status" => some (.string task.status.toString)
  | "line" => some (.integer (.ofNat task.line))
  | _ => task.annotations.find? name

/-- What a field path stands for when a task of a note is asked. -/
def lookup (task : Task) (note : Note) (path : Query.FieldPath) : Value :=
  match path.segments with
  | [name] => (task.field? name).getD (note.lookup path)
  | _ => note.lookup path

/-- The fields of a task of a note, for evaluation. -/
def environment (task : Task) (note : Note) : Evaluation.Environment := task.lookup note

/-- **The document of a task.** -/
def toJson (task : Task) : Json :=
  .object
    [("path", .string task.path), ("line", .integer task.line), ("text", .string task.text),
     ("status", .string task.status.toString), ("completed", .boolean task.completed),
     ("annotations", Note.valuesToJson task.annotations)]

end Task

end Notebook
