import Notebook.Json.Record
import Notebook.Note.Basic

/-!
# Notes as documents

How a note is written as a JSON object and read back. Only the path is required. The title, the
folder, the size, the identity and the times may be `null`; a key that is not known is passed over.
The path is brought into its normal form, and times are read in the relaxed form.
-/

namespace Notebook.Note

open Json

/-- The JSON document of a dictionary of values. -/
def valuesToJson (d : Dictionary Value) : Json :=
  .object (d.entries.map fun (key, value) => (key, value.toJson))

/-- **The document of a note.** -/
def toJson (note : Note) : Json :=
  .object
    [("path", .string note.path),
     ("permalink", ofOption .string note.permalink),
     ("title", ofOption .string note.title),
     ("folder", ofOption .string note.folder),
     ("frontmatter", valuesToJson note.frontmatter),
     ("body", .string note.body),
     ("size", ofOption (fun n : Nat => .integer n) note.size),
     ("created", ofOption (fun t => .string t.zuluText) note.created),
     ("modified", ofOption (fun t => .string t.zuluText) note.modified)]

/-- Reads a time stamp. -/
def readTime : Reader Calendar.Instant := fun s => do
  let (text, rest) ← readText s
  match Calendar.readRelaxed? text.toList with
  | some t => return (t, rest)
  | none => .error .mismatched

/-- The fields of a note. -/
def slots : List (Slot Note) :=
  [{ Slot.of "path" readText fun note path => { note with path := normalPath path } with
      required := true },
   .of "permalink" (readOptional readText) fun note permalink =>
     { note with permalink := permalink },
   .of "title" (readOptional readText) fun note title => { note with title := title },
   .of "folder" (readOptional readText) fun note folder => { note with folder := folder },
   { key := "frontmatter"
     read := fun depth note s => do
       let (frontmatter, rest) ←
         readMembers (fun key json (d : Dictionary Value) => d.insert key (Value.ofJson json))
           .empty depth s
       return ({ note with frontmatter := frontmatter }, rest) },
   .of "body" readText fun note body => { note with body := body },
   .of "size" (readOptional readNatural) fun note size => { note with size := size },
   .of "created" (readOptional readTime) fun note created => { note with created := created },
   .of "modified" (readOptional readTime) fun note modified => { note with modified := modified }]

/-- **Reads a note**, where `depth` brackets may be open. -/
def read (depth : Nat) : Reader Note := readRecord slots (ofBody "" "") depth

/-- The note that a text spells. -/
def ofText (text : String) : Except Fault Note := readAll (read maxDepth) text

end Notebook.Note
