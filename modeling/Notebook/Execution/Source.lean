import Notebook.Note.Basic
import Notebook.Query.Basic

/-!
# Which notes a source has

The meaning of a source: a test of single notes. A folder has the notes in it and in the folders
inside it, by whole names, and the note whose path it is, with or without the ending `.md`; the
nameless folder has every note.
-/

namespace Notebook

open Text

/-- Whether a note is in a folder, or is the file that the folder names. -/
def Note.isIn (note : Note) (folder : String) : Bool :=
  let folder := dropAroundWhile (· == '/') folder.toList
  let path := note.path.toList
  let own := note.shownFolder.toList
  folder.isEmpty || own == folder || (folder ++ ['/']).isPrefixOf own || path == folder ||
    path == folder ++ ['.', 'm', 'd']

/-- **Whether a source has a note.** -/
def Query.Source.has (note : Note) : Query.Source → Bool
  | folder path => note.isIn path
  | tag name => note.hasTag name
  | link target => note.linksTo target
  | both left right => left.has note && right.has note
  | either left right => left.has note || right.has note
  | other source => !source.has note

end Notebook
