import Notebook.Dictionary
import Notebook.Markdown.Fence
import Notebook.Markdown.Inline
import Notebook.Unicode.Case
import Notebook.Value.Basic

/-!
# Notes

A note is a path, a body of Markdown, front matter, and what a host may know besides: a lasting
identity, a title, a folder, a size and two times. What the note does not say is derived: its name
and its folder from the path, its title from the name, its size from the body.

Tags are declared in the front matter or written in the body, links are written in the body; both
are listed in the order of their first occurrence, once for all spellings that differ in the case of
the letters `A` to `Z`.
-/

namespace Notebook

open Text Unicode

/-- **A note.** -/
structure Note where
  /-- The path, with slashes between its parts. -/
  path : String
  /-- The lasting identity, if the host has one. -/
  permalink : Option String
  /-- The title. -/
  title : Option String
  /-- The folder, if it is not that of the path. -/
  folder : Option String
  /-- The front matter. -/
  frontmatter : Dictionary Value
  /-- The Markdown text. -/
  body : String
  /-- The size in bytes. -/
  size : Option Nat
  /-- The time of creation. -/
  created : Option Calendar.Instant
  /-- The time of the last change. -/
  modified : Option Calendar.Instant

namespace Note

/-! ### Paths -/

/-- **The normal form of a path**: no white space around it, no step into the present folder at its
start, and slashes for backslashes. -/
def normalPath (path : String) : String :=
  String.ofList
    ((dropRepeated ['.', '/'] (trim path.toList)).map fun c => if c = '\\' then '/' else c)

/-- The note with a path and a body and nothing else. -/
def ofBody (path body : String) : Note :=
  ⟨normalPath path, none, none, none, .empty, body, none, none, none⟩

/-! ### What a note is called -/

/-- **What a note is known by**: its permalink, else its path. -/
def identity (note : Note) : String := note.permalink.getD note.path

/-- The name of a file without the ending after its last dot, unless nothing is before that dot. -/
def stem (file : List Char) : List Char :=
  match splitLast? '.' file with
  | some (before, _) => if before.isEmpty then file else before
  | none => file

/-- **The name of a note**: that of its file. -/
def name (note : Note) : String := String.ofList (stem (afterLast '/' note.path.toList))

/-- **The title that is shown**: the title, unless it is blank, else the name. -/
def shownTitle (note : Note) : String :=
  match note.title with
  | some title => if isBlank title.toList then note.name else title
  | none => note.name

/-- **The folder of a note**: the one it names, without slashes around it, else that of its path. -/
def shownFolder (note : Note) : String :=
  match note.folder with
  | some folder => String.ofList (dropAroundWhile (· == '/') folder.toList)
  | none =>
    match splitLast? '/' note.path.toList with
    | some (before, _) => String.ofList before
    | none => ""

/-- **The link to a note.** -/
def link (note : Note) : String := "[[" ++ note.shownTitle ++ "]]"

/-- The size that is given, else that of the body. -/
def shownSize (note : Note) : Nat := note.size.getD note.body.utf8ByteSize

/-! ### Front matter -/

/-- **A field of the front matter**: the one with this very key, else the first one whose key
differs in the case of letters alone. -/
def field? (note : Note) (key : String) : Option Value :=
  (note.frontmatter.find? key).or
    ((note.frontmatter.entries.find? fun entry =>
      equalIgnoringAsciiCase entry.1.toList key.toList).map Prod.snd)

/-! ### Tags and links -/

/-- Items with one more at the end, unless it is empty or they hold it up to the case of letters. -/
def pushNew (items : List (List Char)) (item : List Char) : List (List Char) :=
  if item.isEmpty || items.any (equalIgnoringAsciiCase · item) then items else items ++ [item]

/-- Items in order, each once up to the case of letters. -/
def distinct (items : List (List Char)) : List (List Char) := items.foldl pushNew []

/-- The parts of a declaration of tags, between commas and blanks, without white space around them
and number signs before them. -/
def declaredParts (declaration : String) : List (List Char) :=
  ((splitWhere (fun c => c == ',' || c == ' ') declaration.toList).map fun part =>
    (trim part).dropWhile (· == '#')).filter (!·.isEmpty)

/-- The tags that the front matter declares, under `tags` or else under `tag`, as one text or as a
list. -/
def declaredTags (note : Note) : List (List Char) :=
  match (note.field? "tags").or (note.field? "tag") with
  | some (.string s) => declaredParts s
  | some (.list items) => items.flatMap fun item => declaredParts item.text
  | _ => []

/-- The tags in the body. -/
def inlineTags (note : Note) : List (List Char) :=
  (Markdown.plainLines note.body.toList).flatMap fun line =>
    Markdown.tagNames Markdown.leadsTag line.2

/-- **The tags of a note**, with their number signs. -/
def tags (note : Note) : List String :=
  (distinct ((note.declaredTags ++ note.inlineTags).map ('#' :: ·))).map String.ofList

/-- **The targets of the links of a note.** -/
def outlinks (note : Note) : List String :=
  (distinct ((Markdown.plainLines note.body.toList).flatMap fun line =>
    (Markdown.linkTargets line.2).map trim)).map String.ofList

/-- A tag without number signs, in lower case. -/
def plainTag (tag : String) : List Char := lowercase (tag.toList.dropWhile (· == '#'))

/-- **Whether a note has a tag**, or one that is nested in it. -/
def hasTag (note : Note) (tag : String) : Bool :=
  let wanted := plainTag tag
  note.tags.any fun t => plainTag t == wanted || (wanted ++ ['/']).isPrefixOf (plainTag t)

/-- A link target without the ending of a Markdown file, in lower case. -/
def plainTarget (target : List Char) : List Char :=
  lowercase (dropEndRepeated ['.', 'm', 'd'] target)

/-- **Whether a note links to a target**: one of its links is the target, or ends in it after a
slash. -/
def linksTo (note : Note) (target : String) : Bool :=
  let wanted := plainTarget (trim target.toList)
  note.outlinks.any fun l =>
    let l := plainTarget l.toList
    l == wanted || afterLast '/' l == wanted

/-! ### Changes -/

/-- The note with a field of its front matter set. -/
def withField (note : Note) (key : String) (value : Value) : Note :=
  { note with frontmatter := note.frontmatter.insert key value }

end Note

end Notebook
