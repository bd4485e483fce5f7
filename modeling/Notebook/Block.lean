import Notebook.Configuration
import Notebook.Markdown.CodeSpan
import Notebook.Markdown.Fence
import Notebook.Query.Reading
import Notebook.Unicode.Case

/-!
# Query blocks

The queries that are embedded in a document, in the order of their first lines: fenced code in one
of the configured languages, and code spans that start with the configured mark. Only their places
are found here; whether the text of a block is a query is not looked at.
-/

namespace Notebook

open Text

/-- How a block is written. -/
inductive Block.Kind
  /-- As fenced code. -/
  | fenced
  /-- As a code span. -/
  | inline
  deriving DecidableEq, Repr

/-- **A query block** in a document. -/
structure Block where
  /-- What the block is called, by its number in the document. -/
  id : String
  /-- How it is written. -/
  kind : Block.Kind
  /-- The text of the query. -/
  source : String
  /-- The first line. -/
  startLine : Nat
  /-- The last line. -/
  endLine : Nat
  deriving DecidableEq

namespace Block

/-! ### Detection -/

/-- **What is looked for** in a document. -/
structure Detector where
  /-- The languages of fenced queries, in lower case. -/
  languages : List (List Char)
  /-- What an inline query starts with. -/
  mark : Option (List Char)

/-- What a configuration looks for. A blank mark finds nothing. -/
def Detector.ofConfiguration (c : Configuration) : Detector where
  languages := c.fenceLanguages.map fun language => Unicode.lowercase language.toList
  mark := (c.inlineMark.map String.toList).filter (!isBlank ·)

/-- The language that an info string names: its first word, in lower case. -/
def languageOf (info : List Char) : List Char :=
  Unicode.lowercase ((trimStart info).takeWhile (!Unicode.isWhiteSpace ·))

/-- A block before it has a name. -/
structure Found where
  /-- How it is written. -/
  kind : Kind
  /-- The text of the query. -/
  source : List Char
  /-- The first line. -/
  startLine : Nat
  /-- The last line. -/
  endLine : Nat

/-- The inline queries on a line. -/
def Detector.inlineOn (detector : Detector) (number : Nat) (line : List Char) : List Found :=
  match detector.mark with
  | none => []
  | some mark =>
    (Markdown.codeSpans line).filterMap fun span =>
      (mark.isPrefixOf? (trimStart span)).map fun source =>
        ⟨.inline, trim source, number, number⟩

/-- A region of fenced code that the lines so far leave open. -/
structure OpenRegion where
  /-- Its fence. -/
  fence : Markdown.Fence
  /-- The line of the fence. -/
  startLine : Nat
  /-- The lines inside it so far, the last one first. -/
  inside : List (List Char)

/-- The block of a region that ends with a line, if its language is one that is looked for. -/
def Detector.fencedBlock (detector : Detector) (region : OpenRegion) (endLine : Nat) : List Found :=
  if detector.languages.contains (languageOf region.fence.info) then
    [⟨.fenced, joinWith ['\n'] region.inside.reverse, region.startLine, endLine⟩]
  else []

/-- The blocks that end on the given lines or after them. A region that nothing closes ends with the
last line. -/
def Detector.scan (detector : Detector) (number : Nat) (region : Option OpenRegion) :
    List (List Char) → List Found
  | [] =>
    match region with
    | some region => detector.fencedBlock region (number - 1)
    | none => []
  | line :: lines =>
    match region with
    | some region =>
      if region.fence.closedBy line then
        detector.fencedBlock region number ++ detector.scan (number + 1) none lines
      else
        detector.scan (number + 1) (some { region with inside := line :: region.inside }) lines
    | none =>
      match Markdown.fence? line with
      | some fence => detector.scan (number + 1) (some ⟨fence, number, []⟩) lines
      | none => detector.inlineOn number line ++ detector.scan (number + 1) none lines

/-- Blocks with their names, counted from `count`. -/
def named (count : Nat) : List Found → List Block
  | [] => []
  | found :: rest =>
    ⟨"dv-" ++ Number.digitsOf count, found.kind, String.ofList found.source, found.startLine,
      found.endLine⟩ :: named (count + 1) rest

/-- **The query blocks of a document**, in order. -/
def Detector.detect (detector : Detector) (document : String) : List Block :=
  named 1 (detector.scan 1 none (lines document.toList))

/-- The query that a block spells. -/
def query (block : Block) : Except Query.SyntaxError Query := Query.parse block.source

/-- The word for a way of writing a block. -/
def Kind.text : Kind → String
  | fenced => "fenced"
  | inline => "inline"

/-- **The document of a block.** -/
def toJson (block : Block) : Json :=
  .object
    [("id", .string block.id), ("kind", .string block.kind.text), ("source", .string block.source),
     ("start_line", .integer block.startLine), ("end_line", .integer block.endLine)]

end Block

end Notebook
