import Notebook.Json.Record

/-!
# Configuration

What can be set: the languages of fenced queries, the word that inline queries start with, a bound
on the notes of a query, and whether rendered tasks link to their notes. Each setting has a default,
and a configuration file names those that it changes.
-/

namespace Notebook

open Json

/-- **A configuration.** -/
structure Configuration where
  /-- The languages of fenced code that hold queries, in any case of letters. -/
  fenceLanguages : List String := ["dataview"]
  /-- What an inline query starts with; there are none when missing. -/
  inlineMark : Option String := some "dv:"
  /-- How many notes a query looks at, at most. -/
  maxNotes : Option Nat := none
  /-- Whether a rendered task has a link to its note. -/
  taskLinks : Bool := true

namespace Configuration

/-- The settings. -/
def slots : List (Slot Configuration) :=
  [{ key := "fence_languages"
     read := fun depth c s => do
       let (languages, rest) ← readList (fun _ => readText) depth s
       return ({ c with fenceLanguages := languages }, rest) },
   .of "inline_prefix" (readOptional readText) fun c mark => { c with inlineMark := mark },
   .of "max_notes" (readOptional readNatural) fun c count => { c with maxNotes := count },
   .of "task_links" readBoolean fun c on => { c with taskLinks := on }]

/-- **The configuration that a text spells.** -/
def ofText (text : String) : Except Fault Configuration :=
  readAll (readRecord slots {} maxDepth) text

end Configuration

end Notebook
