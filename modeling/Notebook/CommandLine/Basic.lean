import Notebook.CommandLine.Arguments
import Notebook.Engine

/-!
# The command line

The answer of the program to its arguments: a code, what it prints, and what it prints beside that.
`Notebook.CommandLine.Surroundings` holds what the program can see, so the answer is a function of
it.

A command reads the document first, then the configuration, then the notes, and reports the first
problem on the way. A query block of a document that fails is no problem of the command.
-/

namespace Notebook.CommandLine

open Execution Report

/-! ### Surroundings -/

/-- Why something cannot be read. -/
inductive ReadFailure
  /-- There is no such file. -/
  | missing
  /-- Reading the file is not allowed. -/
  | denied
  /-- It is a directory. -/
  | directory
  /-- Something on the way to it is no directory. -/
  | notDirectory
  /-- Its name is longer than names may be. -/
  | longName
  /-- Its bytes are not text. -/
  | notText
  /-- Anything else, with its wording. -/
  | other (description : String)

/-- The wording of a failure to read. -/
def ReadFailure.message : ReadFailure → String
  | missing => "No such file or directory (os error 2)"
  | denied => "Permission denied (os error 13)"
  | directory => "Is a directory (os error 21)"
  | notDirectory => "Not a directory (os error 20)"
  | longName => "File name too long (os error 36)"
  | notText => "stream did not contain valid UTF-8"
  | other description => description

/-- **What the program can see.** -/
structure Surroundings where
  /-- The text of a file. -/
  file : String → Except ReadFailure String
  /-- The text that is piped in, if any is. -/
  input : Option (Except ReadFailure String)

/-! ### Failures -/

/-- **Why a command fails.** -/
inductive Failure
  /-- A query fails. -/
  | query (e : QueryError)
  /-- The file of the configuration cannot be read. -/
  | unreadableConfiguration (why : ReadFailure)
  /-- The file of the configuration holds none. -/
  | configuration (fault : Json.Fault)
  /-- A file cannot be read. -/
  | unreadable (path : String) (why : ReadFailure)
  /-- The file of the notes holds none. -/
  | notes (path : String) (fault : Json.Fault)
  /-- What is piped in cannot be read. -/
  | unreadableInput (why : ReadFailure)
  /-- There is no document, or a blank one. -/
  | noDocument

/-- The wording of a fault in a JSON text. -/
def faultText : Json.Fault → String
  | .ended => "the text ends too early"
  | .malformed => "the text is not JSON"
  | .mismatched => "the text has another shape"

/-- **The wording of a failure.** -/
def Failure.message : Failure → String
  | query e => e.message
  | unreadableConfiguration why => "Cannot read config file: " ++ why.message
  | configuration fault => "Invalid config file: " ++ faultText fault
  | unreadable path why => "Cannot read " ++ path ++ ": " ++ why.message
  | notes path fault => "Invalid notes file " ++ path ++ ": " ++ faultText fault
  | unreadableInput why => "IO error: " ++ why.message
  | noDocument => "No document provided. Pass a file or pipe markdown to stdin."

/-! ### Commands -/

/-- The configuration of a file, or the defaults when no file is named. -/
def loadConfiguration (s : Surroundings) : Option String → Except Failure Configuration
  | none => .ok {}
  | some path => do
    let text ← (s.file path).mapError .unreadableConfiguration
    (Configuration.ofText text).mapError .configuration

/-- The notes of a file. -/
def loadNotes (s : Surroundings) (path : String) : Except Failure Collection := do
  let text ← (s.file path).mapError (.unreadable path)
  (Collection.ofText text).mapError (.notes path)

/-- The text of a document: that of a file, or what is piped in when no file is named. -/
def loadDocument (s : Surroundings) : Option String → Except Failure String
  | some path => (s.file path).mapError (.unreadable path)
  | none =>
    match s.input with
    | some input => input.mapError .unreadableInput
    | none => .error .noDocument

/-- **Processes a document**, unless it is blank. -/
def processDocument (engine : Engine) (document : String) (notes : Collection) :
    Except Failure Engine.DocumentReport :=
  if Text.isBlank document.toList then .error .noDocument
  else .ok (engine.processDocument document notes)

/-- **The answer of the program.** -/
structure Response where
  /-- The code: 0 for success, 1 for a failure, 2 when the arguments cannot be understood, and 101
  for a breakdown. -/
  code : Nat
  /-- What it prints. -/
  output : String
  /-- What it prints beside that. -/
  diagnostics : String
  deriving DecidableEq, Repr

/-- The answer of a command that succeeds, with what it prints beside the output. -/
def success (output : String) (diagnostics : String) : Response := ⟨0, output ++ "\n", diagnostics⟩

/-- The summaries of outcomes, one to a line. -/
def summaryLines (outcomes : List Outcome) : String :=
  String.join (outcomes.map fun outcome => outcome.summary.line ++ "\n")

/-- The answer to a query, in one of two forms. -/
def runCommand (s : Surroundings) (configuration : Option String) (query notes : String)
    (json : Bool) : Except Failure Response := do
  let engine := Engine.ofConfiguration (← loadConfiguration s configuration)
  let collection ← loadNotes s notes
  let query ← (Query.parse query).mapError fun e => .query (.syntaxError e)
  let result ← (engine.execute query collection).mapError .query
  return success (if json then result.toJson.prettyText else engine.render query result) ""

/-- The answer to a document, in one of two forms. -/
def renderCommand (s : Surroundings) (configuration document : Option String) (notes : String)
    (summary json : Bool) : Except Failure Response := do
  let document ← loadDocument s document
  let engine := Engine.ofConfiguration (← loadConfiguration s configuration)
  let collection ← loadNotes s notes
  let report ← processDocument engine document collection
  let output :=
    if json then (Json.array (report.blocks.map Outcome.toJson)).prettyText else report.rendered
  return success output (if summary then summaryLines report.blocks else "")

/-- **Runs a command.** -/
def Invocation.run (s : Surroundings) (invocation : Invocation) : Except Failure Response :=
  match invocation.command with
  | .check query calls => do
    let query ← ((Engine.ofConfiguration {}).check calls query).mapError .query
    return success query.text ""
  | .run query notes json => runCommand s invocation.configuration query notes json
  | .render document notes summary json =>
    renderCommand s invocation.configuration document notes summary json

/-! ### The program -/

/-- How the program is used. -/
def usage : String :=
  "Query Markdown notes with TABLE, LIST and TASK queries\n\n" ++
  "Usage: notebook [--config FILE] COMMAND\n\n" ++
  "Commands:\n" ++
  "  check QUERY [--functions]\n" ++
  "  run QUERY --notes FILE [--json]\n" ++
  "  render [DOCUMENT] --notes FILE [--summary] [--json]\n"

/-- What the program says of itself. -/
def versionText : String := "notebook 0.1.0\n"

/-- **The answer of the program to its arguments.** -/
def respond (s : Surroundings) (arguments : List String) : Response :=
  match Invocation.ofArguments arguments with
  | .error .help => ⟨0, usage, ""⟩
  | .error .version => ⟨0, versionText, ""⟩
  | .error .misuse => ⟨2, "", usage⟩
  | .ok invocation =>
    match invocation.run s with
    | .ok response => response
    -- nothing on the way catches a breakdown: it ends the program
    | .error (.query (.unexpected message)) => ⟨101, "", message ++ "\n"⟩
    | .error failure => ⟨1, "", failure.message ++ "\n"⟩

/-- The files that a command reads. -/
def Invocation.files (invocation : Invocation) : List String :=
  match invocation.command with
  | .check .. => []
  | .run _ notes _ => invocation.configuration.toList ++ [notes]
  | .render document notes .. => document.toList ++ invocation.configuration.toList ++ [notes]

/-- Whether a command reads what is piped in. -/
def Invocation.readsInput (invocation : Invocation) : Bool :=
  invocation.command matches .render none _ _ _

end Notebook.CommandLine
