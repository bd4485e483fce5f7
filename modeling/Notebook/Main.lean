import Notebook.CommandLine.Basic

/-!
# The program

Reads the files that the arguments name and what is piped in, and prints the answer of
`Notebook.CommandLine.respond`.
-/

namespace Notebook.CommandLine

/-- The failure to read that an error of the system tells of. -/
def readFailure : IO.Error → ReadFailure
  | .noFileOrDirectory .. => .missing
  | .permissionDenied .. => .denied
  | .inappropriateType _ code _ => if code = 20 ∨ code = -20 then .notDirectory else .directory
  | .invalidArgument .. => .longName
  | e => .other (toString e)

/-- The text of the bytes that were read, or why there is none. -/
def attempt (read : IO ByteArray) : IO (Except ReadFailure String) := do
  try
    return match String.fromUTF8? (← read) with
      | some text => .ok text
      | none => .error .notText
  catch e =>
    return .error (readFailure e)

/-- Reads bytes to the end. -/
partial def readToEnd (stream : IO.FS.Stream) (bytes : ByteArray) : IO ByteArray := do
  let more ← stream.read 65536
  if more.isEmpty then return bytes else readToEnd stream (bytes ++ more)

/-- What a command can see. -/
def surroundings (invocation : Invocation) : IO Surroundings := do
  let files ← invocation.files.mapM fun (path : String) => do
    return (path, ← attempt (IO.FS.readBinFile path))
  let stdin ← IO.getStdin
  let input ←
    if invocation.readsInput && !(← stdin.isTty) then
      pure (some (← attempt (readToEnd stdin .empty)))
    else pure none
  return ⟨fun path => (files.lookup path).getD (.error .missing), input⟩

/-- Answers arguments, printing what there is to print. -/
def perform (arguments : List String) : IO UInt32 := do
  let seen ← match Invocation.ofArguments arguments with
    | .ok invocation => surroundings invocation
    | .error _ => pure ⟨fun _ => .error .missing, none⟩
  let response := respond seen arguments
  IO.eprint response.diagnostics
  IO.print response.output
  return response.code.toUInt32

end Notebook.CommandLine

/-- **The program.** -/
def main (arguments : List String) : IO UInt32 := Notebook.CommandLine.perform arguments
