/-!
# Arguments

What the arguments of the program ask for. A `Notebook.CommandLine.Grammar` lists the switches and
options that may stand among them; each may be given once, an option takes its value from the same
argument or from the next one, and after `--` every argument is an operand. Arguments are read from
left to right, and the first one that is wrong, or that asks for help, decides.

The name of a command ends the arguments of the program, and the rest are those of the command. An
option of both kinds that is given twice counts where it stands last.
-/

namespace Notebook.CommandLine

/-- Why arguments name no command to run. -/
inductive Notice
  /-- They ask for help. -/
  | help
  /-- They ask for the version. -/
  | version
  /-- They cannot be understood. -/
  | misuse
  deriving DecidableEq, Repr

/-! ### Grammars -/

/-- **What may stand among arguments.** -/
structure Grammar where
  /-- The words of the switches. -/
  switches : List String := []
  /-- The words of the options, which take a value, and their letters. -/
  options : List (String × Option Char) := []
  /-- How many operands there may be. -/
  operands : Nat := 0
  /-- Whether an operand may be empty. -/
  emptyOperands : Bool := false
  /-- Whether the version may be asked for. -/
  version : Bool := false

/-- What was found among arguments. -/
structure Given where
  /-- The switches. -/
  switches : List String := []
  /-- The options with their values. -/
  options : List (String × String) := []
  /-- The operands in order. -/
  operands : List String := []

/-- Whether an argument stands for a switch or an option; a lone hyphen does not. -/
def isMarked (argument : String) : Bool :=
  match argument.toList with
  | '-' :: _ :: _ => true
  | _ => false

/-- The word before the first equals sign, and the value after it if there is one. -/
def splitValue (cs : List Char) : String × Option String :=
  match cs.span (· != '=') with
  | (word, _ :: value) => (String.ofList word, some (String.ofList value))
  | (word, []) => (String.ofList word, none)

/-- Adds a switch. -/
def Given.addSwitch (given : Given) (word : String) : Except Notice Given :=
  if given.switches.contains word then .error .misuse
  else .ok { given with switches := given.switches ++ [word] }

/-- Adds an option with its value, which may not be empty. -/
def Given.addOption (given : Given) (word value : String) : Except Notice Given :=
  if value.isEmpty || given.options.any (·.1 == word) then .error .misuse
  else .ok { given with options := given.options ++ [(word, value)] }

namespace Grammar

/-- Adds an operand. -/
def addOperand (grammar : Grammar) (given : Given) (operand : String) : Except Notice Given :=
  if operand.isEmpty && !grammar.emptyOperands then .error .misuse
  else .ok { given with operands := given.operands ++ [operand] }

/-- Whether another operand may follow. -/
def hasRoom (grammar : Grammar) (given : Given) : Bool := given.operands.length < grammar.operands

/-- Reads arguments that are all operands. -/
def readOperands (grammar : Grammar) (given : Given) : List String → Except Notice Given
  | [] => .ok given
  | operand :: rest => do
    if !grammar.hasRoom given then .error .misuse
    else grammar.readOperands (← grammar.addOperand given operand) rest

/-- What an argument with a mark stands for. -/
inductive Marked
  /-- A switch. -/
  | switch (word : String)
  /-- An option with its value. -/
  | option (word value : String)
  /-- An option whose value is the next argument. -/
  | openOption (word : String)

/-- What an argument stands for after two hyphens. -/
def readWord (grammar : Grammar) (cs : List Char) : Except Notice Marked :=
  match splitValue cs with
  | (word, none) =>
    if word = "help" then .error .help
    else if grammar.version && word = "version" then .error .version
    else if grammar.switches.contains word then .ok (.switch word)
    else if grammar.options.any (·.1 == word) then .ok (.openOption word)
    else .error .misuse
  | (word, some value) =>
    if grammar.options.any (·.1 == word) then .ok (.option word value) else .error .misuse

/-- What an argument stands for after one hyphen: a letter, and what follows it. -/
def readLetter (grammar : Grammar) (letter : Char) (more : List Char) : Except Notice Marked :=
  if letter = 'h' then .error .help
  else if grammar.version && letter = 'V' then .error .version
  else
    match grammar.options.find? (·.2 == some letter), more with
    | some (word, _), [] => .ok (.openOption word)
    | some (word, _), '=' :: value => .ok (.option word (String.ofList value))
    | some (word, _), value => .ok (.option word (String.ofList value))
    | none, _ => .error .misuse

/-- What an argument with a mark stands for. -/
def readMarked (grammar : Grammar) (argument : String) : Except Notice Marked :=
  match argument.toList with
  | '-' :: '-' :: cs => grammar.readWord cs
  | '-' :: letter :: more => grammar.readLetter letter more
  | _ => .error .misuse

/-- **Reads arguments** up to the first operand for which there is no room: what was found, and the
arguments from that operand on. -/
def read (grammar : Grammar) (given : Given) : List String → Except Notice (Given × List String)
  | [] => .ok (given, [])
  | argument :: rest =>
    if argument = "--" then do return (← grammar.readOperands given rest, [])
    else if isMarked argument then do
      match ← grammar.readMarked argument with
      | .switch word => grammar.read (← given.addSwitch word) rest
      | .option word value => grammar.read (← given.addOption word value) rest
      | .openOption word =>
        match rest with
        | [] => .error .misuse
        | value :: rest =>
          if isMarked value then .error .misuse
          else grammar.read (← given.addOption word value) rest
    else if grammar.hasRoom given then do
      grammar.read (← grammar.addOperand given argument) rest
    else .ok (given, argument :: rest)

end Grammar

/-! ### Commands -/

/-- **A command.** -/
inductive Command
  /-- Checks a query, and on demand its calls, and prints it in canonical form. -/
  | check (query : String) (calls : Bool)
  /-- Runs a query over the notes of a file. -/
  | run (query notes : String) (json : Bool)
  /-- Runs the query blocks of a document over the notes of a file. -/
  | render (document : Option String) (notes : String) (summary json : Bool)
  deriving DecidableEq, Repr

/-- **A command with the file of the configuration.** -/
structure Invocation where
  /-- The file of the configuration, if one is named. -/
  configuration : Option String
  /-- The command. -/
  command : Command
  deriving DecidableEq, Repr

/-- The option that names the file of the configuration. -/
def configurationOption : String × Option Char := ("config", none)

/-- The option that names the file of the notes. -/
def notesOption : String × Option Char := ("notes", some 'n')

/-- The arguments of the program. -/
def programGrammar : Grammar where
  options := [configurationOption]
  version := true

/-- The arguments of a command. -/
def commandGrammar? : String → Option Grammar
  | "check" => some {
      switches := ["functions"], options := [configurationOption], operands := 1,
      emptyOperands := true }
  | "run" => some {
      switches := ["json"], options := [configurationOption, notesOption], operands := 1,
      emptyOperands := true }
  | "render" => some {
      switches := ["summary", "json"], options := [configurationOption, notesOption],
      operands := 1 }
  | _ => none

/-- The command of a name with what was found among its arguments, if nothing is missing. -/
def commandOf? (name : String) (given : Given) : Option Command :=
  match name, given.operands, given.options.lookup "notes" with
  | "check", [query], _ => some (.check query (given.switches.contains "functions"))
  | "run", [query], some notes => some (.run query notes (given.switches.contains "json"))
  | "render", operands, some notes =>
    some (.render operands.head? notes (given.switches.contains "summary")
      (given.switches.contains "json"))
  | _, _, _ => none

/-- **What arguments ask for.** -/
def Invocation.ofArguments (arguments : List String) : Except Notice Invocation := do
  match ← programGrammar.read {} arguments with
  | (_, []) => .error .misuse
  | (outer, name :: rest) =>
    match commandGrammar? name with
    | none =>
      .error (if name = "help" && rest.length ≤ 1 && rest.all (commandGrammar? · |>.isSome)
        then .help else .misuse)
    | some grammar =>
      match ← grammar.read {} rest with
      | (given, []) =>
        match commandOf? name given with
        | some command =>
          .ok ⟨(given.options.lookup "config").or (outer.options.lookup "config"), command⟩
        | none => .error .misuse
      | (_, _ :: _) => .error .misuse

end Notebook.CommandLine
