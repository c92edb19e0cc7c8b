import CallTrace.Replay.Run

/-!
# The command line

The command `replay` replays a recording. Options may stand before and after the recording, with
their value attached or in the next argument, and after `--` all arguments are positional. The value
of an option and the recording are looked at when something known follows or at the end, so that an
unknown argument comes first. `run` is the whole program on a file system.
-/

namespace CallTrace.CommandLine

/-! ## Usage -/

structure ReplayOptions where
  config : String
  output : Option String
  recording : String
deriving DecidableEq, Repr

/-- Why there is nothing to replay. Asking for help counts here too. -/
inductive UsageError
  | invalidSubcommand
  | unknownArgument
  | invalidValue
  | tooManyValues
  | missingRequiredArgument
  | argumentConflict
  | displayHelp
  | displayHelpOnMissingArgumentOrSubcommand
deriving DecidableEq, Repr

/-! ## Arguments -/

inductive Argument
  | escape
  | long (name : List Char) (value : Option (List Char))
  | short (letter : Char) (rest : List Char)
  | plain
deriving DecidableEq, Repr

/-- The name of a long option and the value after its equals sign. -/
def longArgument (text : List Char) : Argument :=
  let (name, rest) := text.span (· != '=')
  .long name (if rest.isEmpty then none else some (rest.drop 1))

def argument (text : String) : Argument :=
  match text.toList with
  | ['-', '-'] => .escape
  | '-' :: '-' :: name => longArgument name
  | '-' :: letter :: rest => .short letter rest
  | _ => .plain

/-- What a replay takes a value for. -/
inductive Slot
  | config
  | output
  | recording
deriving DecidableEq, Repr

/-- The options that take a value, by letter and name. -/
def slotOfLetter? : Char → Option Slot
  | 'c' => some .config
  | 'o' => some .output
  | _ => none

def slotOfName? (name : List Char) : Option Slot :=
  if name = "config".toList then some .config
  else if name = "output".toList then some .output
  else none

/-- The value attached to a letter, without the equals sign that may stand before it. -/
def attachedValue? : List Char → Option String
  | [] => none
  | '=' :: value => some (String.ofList value)
  | value => some (String.ofList value)

/-! ## The arguments of a replay -/

/-- What was read so far. A slot is pending until its value is looked at, and may still lack one. -/
structure Draft where
  config : Option String
  output : Option String
  recording : Option String
  pending : Option (Slot × Option String)
  named : Bool
deriving DecidableEq, Repr

namespace Draft

def empty : Draft := ⟨none, none, none, none, false⟩

def get? (d : Draft) : Slot → Option String
  | .config => d.config
  | .output => d.output
  | .recording => d.recording

def set (d : Draft) (slot : Slot) (value : String) : Draft :=
  match slot with
  | .config => { d with config := some value }
  | .output => { d with output := some value }
  | .recording => { d with recording := some value }

/-- Gives a slot its value. It may not have one already, and a path may not be empty. -/
def assign (d : Draft) (slot : Slot) (value : String) : Except UsageError Draft :=
  if (d.get? slot).isSome then .error .argumentConflict
  else if slot ≠ .config ∧ value.isEmpty then .error .invalidValue
  else .ok (d.set slot value)

/-- Looks at what is pending. -/
def resolve (d : Draft) : Except UsageError Draft :=
  match d.pending with
  | none => .ok d
  | some (_, none) => .error .invalidValue
  | some (slot, some value) => { d with pending := none }.assign slot value

def option (d : Draft) (slot : Slot) (value : Option String) : Except UsageError Draft := do
  let d ← d.resolve
  match value with
  | some v => d.assign slot v
  | none => .ok { d with pending := some (slot, none) }

def help (d : Draft) : Except UsageError Draft := do
  let _ ← d.resolve
  .error .displayHelp

/-- A positional argument. There is room for one, the recording. -/
def positional (d : Draft) (value : String) : Except UsageError Draft :=
  if d.named then .error .unknownArgument
  else do
    let d ← d.resolve
    .ok { d with pending := some (.recording, some value), named := true }

/-- A value or a positional argument. -/
def plain (d : Draft) (value : String) : Except UsageError Draft :=
  match d.pending with
  | some (slot, none) => .ok { d with pending := some (slot, some value) }
  | _ => d.positional value

/-- An argument before `--`. -/
def read (d : Draft) (text : String) : Except UsageError Draft :=
  match argument text with
  | .long name value =>
    match slotOfName? name with
    | some slot => d.option slot (value.map String.ofList)
    | none =>
      if name = "help".toList then
        if value.isSome then .error .tooManyValues else d.help
      else .error .unknownArgument
  | .short letter rest =>
    match slotOfLetter? letter with
    | some slot => d.option slot (attachedValue? rest)
    | none => if letter = 'h' then d.help else .error .unknownArgument
  | .escape | .plain => d.plain text

/-- All arguments; `escaped` tells whether `--` was among those before. -/
def readAll (escaped : Bool) (d : Draft) : List String → Except UsageError Draft
  | [] => .ok d
  | text :: rest =>
    if escaped then do
      let d ← d.positional text
      d.readAll true rest
    else if argument text = .escape then d.readAll true rest
    else do
      let d ← d.read text
      d.readAll false rest

/-- What to do once all arguments are read. -/
def finish (d : Draft) : Except UsageError ReplayOptions := do
  let d ← d.resolve
  match d.recording with
  | some recording => .ok ⟨d.config.getD "", d.output, recording⟩
  | none => .error .missingRequiredArgument

end Draft

/-- What the arguments after the subcommand ask for. -/
def parseReplay (args : List String) : Except UsageError ReplayOptions := do
  let d ← Draft.empty.readAll false args
  d.finish

/-! ## All arguments -/

def isSubcommand (name : String) : Bool := name == "replay" || name == "help"

/-- What the arguments of the help subcommand give: help, if they name one subcommand or none. -/
def parseHelp : List String → UsageError
  | [] => .displayHelp
  | [name] => if isSubcommand name then .displayHelp else .invalidSubcommand
  | _ => .invalidSubcommand

/-- What the arguments are refused for if they do not begin with a subcommand. -/
def refusal : List String → UsageError
  | [] => .displayHelpOnMissingArgumentOrSubcommand
  | first :: rest =>
    match argument first with
    | .escape =>
      match rest with
      | [] => .displayHelpOnMissingArgumentOrSubcommand
      | name :: _ => if isSubcommand name then .unknownArgument else .invalidSubcommand
    | .long name value =>
      if name ≠ "help".toList then .unknownArgument
      else if value.isSome then .tooManyValues
      else .displayHelp
    | .short letter _ => if letter = 'h' then .displayHelp else .unknownArgument
    | .plain => .invalidSubcommand

def parse (args : List String) : Except UsageError ReplayOptions :=
  match args with
  | "replay" :: rest => parseReplay rest
  | "help" :: rest => .error (parseHelp rest)
  | _ => .error (refusal args)

/-! ## The program -/

/-- How the program ends. -/
structure Finished where
  exitCode : UInt8
  disk : FileSystem
  standardOutput : String
  standardError : Array UInt8

def usage : String :=
  "Usage: calltally replay [--config CONTENT/PATH] [--output PATH] RECORDING\n"

/-- What is said of arguments that ask for no replay. -/
def UsageError.message : UsageError → String
  | .invalidSubcommand => "unrecognized subcommand"
  | .unknownArgument => "unexpected argument"
  | .invalidValue => "a value is required"
  | .tooManyValues => "unexpected value"
  | .missingRequiredArgument => "a recording is required"
  | .argumentConflict => "an option cannot be used multiple times"
  | .displayHelp | .displayHelpOnMissingArgumentOrSubcommand => "help was asked for"

/-- How the program ends without a replay. -/
def UsageError.finish (e : UsageError) (disk : FileSystem) : Finished :=
  match e with
  | .displayHelp => ⟨0, disk, usage, #[]⟩
  | .displayHelpOnMissingArgumentOrSubcommand => ⟨2, disk, "", (Channel.utf8 usage).toArray⟩
  | e => ⟨2, disk, "", (Channel.utf8 ("error: " ++ e.message ++ "\n" ++ usage)).toArray⟩

def run (disk : FileSystem) (args : List String) : Finished :=
  match parse args with
  | .error e => e.finish disk
  | .ok options =>
    let r := replay disk options.config options.recording options.output
    match r.outcome with
    | .ok () => ⟨0, r.disk, "", r.standardError⟩
    | .error e => ⟨1, r.disk, "", (Channel.utf8 ("error: " ++ e.message ++ "\n")).toArray⟩

end CallTrace.CommandLine
