import CommitLens.CommandLine.Arguments
import CommitLens.Config.Write
import CommitLens.Pipeline
import CommitLens.Text.Escape
import CommitLens.Yaml.Printer

/-!
# Calls

What the commands do.  `analyze` reports on a range of changes, `suggest` prints
only the commit message, and `config` writes or shows the rules.  Notes and
warnings are events of their own, so that what is printed is the result alone.
Neither output is a terminal, so that no text goes there with escape sequences.
-/

namespace CommitLens.CommandLine

/-- How a call ends early. -/
structure Stop where
  code : Nat
  deriving Repr, BEq, DecidableEq

namespace Stop

def done : Stop := ⟨0⟩
def failed : Stop := ⟨1⟩
def misused : Stop := ⟨2⟩
def noRepository : Stop := ⟨3⟩

end Stop

abbrev Call (α : Type) := Session Stop α

def note (line : String) : Call Unit :=
  Session.emit (.noted (Text.unstyled line))

/-- Put a text on the standard output. -/
def echo (text : String) : Call Unit :=
  Session.emit (.printed (Text.unstyled text))

def noteInfo (text : String) : Call Unit := note ("ℹ " ++ text)
def noteSuccess (text : String) : Call Unit := note ("✓ " ++ text)
def noteWarning (text : String) : Call Unit := note ("⚠ " ++ text)
def noteError (text : String) : Call Unit := note ("✗ " ++ text)

/-- End a call because of its arguments. -/
def misuse {α : Type} (command? : Option CommandName) (error : UsageError) : Call α := do
  for line in error.lines command? do
    note line
  throw .misused

/-- End a call because of an error that nobody expects. -/
def breakOff {α : Type} (message : String) : Call α := do
  Session.log .error ("Unhandled error: " ++ message)
  noteError ("Unexpected error: " ++ message)
  throw .failed

/-- The repository of a call. -/
def findRepository (arguments : Arguments) : Call Repository := do
  let world ← Session.world
  let start := match arguments.value? .repository with
    | some path => Path.tidy path
    | none => world.directory
  match Repository.find? world start with
  | some repository => return repository
  | none =>
      noteError ("No Git repository found at or above " ++ start ++ ".")
      throw .noRepository

/-- The range that arguments and options ask for. -/
def readRange (base? head? : Option String) (workingTree staged : Bool) :
    Except UsageError ChangeRange :=
  let base := present? base?
  let head := present? head?
  if staged then
    if workingTree then .error .stagedWorkingTree
    else if head.isSome then .error .headOfIndex
    else .ok (.staged (base.getD "HEAD"))
  else if workingTree then
    if head.isSome then .error .headOfWorkingTree
    else .ok (.workingTree (base.getD "HEAD"))
  else .ok (.revisions (base.getD "HEAD^") (head.getD "HEAD"))

def configPath? (arguments : Arguments) : Option String :=
  (arguments.value? .config).map Path.tidy

/-- The configuration of a call. -/
def loadConfiguration (repository : Repository) (arguments : Arguments) : Call Config := do
  match ← Session.attempt (loadConfig repository.root (configPath? arguments)) with
  | .error failure => breakOff failure.message
  | .ok config =>
      match present? config.loadError with
      | some error => noteWarning ("Using default rules: " ++ error)
      | none => pure ()
      return config

/-- The analysis that a call asks for. -/
def analysis (command : CommandName) (arguments : Arguments) (format : String)
    (quiet detailed : Bool) : Call Analysis := do
  let repository ← findRepository arguments
  let range ← match readRange arguments.values[0]? arguments.values[1]?
      (arguments.has .workingTree) (arguments.has .staged) with
    | .ok range => pure range
    | .error error => misuse (some command) error
  let config ← loadConfiguration repository arguments
  match config.source with
  | some source =>
      if !quiet then
        noteInfo ("Loaded " ++ toString config.rules.length ++ " rules from " ++ source)
  | none => pure ()
  if !quiet then note ("→ Analyzing " ++ range.text ++ "...")
  match ← Session.attempt (Pipeline.run config repository range format detailed) with
  | .error (.git (.repository fault)) =>
      noteError ("Repository error: " ++ fault.message)
      throw .noRepository
  | .error (.git (.command message)) =>
      noteError ("Git error: " ++ message)
      throw .failed
  | .error .nullCharacter => breakOff nullCharacterMessage
  | .error (.unknownFormat format) => breakOff (RunError.unknownFormat format).message
  | .ok result =>
      if !quiet then note "  ✓ Done (0.0s)"
      for failure in result.failures do
        noteWarning ("Skipped " ++ failure.path ++ " (" ++ failure.stage ++ "): " ++
          failure.reason)
      if !quiet then noteInfo result.counts.line
      return result

/-- Write a text to a file.  The rest of the call sees it there. -/
def writeThen (path text : String) (rest : Except FileFault Unit → Call Unit) : Call Unit := do
  match (← Session.world).writeText path text with
  | .error fault => rest (.error fault)
  | .ok (names, world) =>
      Session.emit (.wrote names text)
      Session.within (fun _ => world) (rest (.ok ()))

def analyze (arguments : Arguments) : Call Unit := do
  let format := (arguments.value? .format).getD ReportFormat.plain.text
  let detailed := ((arguments.options.reverse.map (·.1)).find? fun name =>
    name == .detailed || name == .brief) != some .brief
  let result ← analysis .analyze arguments format false detailed
  match (arguments.value? .output).map Path.tidy with
  | none => echo result.report
  | some path =>
      writeThen path result.report fun
        | .ok () => noteSuccess ("Report written to " ++ path)
        | .error fault => breakOff (fault.message path)

def suggest (arguments : Arguments) : Call Unit := do
  let result ← analysis .suggest arguments ReportFormat.json.text true true
  echo (result.suggestion.message ++ "\n")

/-- End a call that cannot write a rules file. -/
def refuse (error : ConfigError) (replaceable : Bool) : Call Unit := do
  noteError error.message
  if replaceable then noteInfo "Use --force to replace it."
  throw .failed

/-- Write a new rules file, then go on. -/
def createConfig (path : String) (force : Bool) (rest : Call Unit) : Call Unit := do
  let isThere := (← Session.world).isPresent path
  if isThere && !force then
    refuse (.alreadyThere (Path.lastName path) (Path.parent path)) true
  else
    writeThen path configTemplate fun
      | .ok () => do
          noteSuccess ("Wrote default rules to " ++ path)
          rest
      | .error fault => do
          Session.log .error ("Failed to write configuration file: " ++ fault.message path)
          refuse (.unwritable path (fault.message path)) false

/-- Print the configuration with all weights. -/
def displayConfig (repository : Repository) (arguments : Arguments) : Call Unit := do
  let config ← loadConfiguration repository arguments
  noteInfo ("Configuration source: " ++ config.source.getD "built-in defaults")
  echo (Yaml.print config.toFullValue)

def configure (arguments : Arguments) : Call Unit := do
  let create := arguments.has .create
  let display := arguments.has .display
  if !create && !display then misuse (some .config) .nothingToDo
  let repository ← findRepository arguments
  let rest := if display then displayConfig repository arguments else pure ()
  if create then
    let path := (configPath? arguments).getD (Path.below repository.root configFileName)
    createConfig path (arguments.has .force) rest
  else rest

/-- Call a command. -/
def callCommand (command : CommandName) (texts : List String) : Call Unit := do
  let world ← Session.world
  match readArguments command.options false texts with
  | .error error => misuse (some command) error
  | .ok arguments =>
      if arguments.has .help then echo (usageLine (some command) ++ "\n")
      else match checkArguments world command arguments with
        | .error (.usage error) => misuse (some command) error
        | .error .nullCharacter => throw .failed
        | .ok () =>
            match command with
            | .analyze => analyze arguments
            | .suggest => suggest arguments
            | .config => configure arguments

/-- Call the program. -/
def call (texts : List String) : Call Unit := do
  if texts.isEmpty then
    note (usageLine none)
    throw .misused
  match readArguments programOptions true texts with
  | .error error => misuse none error
  | .ok arguments =>
      match arguments.options, arguments.values with
      | (.version, _) :: _, _ =>
          echo (programName ++ ", version " ++ version ++ "\n")
      | _ :: _, _ => echo (usageLine none ++ "\n")
      | [], [] => misuse none .noCommand
      | [], name :: rest =>
          match CommandName.ofText? name with
          | none => misuse none (.unknownCommand name)
          | some command => callCommand command rest

/-- What a call leaves behind. -/
structure Outcome where
  exitCode : Nat
  events : List Event
  deriving Repr, BEq, DecidableEq

namespace Outcome

/-- What stands on the standard output. -/
def output (outcome : Outcome) : String :=
  Text.join "" (outcome.events.filterMap fun
    | .printed text => some text
    | _ => none)

/-- What stands on the error output. -/
def errors (outcome : Outcome) : String :=
  Text.join "" (outcome.events.filterMap fun
    | .logged level message => some (level.text ++ ": " ++ message ++ "\n")
    | .noted line => some (line ++ "\n")
    | _ => none)

/-- The files that were written, with their contents. -/
def files (outcome : Outcome) : List (List String × String) :=
  outcome.events.filterMap fun
    | .wrote path content => some (path, content)
    | _ => none

end Outcome

/-- Run the program. -/
def execute (texts : List String) (world : World) : Outcome :=
  match call texts world with
  | (events, .ok ()) => ⟨Stop.done.code, events⟩
  | (events, .error stop) => ⟨stop.code, events⟩

end CommitLens.CommandLine
