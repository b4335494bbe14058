import CommitLens.CommandLine.Usage
import CommitLens.Session

/-!
# Arguments

A call is read as options with their values and other arguments.  An option of
two dashes may have its value behind an equals sign or in the next argument; two
dashes alone end the options.
-/

namespace CommitLens.CommandLine

/-- What is read from a call. -/
structure Arguments where
  /-- The options in their order, with a value each. -/
  options : List (OptionName × String) := []
  values : List String := []
  deriving Repr, BEq, DecidableEq, Inhabited

namespace Arguments

def addOption (arguments : Arguments) (name : OptionName) (value : String) : Arguments :=
  { arguments with options := (name, value) :: arguments.options }

def addValue (arguments : Arguments) (value : String) : Arguments :=
  { arguments with values := value :: arguments.values }

/-- The value of an option where it is given last. -/
def value? (arguments : Arguments) (name : OptionName) : Option String :=
  (arguments.options.reverse.find? fun option => option.1 == name).map (·.2)

def has (arguments : Arguments) (name : OptionName) : Bool :=
  (arguments.value? name).isSome

/-- The options in order of first appearance, each with its last value. -/
def settled (arguments : Arguments) : List (OptionName × String) :=
  (unique (arguments.options.map (·.1))).filterMap fun name =>
    (arguments.value? name).map fun value => (name, value)

end Arguments

/-- Does an argument have the form of an option? -/
def isOptionText (argument : String) : Bool :=
  argument.startsWith "-" && 1 < argument.length

/-- The name of an option and the value behind its first equals sign. -/
def splitOption (argument : String) : String × Option String :=
  match Text.breakAt? ['='] argument.toList with
  | some (name, value) => (String.ofList name, some (String.ofList value))
  | none => (argument, none)

/-- The error for an option that is not known.  Behind one dash, the first letter
counts as the option. -/
def unknownOption (known : List OptionName) (argument name : String) : UsageError :=
  if argument.startsWith "--" then
    .unknownOption name (Text.similarWords name (known.map OptionName.text))
  else .unknownOption (String.ofList (argument.toList.take 2)) []

/-- Read a call with the options it may have, after an option that waits for its
value or after none.  If `leading` is set, options end at the first other
argument. -/
def readAfter (known : List OptionName) (leading : Bool) :
    Option OptionName → List String → Except UsageError Arguments
  | none, [] => .ok {}
  | some name, [] => .error (.noValue name)
  | some name, value :: rest =>
      (readAfter known leading none rest).map fun read => read.addOption name value
  | none, argument :: rest =>
      if argument == "--" then .ok { values := rest }
      else if !isOptionText argument then
        if leading then .ok { values := argument :: rest }
        else (readAfter known leading none rest).map fun read => read.addValue argument
      else
        let (text, value?) := splitOption argument
        match known.find? fun name => name.text == text with
        | none => .error (unknownOption known argument text)
        | some name =>
            match name.takesValue, value? with
            | false, none =>
                (readAfter known leading none rest).map fun read => read.addOption name ""
            | false, some _ => .error (.unexpectedValue name)
            | true, some value =>
                (readAfter known leading none rest).map fun read => read.addOption name value
            | true, none => readAfter known leading (some name) rest

/-- Read a call with the options it may have. -/
def readArguments (known : List OptionName) (leading : Bool) (texts : List String) :
    Except UsageError Arguments :=
  readAfter known leading none texts

/-- What a path with nothing or a slash at its end stands for. -/
def entryAt? (world : World) (path : String) : Option FileEntry :=
  if path.isEmpty then none
  else match world.files.look (world.locate path) with
    | .ok (_, .file content) => if path.endsWith "/" then none else some (.file content)
    | .ok (_, .directory) => some .directory
    | .error _ => none

/-- Why the value of an option is not accepted. -/
inductive OptionError where
  | usage (error : UsageError)
  /-- It is a path with a null character in it, which nobody expects. -/
  | nullCharacter
  deriving Repr, BEq, DecidableEq

/-- Check the value of an option. -/
def checkOption (world : World) (name : OptionName) (value : String) :
    Except OptionError Unit :=
  match name with
  | .format =>
      if (ReportFormat.ofText? value).isNone then .error (.usage (.noSuchFormat value)) else .ok ()
  | .repository =>
      if Text.hasNull value then .error .nullCharacter
      else match entryAt? world value with
        | none => .error (.usage (.noSuchDirectory name value))
        | some (.file _) => .error (.usage (.notADirectory name value))
        | some .directory => .ok ()
  | .config | .output =>
      if Text.hasNull value then .error .nullCharacter
      else match entryAt? world value with
        | some .directory => .error (.usage (.isADirectory name value))
        | _ => .ok ()
  | _ => .ok ()

/-- Check every option, and that there are not too many other arguments. -/
def checkArguments (world : World) (command : CommandName) (arguments : Arguments) :
    Except OptionError Unit := do
  for (name, value) in arguments.settled do
    checkOption world name value
  let extra := arguments.values.drop command.argumentCount
  if extra.isEmpty then return () else throw (.usage (.extraArguments extra))

end CommitLens.CommandLine
