import CommitLens.Report.Render
import CommitLens.Text.Quoted
import CommitLens.Text.Similarity

/-!
# Usage

The commands with their options, and everything that can be wrong about the
arguments of a call.
-/

namespace CommitLens.CommandLine

def programName : String := "diffsense"

def version : String := "0.1.0"

inductive OptionName where
  | config
  | repository
  | verbose
  | workingTree
  | staged
  | format
  | detailed
  | brief
  | output
  | create
  | force
  | display
  | help
  | version
  deriving Repr, BEq, DecidableEq

namespace OptionName

def text : OptionName → String
  | config => "--config"
  | repository => "--repo"
  | verbose => "--verbose"
  | workingTree => "--working-tree"
  | staged => "--staged"
  | format => "--format"
  | detailed => "--detailed"
  | brief => "--brief"
  | output => "--output"
  | create => "--init"
  | force => "--force"
  | display => "--show"
  | help => "--help"
  | version => "--version"

def takesValue : OptionName → Bool
  | config | repository | format | output => true
  | _ => false

end OptionName

inductive CommandName where
  | analyze
  | suggest
  | config
  deriving Repr, BEq, DecidableEq

namespace CommandName

def all : List CommandName := [analyze, suggest, config]

def text : CommandName → String
  | analyze => "analyze"
  | suggest => "suggest"
  | config => "config"

def ofText? (text : String) : Option CommandName :=
  all.find? fun name => name.text == text

def options : CommandName → List OptionName
  | analyze => [.config, .repository, .verbose, .workingTree, .staged, .format,
      .detailed, .brief, .output, .help]
  | suggest => [.config, .repository, .verbose, .workingTree, .staged, .help]
  | config => [.create, .force, .display, .config, .repository, .verbose, .help]

/-- How many arguments a command takes beside its options. -/
def argumentCount : CommandName → Nat
  | analyze | suggest => 2
  | config => 0

/-- What stands behind the name of a command in its usage line. -/
def argumentsText : CommandName → String
  | analyze | suggest => "[OPTIONS] [BASE] [HEAD]"
  | config => "[OPTIONS]"

end CommandName

/-- The options that stand before the command. -/
def programOptions : List OptionName := [.version, .help]

/-- What can be wrong about a call. -/
inductive UsageError where
  | unknownOption (text : String) (similar : List String)
  | unknownCommand (text : String)
  | noCommand
  | noValue (name : OptionName)
  | unexpectedValue (name : OptionName)
  | noSuchFormat (text : String)
  | noSuchDirectory (name : OptionName) (path : String)
  | notADirectory (name : OptionName) (path : String)
  | isADirectory (name : OptionName) (path : String)
  | extraArguments (arguments : List String)
  | stagedWorkingTree
  | headOfIndex
  | headOfWorkingTree
  | nothingToDo
  deriving Repr, BEq, DecidableEq

namespace UsageError

/-- A hint at words that could have been meant. -/
def hint (words : List String) : String :=
  match words.mergeSort with
  | [] => ""
  | [word] => " Did you mean " ++ Text.quoted word ++ "?"
  | words => " (Possible options: " ++ Text.join ", " (words.map Text.quoted) ++ ")"

def ofValue (name : OptionName) (text : String) : String :=
  "Invalid value for '" ++ name.text ++ "': " ++ text

def message : UsageError → String
  | unknownOption text similar => "No such option " ++ Text.quoted text ++ "." ++ hint similar
  | unknownCommand text =>
      "No such command " ++ Text.quoted text ++ "." ++
        hint (Text.similarWords text (CommandName.all.map CommandName.text))
  | noCommand => "Missing command."
  | noValue name => "Option '" ++ name.text ++ "' requires an argument."
  | unexpectedValue name => "Option '" ++ name.text ++ "' does not take a value."
  | noSuchFormat text =>
      ofValue .format (Text.quoted text ++ " is not one of " ++
        Text.join ", " (ReportFormat.all.map fun format => Text.quoted format.text) ++ ".")
  | noSuchDirectory name path =>
      ofValue name ("Directory " ++ Text.quoted path ++ " does not exist.")
  | notADirectory name path => ofValue name ("Directory " ++ Text.quoted path ++ " is a file.")
  | isADirectory name path => ofValue name ("File " ++ Text.quoted path ++ " is a directory.")
  | extraArguments arguments =>
      "Got unexpected extra argument" ++ (if arguments.length == 1 then "" else "s") ++
        " (" ++ Text.join " " arguments ++ ")"
  | stagedWorkingTree => "--staged cannot be combined with --working-tree"
  | headOfIndex => "HEAD cannot be combined with --staged"
  | headOfWorkingTree => "HEAD cannot be combined with --working-tree"
  | nothingToDo => "Nothing to do: pass --init or --show"

/-- Errors about the value of an option come without the usage of the command. -/
def hasUsage : UsageError → Bool
  | noValue _ | unexpectedValue _ => false
  | _ => true

end UsageError

/-- The name of the program with that of a command. -/
def calledAs : Option CommandName → String
  | none => programName
  | some name => programName ++ " " ++ name.text

def usageLine (command? : Option CommandName) : String :=
  "Usage: " ++ calledAs command? ++ " " ++
    match command? with
    | none => "[OPTIONS] COMMAND [ARGS]..."
    | some name => name.argumentsText

/-- The lines about a wrong call. -/
def UsageError.lines (error : UsageError) (command? : Option CommandName) : List String :=
  (if error.hasUsage then
    [usageLine command?, "Try '" ++ calledAs command? ++ " --help' for help.", ""] else []) ++
    ["Error: " ++ error.message]

end CommitLens.CommandLine
