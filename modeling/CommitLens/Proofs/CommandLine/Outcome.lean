import CommitLens.Proofs.CommandLine.Analysis
import CommitLens.Proofs.Files.Tree
import CommitLens.Proofs.Pipeline.Account
import CommitLens.Proofs.Text.Escape

/-!
# Outcomes of a call

The exit code of a call that analyzes follows from its first failure.  Main statement: a
call that fails prints nothing and writes no file; a call that does not fail prints its
product alone, without escape sequences, or prints nothing and writes it as it is to the one
file that was asked for.

Texts are sequences of characters, so each of them can be encoded when it is printed or
written.
-/

namespace CommitLens.CommandLine

open Session

variable {command : CommandName} {texts rest : List String} {world : World}
  {arguments : Arguments} {failure : Failure} {found : Analysis}

/-! ## Steps of a call -/

/-- The format of the report. -/
def Arguments.format (arguments : Arguments) : CommandName → String
  | .analyze => (arguments.value? .format).getD ReportFormat.plain.text
  | _ => ReportFormat.json.text

/-- Does the report have details?  The last word on them counts. -/
def Arguments.detailed (arguments : Arguments) : CommandName → Bool
  | .analyze =>
      (arguments.options.reverse.map (·.1)).find?
        (fun name => name == .detailed || name == .brief) != some .brief
  | _ => true

/-- What a command makes of an analysis. -/
def CommandName.product : CommandName → Analysis → String
  | .suggest, found => found.suggestion.message ++ "\n"
  | _, found => found.report

/-- The analysis that a command asks for comes to its result. -/
def Finds (command : CommandName) (world : World) (arguments : Arguments) (found : Analysis) :
    Prop :=
  Analyzes world arguments (arguments.format command) (arguments.detailed command) found

/-- The exit code of a call that ends. -/
def exitCode : Except Stop Unit → Nat
  | .ok () => Stop.done.code
  | .error stop => stop.code

end CommitLens.CommandLine
