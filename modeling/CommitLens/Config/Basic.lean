import CommitLens.Rules.Classify
import CommitLens.Score.Weights
import CommitLens.Yaml.Document

/-!
# Configurations

What a rules file says, and everything that can be wrong with one.
-/

namespace CommitLens

/-- The rules that hold without a rules file. -/
def defaultRules : List Rule :=
  [{ id := "default-test", pattern := some "**/*.\x7bspec,test\x7d.\x7bts,js\x7d"
     commitType := some "test" },
    { id := "default-docs", pattern := some "**/*.md", commitType := some "docs" }]

structure Config where
  rules : List Rule := defaultRules
  excludePaths : List String := []
  includeOnly : List String := []
  commitTypes : List String := builtinCommitTypes
  /-- Changes to the weights of the score, in the order of the file. -/
  scoring : List (WeightSetting Float Float) := []
  /-- The path of the rules file. -/
  source : Option String := none
  /-- Why the rules file is not used. -/
  loadError : Option String := none
  deriving Inhabited

namespace Config

def pathFilter? (config : Config) : Option PathFilter :=
  PathFilter.ofPatterns? config.includeOnly config.excludePaths

/-- The weights with the changes of the configuration. -/
def weights (config : Config) : Weights Float (Number Float) :=
  (Weights.standard Number.real).apply (config.scoring.map fun
    | .weight name x => .weight name x
    | .table name entries => .table name (entries.map fun (key, x) => (key, .real x)))

end Config

/-- What a rules file can be rejected for. -/
inductive ConfigError where
  | missing (path : String)
  /-- The file cannot be read, or it is no YAML. -/
  | unreadable (fileName : String)
  | empty (fileName : String)
  | notAConfiguration
  | unknownKeys (keys : List String)
  | notTexts (key : String)
  | rulesNotAList
  | ruleNotAMapping (number : Nat)
  | ruleWithoutId (number : Nat)
  | unknownType (rule commitType : String) (known : List String)
  | notAText (rule key : String)
  | heuristicsNotAList (rule : String)
  | badHeuristic (rule : String)
  | duplicateRule (rule : String)
  | scoringNotAMapping
  | weightNotANumber (key : String)
  | tableNotOfNumbers (key : String)
  | unknownWeight (key : String)
  | alreadyThere (fileName directory : String)
  | unwritable (path reason : String)
  deriving Repr, BEq, DecidableEq

namespace ConfigError

def ofRule (rule text : String) : String :=
  "rule '" ++ rule ++ "': " ++ text

def message : ConfigError → String
  | missing path => "Missing rules configuration file: " ++ path
  | unreadable fileName => "Invalid YAML in " ++ fileName ++ ":"
  | empty fileName => fileName ++ " is empty"
  | notAConfiguration => "configuration must be a list of rules or a mapping"
  | unknownKeys keys => "unknown configuration keys: " ++ Text.join ", " keys
  | notTexts key => "'" ++ key ++ "' must be a list of strings"
  | rulesNotAList => "'rules' must be a list"
  | ruleNotAMapping number => "rule #" ++ toString number ++ " must be a mapping"
  | ruleWithoutId number => "rule #" ++ toString number ++ " is missing a string 'id'"
  | unknownType rule commitType known =>
      ofRule rule ("unknown commit type '" ++ commitType ++ "' (expected one of " ++
        Text.join ", " known ++ ")")
  | notAText rule key => ofRule rule ("'" ++ key ++ "' must be a string")
  | heuristicsNotAList rule => ofRule rule "'heuristics' must be a list"
  | badHeuristic rule => ofRule rule "each heuristic must be a mapping with an 'if' string"
  | duplicateRule rule => "duplicate rule id '" ++ rule ++ "'"
  | scoringNotAMapping => "'scoring' must be a mapping"
  | weightNotANumber key => "scoring: '" ++ key ++ "' must be a number"
  | tableNotOfNumbers key => "scoring: '" ++ key ++ "' must map names to numbers"
  | unknownWeight key => "scoring: unknown weight '" ++ key ++ "'"
  | alreadyThere fileName directory => fileName ++ " already exists at " ++ directory
  | unwritable path reason => "Cannot write " ++ path ++ ": " ++ reason

end ConfigError

/-- Why no configuration comes of a rules file: it is rejected, or reading it
breaks off at a value that nobody expects there. -/
inductive ConfigFailure where
  | rejected (error : ConfigError)
  | scalar (fault : Yaml.Fault)
  /-- A whole number beyond all weights. -/
  | tooLarge
  /-- Keys of kinds that have no common order. -/
  | unordered (kind other : String)
  deriving Repr, BEq, DecidableEq

namespace ConfigFailure

/-- What is said about two kinds without a common order.  Dates and times have
words of their own; two times differ in whether their offset is known. -/
def unorderedMessage (kind other : String) : String :=
  let time := "datetime.datetime"
  let isDate := fun (kind : String) => kind == "datetime.date" || kind == time
  if kind == time && other == time then "can't compare offset-naive and offset-aware datetimes"
  else if isDate kind && isDate other then "can't compare datetime.datetime to datetime.date"
  else "'<' not supported between instances of '" ++ kind ++ "' and '" ++ other ++ "'"

def message : ConfigFailure → String
  | rejected error => error.message
  | scalar fault => fault.message
  | tooLarge => "int too large to convert to float"
  | unordered kind other => unorderedMessage kind other

end ConfigFailure

end CommitLens
