import CommitLens.Change.Compare
import CommitLens.Config.Load
import CommitLens.Dependency.Graph
import CommitLens.Extraction
import CommitLens.Report.Render
import CommitLens.Score.Formula

/-!
# Pipelines

From changes to a report: the changes are linked, compared, classified and
scored, a commit is suggested, and all of it is reported.  A pipeline is bound
to one configuration and can be run again and again.
-/

namespace CommitLens

/-- What a pipeline is given. -/
structure PipelineInput where
  changes : List Change
  format : String := ReportFormat.markdown.text
  /-- How many files were found, if not just those of the changes. -/
  detected : Option Int := none
  /-- What went wrong before. -/
  failures : List FileFailure := []
  graph? : Option DependencyGraph := none
  detailed : Bool := true
  deriving Inhabited

/-- What a pipeline gives back. -/
structure Analysis where
  changes : List (ScoredChange Float)
  report : String
  suggestion : Suggestion
  counts : FileCounts
  failures : List FileFailure

/-- Why a run has no analysis. -/
inductive RunError where
  | git (error : GitError)
  /-- The extraction came to a question with a null character in it. -/
  | nullCharacter
  | unknownFormat (format : String)
  deriving Repr, BEq, DecidableEq

def RunError.message : RunError → String
  | git error => error.message
  | nullCharacter => nullCharacterMessage
  | unknownFormat format => ReportFormat.unknownMessage format

def RunError.ofQuestion : QuestionError → RunError
  | .git error => .git error
  | .nullCharacter => .nullCharacter

structure Pipeline where
  config : Config := {}
  /-- The files of the latest run that could not be compared. -/
  failures : List FileFailure := []
  deriving Inhabited

namespace Pipeline

/-- The scored changes of an input, and the files that could not be compared. -/
def scoreChanges (config : Config) (input : PipelineInput) :
    List (ScoredChange Float) × List FileFailure :=
  let (compared, failures) := compareChanges (linkChanges input.changes input.graph?)
  (compared.map fun change => (change.classify config.rules).score config.weights, failures)

/-- Run a pipeline on changes.  The failures of the run before are forgotten. -/
def process (pipeline : Pipeline) (input : PipelineInput) :
    Except RunError Analysis × Pipeline :=
  let (changes, found) := scoreChanges pipeline.config input
  let failures := input.failures ++ found
  let suggestion := suggestCommit (changes.map fun change => change.toClassifiedChange)
  let counts : FileCounts :=
    ⟨input.detected.getD input.changes.length, analyzedCount changes⟩
  let result := match ReportFormat.ofText? input.format with
    | none => .error (.unknownFormat input.format)
    | some format =>
        let content : ReportContent := { changes, suggestion, counts, failures }
        .ok { changes, report := content.render format input.detailed, suggestion, counts,
              failures }
  (result, { pipeline with failures := found })

/-- Process one input after the other. -/
def processAll (pipeline : Pipeline) :
    List PipelineInput → List (Except RunError Analysis) × Pipeline
  | [] => ([], pipeline)
  | input :: rest =>
      let (result, next) := pipeline.process input
      let (results, last) := next.processAll rest
      (result :: results, last)

/-- Extract the changes in a range and process them. -/
def run (config : Config) (repository : Repository) (range : ChangeRange) (format : String)
    (detailed : Bool) : Session RunError Analysis := do
  let (changes, record) ← extractChanges repository config.pathFilter? range {}
  match changes with
  | .error error => throw (.ofQuestion error)
  | .ok changes =>
      let input : PipelineInput :=
        { changes, format, detected := some record.detected, failures := record.failures
          detailed }
      let (result, pipeline) := process { config } input
      for failure in pipeline.failures do
        Session.log .warning ("Could not parse " ++ failure.path ++ ": " ++ failure.reason)
      Session.ofExcept result

end Pipeline

/-- Load the configuration of a repository and run the pipeline on a range. -/
def analyzeRepository (repository : Repository) (range : ChangeRange) (format : String)
    (configPath : Option String) : Session ConfigFailure (Except RunError Analysis) := do
  let config ← loadConfig repository.root configPath
  Session.attempt (Pipeline.run config repository range format true)

end CommitLens
