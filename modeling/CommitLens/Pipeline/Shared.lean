import CommitLens.Pipeline

/-!
# Pipelines with shared lists

Lists of failures are grown in place, and whoever holds one sees it grow: the pipeline
has one for the comparison, every analysis has one, and any of them may be handed in
again.  Here the lists are kept in a store, and runs name them by their places.
-/

namespace CommitLens

/-- The place of a list of failures. -/
structure FailureRef where
  index : Nat
  deriving Repr, BEq, DecidableEq

structure FailureStore where
  lists : List (List FileFailure) := []
  deriving Repr, BEq, DecidableEq, Inhabited

namespace FailureStore

/-- Is there a list at a place? -/
def Holds (store : FailureStore) (ref : FailureRef) : Prop :=
  ref.index < store.lists.length

instance (store : FailureStore) (ref : FailureRef) : Decidable (store.Holds ref) :=
  inferInstanceAs (Decidable (_ < _))

def read (store : FailureStore) (ref : FailureRef) : List FileFailure :=
  store.lists[ref.index]?.getD []

/-- The place of the next new list. -/
def next (store : FailureStore) : FailureRef :=
  ⟨store.lists.length⟩

/-- Keep a new list. -/
def allocate (store : FailureStore) (failures : List FileFailure) : FailureStore :=
  ⟨store.lists ++ [failures]⟩

/-- Add a failure to the list at a place. -/
def push (store : FailureStore) (ref : FailureRef) (failure : FileFailure) : FailureStore :=
  ⟨store.lists.modify ref.index (· ++ [failure])⟩

/-- Add a failure to the list at a place, if there is one. -/
def record (store : FailureStore) (ref : FailureRef) : Option FileFailure → FailureStore
  | none => store
  | some failure => store.push ref failure

end FailureStore

/-- What a pipeline is given, the failures by their place. -/
structure SharedInput where
  changes : List Change
  format : String := ReportFormat.markdown.text
  detected : Option Int := none
  failures : FailureRef
  graph? : Option DependencyGraph := none
  detailed : Bool := true

/-- What a pipeline gives back, the failures by their place. -/
structure SharedAnalysis where
  changes : List (ScoredChange Float)
  report : String
  suggestion : Suggestion
  counts : FileCounts
  failures : FailureRef

namespace SharedInput

/-- The input with its list as it stands in a store. -/
def read (input : SharedInput) (store : FailureStore) : PipelineInput where
  changes := input.changes
  format := input.format
  detected := input.detected
  failures := store.read input.failures
  graph? := input.graph?
  detailed := input.detailed

end SharedInput

namespace SharedAnalysis

/-- The analysis with its list as it stands in a store. -/
def read (analysis : SharedAnalysis) (store : FailureStore) : Analysis where
  changes := analysis.changes
  report := analysis.report
  suggestion := analysis.suggestion
  counts := analysis.counts
  failures := store.read analysis.failures

end SharedAnalysis

/-- Compare changes one after the other, and add what goes wrong to a list. -/
def compareInto (ref : FailureRef) :
    List LinkedChange → FailureStore → List ComparedChange × FailureStore
  | [], store => ([], store)
  | change :: rest, store =>
      let (compared, failure?) := change.compare
      let (others, last) := compareInto ref rest (store.record ref failure?)
      (compared :: others, last)

structure SharedPipeline where
  config : Config := {}
  /-- The failures of the latest comparison. -/
  failures : FailureRef

/-- What came of some runs: their results, and the pipeline and the store behind the
last of them. -/
structure SharedRuns where
  results : List (Except RunError SharedAnalysis) := []
  pipeline : SharedPipeline
  store : FailureStore

/-- The results with their lists as they stand in a store. -/
def SharedRuns.read (runs : SharedRuns) (store : FailureStore) :
    List (Except RunError Analysis) :=
  runs.results.map fun result => result.map fun analysis => analysis.read store

namespace SharedPipeline

/-- Run a pipeline on changes.  The comparison begins a new list, and the analysis has
a list of its own. -/
def process (pipeline : SharedPipeline) (input : SharedInput) (store : FailureStore) :
    Except RunError SharedAnalysis × SharedPipeline × FailureStore :=
  let found := store.next
  let (compared, store) :=
    compareInto found (linkChanges input.changes input.graph?) (store.allocate [])
  let changes := compared.map fun change =>
    (change.classify pipeline.config.rules).score pipeline.config.weights
  let failures := store.next
  let store := store.allocate (store.read input.failures ++ store.read found)
  let suggestion := suggestCommit (changes.map fun change => change.toClassifiedChange)
  let counts : FileCounts :=
    ⟨input.detected.getD input.changes.length, analyzedCount changes⟩
  let result := match ReportFormat.ofText? input.format with
    | none => .error (.unknownFormat input.format)
    | some format =>
        let content : ReportContent :=
          { changes, suggestion, counts, failures := store.read failures }
        .ok { changes, report := content.render format input.detailed, suggestion, counts,
              failures }
  (result, { pipeline with failures := found }, store)

/-- Process one input after the other. -/
def processAll (pipeline : SharedPipeline) : List SharedInput → FailureStore → SharedRuns
  | [], store => { pipeline, store }
  | input :: rest, store =>
      let (result, pipeline, store) := pipeline.process input store
      let runs := pipeline.processAll rest store
      { runs with results := result :: runs.results }

end SharedPipeline

end CommitLens
