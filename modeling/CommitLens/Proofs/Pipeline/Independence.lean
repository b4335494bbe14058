import CommitLens.Proofs.Dependency.Edge
import CommitLens.Proofs.Pipeline.Breaking

/-!
# Changes do not depend on each other

Every change is processed beside all the others, and the graph is built from them
together.  Main statement: what becomes of one change depends on the paths of the
others at most, neither on their contents nor on the order; only the files that
are related to it do.
-/

namespace CommitLens

/-! ## Related files are handed on

No stage looks at the related files: a change with other ones becomes the same with
other ones. -/

section RelatedFiles

variable (files : List String)

theorem LinkedChange.compare_relatedFiles (change : LinkedChange) :
    ({ change with relatedFiles := files }).compare.1 =
      { change.compare.1 with relatedFiles := files } := by
  let other : LinkedChange := { change with relatedFiles := files }
  show other.compare.1 = { change.compare.1 with relatedFiles := files }
  cases h : change.toChange.compare with
  | ok found =>
      have h' : other.toChange.compare = .ok found := h
      rw [compare_of_ok h, compare_of_ok h']
      rfl
  | error error =>
      have h' : other.toChange.compare = .error error := h
      rw [compare_of_error h, compare_of_error h']
      rfl

theorem ComparedChange.classify_relatedFiles (rules : List Rule) (change : ComparedChange) :
    ({ change with relatedFiles := files }).classify rules =
      { change.classify rules with relatedFiles := files } := rfl

theorem ClassifiedChange.score_relatedFiles (weights : Weights Float (Number Float))
    (change : ClassifiedChange) :
    ({ change with relatedFiles := files }).score weights =
      { change.score weights with relatedFiles := files } := rfl

end RelatedFiles

namespace Pipeline

variable {config : Config} {graph other : DependencyGraph}

/-- Of a graph, a change only takes the edges that start at its file, its related
files apart. -/
theorem scoreChange_of_outgoing {change : Change}
    (h : other.outgoing change.path = graph.outgoing change.path) :
    scoreChange config other change =
      { scoreChange config graph change with
        relatedFiles := (scoreChange config other change).relatedFiles } := by
  have linked : change.link other =
      { change.link graph with relatedFiles := (change.link other).relatedFiles } := by
    simp only [Change.link, h]
  have related : (scoreChange config other change).relatedFiles =
      (change.link other).relatedFiles := by
    rw [toLinkedChange_scoreChange]
  rw [related]
  unfold scoreChange
  conv_lhs => rw [linked]
  rw [LinkedChange.compare_relatedFiles, ComparedChange.classify_relatedFiles,
    ClassifiedChange.score_relatedFiles]

/-- Two change sets change the same files, each file once. -/
structure SameFiles (first second : List Change) : Prop where
  distinct : (first.map (·.path)).Nodup
  distinct' : (second.map (·.path)).Nodup
  same : ∀ path, path ∈ first.map (·.path) ↔ path ∈ second.map (·.path)

namespace SameFiles

variable {first second : List Change} (h : SameFiles first second)
include h

theorem perm : (first.map (·.path)).Perm (second.map (·.path)) :=
  (List.perm_ext_iff_of_nodup h.distinct h.distinct').mpr h.same

/-- A change of both sets has the same edges in their graphs. -/
theorem outgoing_eq {change : Change} (hf : change ∈ first) (hs : change ∈ second) :
    (DependencyGraph.ofChanges second).outgoing change.path =
      (DependencyGraph.ofChanges first).outgoing change.path := by
  rw [DependencyGraph.outgoing_ofChanges h.distinct hf,
    DependencyGraph.outgoing_ofChanges h.distinct' hs, Change.dependencyEdges_perm h.perm]

end SameFiles

/-- The input is a change set in a known format, its graph to be built. -/
structure BuildsGraph (input : PipelineInput) : Prop where
  graph : input.graph? = none
  format : ∃ known, ReportFormat.ofText? input.format = some known

theorem process_getElem? (pipeline : Pipeline) {input : PipelineInput} (h : BuildsGraph input) :
    ∃ analysis, (pipeline.process input).1 = .ok analysis ∧
      ∀ i : Nat, analysis.changes[i]? = (input.changes[i]?).map
        (scoreChange pipeline.config (DependencyGraph.ofChanges input.changes)) := by
  obtain ⟨known, hf⟩ := h.format
  obtain ⟨analysis, hok, hchanges, _⟩ := pipeline.process_of_known hf
  refine ⟨analysis, hok, fun i => ?_⟩
  rw [hchanges, scoreChanges_fst, h.graph, Option.getD_none, List.getElem?_map]

/-- What becomes of a change is the same among any other changes of the same files,
its related files apart. -/
theorem process_independent {pipeline pipeline' : Pipeline} {first second : PipelineInput}
    {change : Change} {i j : Nat} (config : pipeline'.config = pipeline.config)
    (builds : BuildsGraph first) (builds' : BuildsGraph second)
    (files : SameFiles first.changes second.changes)
    (hf : first.changes[i]? = some change) (hs : second.changes[j]? = some change) :
    ∃ analysis analysis' scored scored',
      (pipeline.process first).1 = .ok analysis ∧ (pipeline'.process second).1 = .ok analysis' ∧
      analysis.changes[i]? = some scored ∧ analysis'.changes[j]? = some scored' ∧
      scored.toChange = change ∧
      scored' = { scored with relatedFiles := scored'.relatedFiles } := by
  obtain ⟨analysis, hok, hget⟩ := pipeline.process_getElem? builds
  obtain ⟨analysis', hok', hget'⟩ := pipeline'.process_getElem? builds'
  have edges := files.outgoing_eq (List.mem_of_getElem? hf) (List.mem_of_getElem? hs)
  refine ⟨analysis, analysis',
    scoreChange pipeline.config (DependencyGraph.ofChanges first.changes) change,
    scoreChange pipeline.config (DependencyGraph.ofChanges second.changes) change,
    hok, hok', ?_, ?_, toChange_scoreChange change, scoreChange_of_outgoing edges⟩
  · rw [hget, hf]
    rfl
  · rw [hget', hs, config]
    rfl

/-- A module is processed alike before and behind a module that it imports, whether
or not that one can be read. -/
theorem process_independent_unreadable :
    let change := Change.ofContents "src/a.py" .modified (some "x = 1\n")
      (some "from .b import y\n")
    let first : PipelineInput :=
      { changes := [change, Change.ofContents "src/b.py" .added none (some "y = 1\n")] }
    let second : PipelineInput :=
      { changes := [Change.ofContents "src/b.py" .added none (some "y =\n"), change] }
    BuildsGraph first ∧ BuildsGraph second ∧ SameFiles first.changes second.changes ∧
      first.changes[0]? = some change ∧ second.changes[1]? = some change ∧
      ∃ analysis analysis' scored scored',
        (process {} first).1 = .ok analysis ∧ (process {} second).1 = .ok analysis' ∧
        analysis.changes[0]? = some scored ∧ analysis'.changes[1]? = some scored' ∧
        scored.toChange = change ∧
        scored' = { scored with relatedFiles := scored'.relatedFiles } := by
  intro change first second
  have format : ReportFormat.ofText? "markdown" = some .markdown := by decide +kernel
  have builds : BuildsGraph first := ⟨rfl, _, format⟩
  have builds' : BuildsGraph second := ⟨rfl, _, format⟩
  have files : SameFiles first.changes second.changes :=
    { distinct := by decide
      distinct' := by decide
      same := fun path => by
        show path ∈ ["src/a.py", "src/b.py"] ↔ path ∈ ["src/b.py", "src/a.py"]
        simp only [List.mem_cons, List.not_mem_nil, or_false]
        exact or_comm }
  exact ⟨builds, builds', files, rfl, rfl, process_independent rfl builds builds' files rfl rfl⟩

end Pipeline

end CommitLens
