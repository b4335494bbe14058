import CommitLens.Proofs.Change.Impact
import CommitLens.Proofs.Pipeline.Account
import CommitLens.Proofs.Report.Suggestion

/-!
# Breaking changes on their way to the commit

That something breaks is first seen in a delta.  Main statement: impact, flag,
suggestion, header and body all repeat it, and none of them says so by itself; no
rule and no weight is asked.
-/

namespace CommitLens

/-- Everything that an analysis says of breaking changes is what the deltas say. -/
structure Analysis.KeepsBreaking (analysis : Analysis) : Prop where
  impact : ∀ change ∈ analysis.changes, change.impact = .major ↔ Breaks change.deltas
  flag : ∀ change ∈ analysis.changes, change.breaking = true ↔ Breaks change.deltas
  suggestion : analysis.suggestion.breaking = true ↔
    ∃ change ∈ analysis.changes, change.breaking = true
  body : analysis.suggestion.body.isSome = analysis.suggestion.breaking
  header : analysis.suggestion.header =
    analysis.suggestion.commitType ++ scopeText analysis.suggestion.scope ++
      breakingMark analysis.suggestion.breaking ++ ": " ++ analysis.suggestion.subject
  /-- The lines of the body, in the order of the changes. -/
  lines : ∀ body, analysis.suggestion.body = some body →
    body = "BREAKING CHANGE: " ++
      "\n".intercalate ((analysis.changes.filter (·.breaking)).map (·.breakingLine))

namespace Pipeline

variable {config : Config} {graph : DependencyGraph}

theorem scoreChange_impact_eq_major_iff (change : Change) :
    (scoreChange config graph change).impact = .major ↔
      Breaks (scoreChange config graph change).deltas :=
  (change.link graph).compare_impact_eq_major_iff

theorem scoreChange_breaking_iff (change : Change) :
    (scoreChange config graph change).breaking = true ↔
      Breaks (scoreChange config graph change).deltas :=
  ComparedChange.isBreaking_iff

/-- With a known format, a pipeline comes to an analysis of all changes. -/
theorem process_of_known (pipeline : Pipeline) {input : PipelineInput} {format : ReportFormat}
    (h : ReportFormat.ofText? input.format = some format) :
    ∃ analysis, (pipeline.process input).1 = .ok analysis ∧
      analysis.changes = (scoreChanges pipeline.config input).1 ∧
      analysis.suggestion = suggestCommit (analysis.changes.map (·.toClassifiedChange)) := by
  unfold process
  simp only [h]
  exact ⟨_, rfl, rfl, rfl⟩

/-- A pipeline neither loses a breaking change on the way to the commit nor makes
one up. -/
theorem process_keepsBreaking (pipeline : Pipeline) {input : PipelineInput}
    {format : ReportFormat} (h : ReportFormat.ofText? input.format = some format) :
    ∃ analysis, (pipeline.process input).1 = .ok analysis ∧
      analysis.changes.map (·.toChange) = input.changes ∧ analysis.KeepsBreaking := by
  obtain ⟨analysis, hok, hchanges, hsuggestion⟩ := pipeline.process_of_known h
  have hfilter : (analysis.changes.map (·.toClassifiedChange)).filter (·.breaking) =
      (analysis.changes.filter (·.breaking)).map (·.toClassifiedChange) := List.filter_map
  have scored : ∀ change ∈ analysis.changes, ∃ graph before,
      change = scoreChange pipeline.config graph before := by
    intro change hm
    rw [hchanges, scoreChanges_fst] at hm
    obtain ⟨before, _, he⟩ := List.mem_map.mp hm
    exact ⟨_, before, he.symm⟩
  refine ⟨analysis, hok, hchanges ▸ map_toChange_scoreChanges pipeline.config input, ?_⟩
  refine ⟨?impact, ?flag, ?suggestion, ?body, ?header, ?lines⟩
  case impact =>
    intro change hm
    obtain ⟨graph, before, rfl⟩ := scored change hm
    exact scoreChange_impact_eq_major_iff before
  case flag =>
    intro change hm
    obtain ⟨graph, before, rfl⟩ := scored change hm
    exact scoreChange_breaking_iff before
  case suggestion =>
    rw [hsuggestion, suggestCommit_breaking_iff]
    simp only [List.mem_map, exists_exists_and_eq_and]
  case body =>
    rw [hsuggestion]
    exact isSome_suggestCommit_body
  case header =>
    rw [hsuggestion]
    exact suggestCommit_header
  case lines =>
    intro body hb
    rw [hsuggestion] at hb
    rw [suggestCommit_body_eq_some hb, hfilter, List.map_map]
    rfl

/-- A deleted module breaks something, a new one does not, and no rule can say
otherwise. -/
theorem process_keepsBreaking_deleted :
    let pipeline : Pipeline :=
      { config :=
          { rules := [{ id := "quiet", pattern := some "**", commitType := some "chore" }] } }
    let input : PipelineInput :=
      { changes := [Change.ofContents "src/api/a.py" .deleted (some "x = 1\n") none,
          Change.ofContents "b.py" .added none (some "y = 1\n")]
        format := "json" }
    ReportFormat.ofText? input.format = some .json ∧
      ∃ analysis, (pipeline.process input).1 = .ok analysis ∧
        analysis.changes.map (·.toChange) = input.changes ∧ analysis.KeepsBreaking := by
  intro pipeline input
  have h : ReportFormat.ofText? input.format = some .json := by decide +kernel
  exact ⟨h, pipeline.process_keepsBreaking h⟩

end Pipeline

end CommitLens
