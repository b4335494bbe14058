import CommitLens.Pipeline
import CommitLens.Proofs.Change.Comparison
import CommitLens.Proofs.Extraction
import Mathlib.Data.List.Forall2

/-!
# The account of a run

A run tells of every listed file that its filter accepts.  Main statement: such a
file ends as a scored change or as a failure of the extraction, in order; a change
that could not be compared has one failure more; and what a stage has found out
about a file, the later ones keep.
-/

namespace CommitLens

/-! ## One change through the stages -/

namespace LinkedChange

variable (change : LinkedChange)

@[simp] theorem analyzed_withComparison (found : Comparison) (analyzed : Bool) :
    (change.withComparison found analyzed).analyzed = analyzed := rfl

theorem compare_toLinkedChange : change.compare.1.toLinkedChange = change := by
  unfold compare
  split <;> rfl

end LinkedChange

/-- The change could not be compared, and a failure says why. -/
def ComparedChange.FailsToCompare (change : ComparedChange) (failure : FileFailure) : Prop :=
  ∃ error, change.toChange.compare = .error error ∧
    failure = ⟨change.path, "semantic", error.reason⟩

theorem compareChanges_cons (change : LinkedChange) (rest : List LinkedChange) :
    compareChanges (change :: rest) =
      (change.compare.1 :: (compareChanges rest).1,
        change.compare.2.toList ++ (compareChanges rest).2) := by
  unfold compareChanges
  cases h : change.compare.2 <;> simp [h]

/-- The changes that are not analyzed and the failures of a comparison are the
same, one by one. -/
theorem compareChanges_failures (changes : List LinkedChange) :
    List.Forall₂ ComparedChange.FailsToCompare
      ((compareChanges changes).1.filter fun change => !change.analyzed)
      (compareChanges changes).2 := by
  induction changes with
  | nil => exact .nil
  | cons change rest ih =>
      rw [compareChanges_cons]
      cases hc : change.toChange.compare with
      | ok found =>
          rw [LinkedChange.compare_of_ok hc, List.filter_cons_of_neg (by simp)]
          exact ih
      | error error =>
          rw [LinkedChange.compare_of_error hc, List.filter_cons_of_pos (by simp)]
          exact .cons ⟨error, hc, rfl⟩ ih

namespace Pipeline

/-- One change through all stages behind the extraction. -/
def scoreChange (config : Config) (graph : DependencyGraph) (change : Change) :
    ScoredChange Float :=
  ((change.link graph).compare.1.classify config.rules).score config.weights

variable {config : Config} {graph : DependencyGraph}

theorem toLinkedChange_scoreChange (change : Change) :
    (scoreChange config graph change).toLinkedChange = change.link graph :=
  (change.link graph).compare_toLinkedChange

theorem toChange_scoreChange (change : Change) :
    (scoreChange config graph change).toChange = change := by
  show (scoreChange config graph change).toLinkedChange.toChange = change
  rw [toLinkedChange_scoreChange]
  rfl

theorem scoreChanges_fst (config : Config) (input : PipelineInput) :
    (scoreChanges config input).1 =
      input.changes.map
        (scoreChange config (input.graph?.getD (DependencyGraph.ofChanges input.changes))) := by
  simp only [scoreChanges, compareChanges, linkChanges, List.map_map]
  rfl

theorem map_toChange_scoreChanges (config : Config) (input : PipelineInput) :
    (scoreChanges config input).1.map (·.toChange) = input.changes := by
  rw [scoreChanges_fst, List.map_map]
  exact (List.map_congr_left fun change _ => toChange_scoreChange change).trans (List.map_id _)

theorem scoreChanges_failures (config : Config) (input : PipelineInput) :
    List.Forall₂ (fun change failure => change.toComparedChange.FailsToCompare failure)
      ((scoreChanges config input).1.filter fun change => !change.analyzed)
      (scoreChanges config input).2 := by
  have h := compareChanges_failures (linkChanges input.changes input.graph?)
  simp only [scoreChanges, List.filter_map, List.forall₂_map_left_iff]
  exact h

/-! ## One run -/

theorem process_eq_ok {pipeline : Pipeline} {input : PipelineInput} {analysis : Analysis}
    (h : (pipeline.process input).1 = .ok analysis) :
    analysis.changes = (scoreChanges pipeline.config input).1 ∧
      analysis.failures = input.failures ++ (scoreChanges pipeline.config input).2 ∧
      analysis.counts =
        ⟨input.detected.getD input.changes.length, analyzedCount analysis.changes⟩ := by
  unfold process at h
  cases hf : ReportFormat.ofText? input.format with
  | none => simp [hf] at h
  | some format =>
      simp only [hf, Except.ok.injEq] at h
      subst h
      exact ⟨rfl, rfl, rfl⟩

variable {repository : Repository} {range : ChangeRange} {world : World} {format : String}
  {detailed : Bool}

theorem result_run_of_error {error : QuestionError}
    (h : (repository.list range).result world = .error error) :
    (run config repository range format detailed).result world = .error (.ofQuestion error) := by
  unfold run
  rw [Session.result_bind_of_ok (extractChanges_of_error h)]
  exact Session.result_throw _

/-- Behind the extraction, a run comes to what the stages come to; a file that breaks the
extraction off ends it. -/
theorem result_run_of_listed (config : Config) (format : String) (detailed : Bool)
    {listed : List ListedChange} (h : (repository.list range).result world = .ok listed) :
    let entries := listed.filter fun entry =>
      config.pathFilter?.all fun filter => filter.accepts entry.path
    let found := (run config repository range format detailed).result world
    ((∀ entry ∈ entries, ¬entry.BreaksOff repository range world) ∧
      ∃ changes failures,
        Divided (ListedChange.Loads repository range world)
          (ListedChange.FailsToLoad repository range world) entries changes failures ∧
        found = (process { config }
          { changes, format, detected := some entries.length, failures, detailed }).1) ∨
      (∃ entry ∈ entries, entry.BreaksOff repository range world) ∧
        found = .error .nullCharacter := by
  intro entries found
  obtain ⟨extracted, failures, hr, loading⟩ :=
    extractChanges_of_listed (ε := RunError) config.pathFilter? {} h
  have ran : found = _ := Session.result_bind_of_ok hr _
  cases extracted with
  | ok changes =>
      refine .inl ⟨loading.not_breaksOff, changes, failures, loading.divided, ran.trans ?_⟩
      -- The loop over the failures only leaves events behind.
      refine (Session.result_bind_of_ok
        (Session.result_forIn _ fun _ => Session.result_log _ _) _).trans ?_
      exact Session.result_ofExcept _
  | error error =>
      obtain ⟨rfl, breaks⟩ := loading.breaksOff
      exact .inr ⟨breaks, ran⟩

theorem process_eq_ok_iff {pipeline : Pipeline} {input : PipelineInput} :
    (∃ analysis, (pipeline.process input).1 = .ok analysis) ↔
      ∃ known, ReportFormat.ofText? input.format = some known := by
  unfold process
  cases ReportFormat.ofText? input.format <;> simp

/-- Files that can be listed and looked for and a format that is known are all that a run
needs: what goes wrong with a single file does not end it. -/
theorem result_run_eq_ok_iff :
    (∃ analysis, (run config repository range format detailed).result world = .ok analysis) ↔
      (∃ listed, (repository.list range).result world = .ok listed ∧
        ∀ entry ∈ listed.filter fun entry =>
            config.pathFilter?.all fun filter => filter.accepts entry.path,
          ¬entry.BreaksOff repository range world) ∧
        ∃ known, ReportFormat.ofText? format = some known := by
  cases hl : (repository.list range).result world with
  | error error => simp [result_run_of_error hl]
  | ok listed =>
      simp only [Except.ok.injEq, exists_eq_left']
      rcases result_run_of_listed config format detailed hl with
        ⟨whole, changes, failures, -, hr⟩ | ⟨⟨entry, member, breaks⟩, hr⟩
      · rw [hr, process_eq_ok_iff]
        exact (and_iff_right whole).symm
      · rw [hr]
        exact ⟨fun ⟨_, h⟩ => (nomatch h), fun ⟨whole, _⟩ => absurd breaks (whole entry member)⟩

/-- The stages behind the extraction fail by the format alone. -/
theorem process_eq_error {pipeline : Pipeline} {input : PipelineInput} {error : RunError}
    (h : (pipeline.process input).1 = .error error) : error = .unknownFormat input.format := by
  unfold process at h
  cases hf : ReportFormat.ofText? input.format with
  | none =>
      simp only [hf, Except.error.injEq] at h
      exact h.symm
  | some format => simp [hf] at h

theorem result_run_eq_git_iff {error : GitError} :
    (run config repository range format detailed).result world = .error (.git error) ↔
      (repository.list range).result world = .error (.git error) := by
  cases hl : (repository.list range).result world with
  | error error' =>
      rw [result_run_of_error hl]
      cases error' <;> simp [RunError.ofQuestion]
  | ok listed =>
      refine ⟨fun h => ?_, fun h => nomatch h⟩
      rcases result_run_of_listed config format detailed hl with
        ⟨-, changes, failures, -, hr⟩ | ⟨-, hr⟩
      · exact nomatch process_eq_error (hr.symm.trans h)
      · exact nomatch hr.symm.trans h

/-- Only a null character breaks a run off, in its checks or in what it asks about a file. -/
theorem result_run_eq_nullCharacter_iff :
    (run config repository range format detailed).result world = .error .nullCharacter ↔
      repository.NullInChecks range world ∨
        ∃ listed, (repository.list range).result world = .ok listed ∧
          ∃ entry ∈ listed.filter fun entry =>
              config.pathFilter?.all fun filter => filter.accepts entry.path,
            entry.BreaksOff repository range world := by
  rw [← Repository.list_eq_nullCharacter_iff]
  cases hl : (repository.list range).result world with
  | error error =>
      rw [result_run_of_error hl]
      cases error <;> simp [RunError.ofQuestion]
  | ok listed =>
      simp only [Except.ok.injEq, exists_eq_left', reduceCtorEq, false_or]
      rcases result_run_of_listed config format detailed hl with
        ⟨whole, changes, failures, -, hr⟩ | ⟨breaks, hr⟩
      · constructor
        · intro h
          exact nomatch process_eq_error (hr.symm.trans h)
        · rintro ⟨entry, member, breaks⟩
          exact absurd breaks (whole entry member)
      · exact ⟨fun _ => breaks, fun _ => hr⟩

/-! ## The account -/

/-- What a scored change keeps of every stage that its entry went through. -/
structure Carries (config : Config) (repository : Repository) (range : ChangeRange)
    (world : World) (graph : DependencyGraph) (entry : ListedChange)
    (scored : ScoredChange Float) : Prop where
  loaded : entry.Loads repository range world scored.toChange
  path : scored.path = entry.path
  kind : scored.kind = entry.kind
  previousPath : scored.previousPath = entry.renamedFrom
  contents : entry.HasContents repository range world scored.old scored.new
  metadata : scored.metadata = Metadata.ofContents entry.path scored.old scored.new
  linked : scored.toLinkedChange = scored.toChange.link graph
  compared : scored.toComparedChange = scored.toLinkedChange.compare.1
  classified : scored.toClassifiedChange = scored.toComparedChange.classify config.rules
  scored : scored = scored.toClassifiedChange.score config.weights

theorem carries_scoreChange (config : Config) (graph : DependencyGraph)
    {entry : ListedChange} {change : Change} (h : entry.Loads repository range world change) :
    Carries config repository range world graph entry (scoreChange config graph change) := by
  obtain ⟨old, new, hc, he⟩ := h.eq_ofContents
  have hs : (scoreChange config graph change).toChange = change := toChange_scoreChange change
  have hl : (scoreChange config graph change).toLinkedChange = change.link graph :=
    toLinkedChange_scoreChange change
  have hchange : (scoreChange config graph change).toChange =
      Change.ofContents entry.path entry.kind old new entry.renamedFrom := hs.trans he
  exact
    { loaded := by rw [hs]; exact h
      path := congrArg Change.path hchange
      kind := congrArg Change.kind hchange
      previousPath := congrArg Change.previousPath hchange
      contents := by rw [hchange]; exact hc
      metadata := by rw [hchange]; rfl
      linked := hl.trans (congrArg (Change.link graph) hs.symm)
      compared := by rw [hl]; rfl
      classified := rfl
      scored := rfl }

/-- Where the entries of a run have got to. -/
structure Accounts (config : Config) (repository : Repository) (range : ChangeRange)
    (world : World) (entries : List ListedChange) (analysis : Analysis) : Prop where
  /-- Each entry is a change or a failure; behind those of the extraction stand the
  failures of the changes that are not analyzed. -/
  divided : ∃ extraction semantic,
    Divided
      (Carries config repository range world
        (DependencyGraph.ofChanges (analysis.changes.map (·.toChange))))
      (ListedChange.FailsToLoad repository range world) entries analysis.changes extraction ∧
    List.Forall₂ (fun change failure => change.toComparedChange.FailsToCompare failure)
      (analysis.changes.filter fun change => !change.analyzed) semantic ∧
    analysis.failures = extraction ++ semantic
  detected : analysis.counts.detected = entries.length
  total : entries.length = analysis.counts.analyzed + analysis.failures.length

/-- The stages keep the account of the extraction before them. -/
theorem accounts_of_process {input : PipelineInput} {analysis : Analysis}
    {entries : List ListedChange} (h : (process { config } input).1 = .ok analysis)
    (hg : input.graph? = none) (hn : input.detected = some ↑entries.length)
    (hd : Divided (ListedChange.Loads repository range world)
      (ListedChange.FailsToLoad repository range world) entries input.changes input.failures) :
    Accounts config repository range world entries analysis := by
  obtain ⟨hchanges, hfailures, hcounts⟩ := process_eq_ok h
  have hsame : analysis.changes.map (·.toChange) = input.changes := by
    rw [hchanges]
    exact map_toChange_scoreChanges config input
  have hscored : analysis.changes =
      input.changes.map (scoreChange config (DependencyGraph.ofChanges input.changes)) := by
    rw [hchanges, scoreChanges_fst, hg, Option.getD_none]
  have hdivided : Divided
      (Carries config repository range world (DependencyGraph.ofChanges input.changes))
      (ListedChange.FailsToLoad repository range world) entries analysis.changes
      input.failures := by
    rw [hscored]
    exact hd.map (scoreChange config _) fun _ _ => carries_scoreChange config _
  have hsemantic := scoreChanges_failures config input
  rw [← hchanges] at hsemantic
  refine ⟨⟨input.failures, (scoreChanges config input).2, ?_, hsemantic, hfailures⟩, ?_, ?_⟩
  · rw [hsame]
    exact hdivided
  · rw [hcounts, hn, Option.getD_some]
  · have hentries := hd.length_eq
    have hcount : analysis.changes.length = input.changes.length := by
      rw [← hsame, List.length_map]
    have hsplit : analysis.changes.length = (analysis.changes.filter (·.analyzed)).length +
        (analysis.changes.filter fun change => !change.analyzed).length :=
      List.length_eq_length_filter_add _
    have hunread := hsemantic.length_eq
    have hanalyzed : analysis.counts.analyzed = (analysis.changes.filter (·.analyzed)).length :=
      congrArg FileCounts.analyzed hcounts
    have hlength : analysis.failures.length =
        input.failures.length + (scoreChanges config input).2.length := by
      rw [hfailures, List.length_append]
    omega

/-- A run that comes to an analysis accounts for the files that its filter accepts. -/
theorem run_accounts {analysis : Analysis}
    (h : (run config repository range format detailed).result world = .ok analysis) :
    ∃ listed, (repository.list range).result world = .ok listed ∧
      Accounts config repository range world
        (listed.filter fun entry => config.pathFilter?.all fun filter => filter.accepts entry.path)
        analysis := by
  cases hl : (repository.list range).result world with
  | error error =>
      rw [result_run_of_error hl] at h
      contradiction
  | ok listed =>
      rcases result_run_of_listed config format detailed hl with
        ⟨-, changes, failures, hd, hr⟩ | ⟨-, hr⟩
      · rw [hr] at h
        exact ⟨listed, rfl, accounts_of_process h rfl rfl hd⟩
      · exact nomatch hr.symm.trans h

/-- One file is analyzed, one cannot be read from the repository, one is no source
text, and one is left out. -/
theorem run_accounts_mixed :
    let config : Config := { excludePaths := ["left.py"] }
    let repository : Repository := ⟨"/work"⟩
    let range := ChangeRange.revisions "one" "two"
    let world : World :=
      { command := fun
          | ["rev-parse", "--is-inside-work-tree"] => .finished 0 "true\n" ""
          | ["diff", "--name-status", "-M", "one", "two"] =>
              .finished 0 "M\ta.py\nM\tlost.py\nM\tbroken.py\nM\tleft.py\n" ""
          | ["show", "two:lost.py"] => .finished 128 "" "fatal: bad object\n"
          | ["show", "two:broken.py"] => .finished 0 "\x00" ""
          | _ => .finished 0 "x = 1\n" ""
        files := {}
        directory := "/work" }
    ∃ analysis, (run config repository range "json" true).result world = .ok analysis ∧
      ∃ listed, (repository.list range).result world = .ok listed ∧
        Accounts config repository range world
          (listed.filter fun entry => config.pathFilter?.all fun filter =>
            filter.accepts entry.path)
          analysis := by
  intro config repository range world
  let listed : List ListedChange :=
    [⟨"a.py", some 'M', none⟩, ⟨"lost.py", some 'M', none⟩, ⟨"broken.py", some 'M', none⟩,
      ⟨"left.py", some 'M', none⟩]
  have hl : (repository.list range).result world = .ok listed := by decide +kernel
  have plain : ∀ entry ∈ listed, ∀ place ∈ entry.places range,
      place.meetsNull repository = false := by
    decide +kernel
  have whole : ∀ entry ∈ listed.filter fun entry =>
        config.pathFilter?.all fun filter => filter.accepts entry.path,
      ¬entry.BreaksOff repository range world := by
    intro entry member
    exact ListedChange.not_breaksOff_of_places (plain entry (List.mem_of_mem_filter member))
  have hr : ∃ analysis, (run config repository range "json" true).result world = .ok analysis :=
    result_run_eq_ok_iff.mpr ⟨⟨listed, hl, whole⟩, .json, by decide +kernel⟩
  obtain ⟨analysis, h⟩ := hr
  exact ⟨analysis, h, run_accounts h⟩

end Pipeline

end CommitLens
