import CommitLens.Proofs.Config.Write
import CommitLens.Proofs.Pipeline.Breaking

/-!
# The vocabulary of commit types

A commit type is given by a rule, or found without one, or chosen from the types of
a change set.  Main statement: under a configuration that reading accepts, each of
these is one of the commit types of the configuration.
-/

namespace CommitLens

/-! ## Types of changes -/

namespace ComparedChange

variable {change : ComparedChange}

theorem fallbackType_mem (change : ComparedChange) :
    change.fallbackType ∈ builtinCommitTypes := by
  unfold fallbackType
  dsimp only
  split_ifs <;> simp [builtinCommitTypes, defaultCommitType]

/-- A type that is decided stands in one of the rules. -/
theorem exists_of_decidedType?_eq_some {rules : List Rule} {name : String}
    (h : decidedType? (change.applyingRules rules) = some name) :
    ∃ rule ∈ rules, rule.applies change = true ∧ rule.commitType = some name := by
  obtain ⟨rule, hr, ht⟩ := List.mem_filterMap.mp (List.mem_of_getLast? h)
  obtain ⟨hm, ha⟩ := List.mem_filter.mp hr
  exact ⟨rule, hm, ha, (present?_eq_some_iff.mp ht).1⟩

theorem classify_commitType (rules : List Rule) (change : ComparedChange) :
    (change.classify rules).commitType =
      (decidedType? (change.applyingRules rules)).getD change.fallbackType :=
  rfl

/-- The type of a change is built in, or it is the type of a rule that applies. -/
theorem classify_commitType_cases (rules : List Rule) (change : ComparedChange) :
    (change.classify rules).commitType ∈ builtinCommitTypes ∨
      ∃ rule ∈ rules, rule.applies change = true ∧
        rule.commitType = some (change.classify rules).commitType := by
  rw [classify_commitType]
  cases h : decidedType? (change.applyingRules rules) with
  | none => exact .inl (fallbackType_mem change)
  | some name => exact .inr (exists_of_decidedType?_eq_some h)

end ComparedChange

/-! ## Types of suggestions -/

theorem bestType?_eq_none_iff {entries : List (String × Nat)} :
    bestType? entries = none ↔ entries = [] := by
  cases entries with
  | nil => simp [bestType?]
  | cons entry rest =>
      unfold bestType?
      cases bestType? rest <;> simp

theorem mem_of_bestType?_eq_some {entries : List (String × Nat)} {best : String × Nat}
    (h : bestType? entries = some best) : best ∈ entries := by
  induction entries generalizing best with
  | nil => cases h
  | cons entry rest ih =>
      unfold bestType? at h
      split at h
      · cases h
        exact List.mem_cons_self
      · rename_i other found
        cases h
        split
        · exact List.mem_cons_of_mem _ (ih found)
        · exact List.mem_cons_self

/-- The type of a change set is the default one if it is empty, and else that of a change. -/
theorem selectType_cases (changes : List ClassifiedChange) :
    (changes = [] ∧ selectType changes = defaultCommitType) ∨
      ∃ change ∈ changes, selectType changes = change.commitType := by
  unfold selectType
  split
  · rename_i name count found
    obtain ⟨change, hc, ht⟩ :=
      List.mem_map.mp (mem_tally.mp (mem_of_bestType?_eq_some found)).1
    exact .inr ⟨change, hc, ht.symm⟩
  · rename_i none
    have counted := bestType?_eq_none_iff.mp none
    refine .inl ⟨?_, rfl⟩
    cases changes with
    | nil => rfl
    | cons change rest =>
        have first : change.commitType ∈ unique ((change :: rest).map (·.commitType)) :=
          mem_unique.mpr List.mem_cons_self
        rw [List.map_eq_nil_iff.mp counted] at first
        contradiction

theorem suggestCommit_commitType (changes : List ClassifiedChange) :
    (suggestCommit changes).commitType = selectType changes := by
  by_cases h : changes = []
  · subst h
    rfl
  · rw [suggestCommit_of_ne_nil h]

/-! ## Accepted configurations -/

namespace Config.Accepted

variable {config : Config}

theorem mem_of_builtin (h : config.Accepted) {name : String} (hn : name ∈ builtinCommitTypes) :
    name ∈ config.commitTypes := by
  obtain ⟨extra, he, -⟩ := h.types
  rw [he]
  exact List.mem_append_left extra hn

theorem classify_mem (h : config.Accepted) (change : ComparedChange) :
    (change.classify config.rules).commitType ∈ config.commitTypes := by
  rcases change.classify_commitType_cases config.rules with builtin | ⟨rule, hr, -, ht⟩
  · exact h.mem_of_builtin builtin
  · exact (h.rules rule hr).typed _ ht

theorem suggestCommit_mem (h : config.Accepted) {changes : List ClassifiedChange}
    (known : ∀ change ∈ changes, change.commitType ∈ config.commitTypes) :
    (suggestCommit changes).commitType ∈ config.commitTypes := by
  rw [suggestCommit_commitType]
  rcases selectType_cases changes with ⟨-, default⟩ | ⟨change, hc, ht⟩
  · exact default ▸ h.mem_of_builtin (by decide)
  · exact ht ▸ known change hc

end Config.Accepted

/-- The suggestion of an analysis is made from its changes. -/
theorem Pipeline.suggestion_of_process {pipeline : Pipeline} {input : PipelineInput}
    {analysis : Analysis} (h : (pipeline.process input).1 = .ok analysis) :
    analysis.suggestion = suggestCommit (analysis.changes.map (·.toClassifiedChange)) := by
  unfold process at h
  cases hf : ReportFormat.ofText? input.format with
  | none => simp [hf] at h
  | some format =>
      simp only [hf, Except.ok.injEq] at h
      subst h
      rfl

/-- Nothing that is said under a configuration is of a type that it does not have. -/
structure Config.KeepsVocabulary (config : Config) : Prop where
  /-- Whatever changed in a file, and also if it could not be read. -/
  classified : ∀ change : ComparedChange,
    (change.classify config.rules).commitType ∈ config.commitTypes
  /-- For the empty change set too. -/
  suggested : ∀ changes : List ComparedChange,
    (suggestCommit (changes.map (·.classify config.rules))).commitType ∈ config.commitTypes
  processed : ∀ (failures : List FileFailure) (input : PipelineInput) (analysis : Analysis),
    (Pipeline.process ⟨config, failures⟩ input).1 = .ok analysis →
      analysis.suggestion.commitType ∈ config.commitTypes ∧
        ∀ change ∈ analysis.changes, change.commitType ∈ config.commitTypes

theorem parseConfig_keepsVocabulary {data : Yaml.Value} {source : Option String}
    {config : Config} (h : parseConfig data source = .ok config) : config.KeepsVocabulary := by
  have accepted : config.Accepted := parseConfig_accepted h
  refine ⟨accepted.classify_mem, fun changes => ?_, fun failures input analysis hp => ?_⟩
  · refine accepted.suggestCommit_mem fun change hc => ?_
    obtain ⟨compared, -, rfl⟩ := List.mem_map.mp hc
    exact accepted.classify_mem compared
  · have typed : ∀ change ∈ analysis.changes, change.commitType ∈ config.commitTypes := by
      intro change hc
      rw [(Pipeline.process_eq_ok hp).1, Pipeline.scoreChanges_fst] at hc
      obtain ⟨before, -, rfl⟩ := List.mem_map.mp hc
      exact accepted.classify_mem _
    refine ⟨?_, typed⟩
    rw [Pipeline.suggestion_of_process hp]
    refine accepted.suggestCommit_mem fun change hc => ?_
    obtain ⟨scored, hs, rfl⟩ := List.mem_map.mp hc
    exact typed scored hs

/-- A file that cannot be read gets a type that only the configuration has, and so does
the commit. -/
theorem parseConfig_keepsVocabulary_extended :
    let config : Config :=
      { rules := [{ id := "fast", pathPart := some "fast/", commitType := some "perf" }]
        commitTypes := builtinCommitTypes ++ ["perf"] }
    let change : ComparedChange := { path := "fast/a.ts", kind := .modified, analyzed := false }
    parseConfig config.toValue = .ok config ∧ config.KeepsVocabulary ∧
      (change.classify config.rules).commitType = "perf" ∧
      (suggestCommit [change.classify config.rules]).commitType = "perf" := by
  intro config change
  have accepted : config.Accepted := by
    refine ⟨?_, by decide, ["perf"], rfl, by decide⟩
    rintro rule hr
    obtain rfl := List.mem_singleton.mp hr
    refine ⟨by decide, ?_⟩
    rintro name ⟨⟩
    decide
  have parsed : parseConfig config.toValue = .ok config := accepted.parseConfig_toValue none
  exact ⟨parsed, parseConfig_keepsVocabulary parsed, by decide +kernel, by decide +kernel⟩

end CommitLens
