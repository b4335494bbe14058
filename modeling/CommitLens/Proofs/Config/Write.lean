import CommitLens.Config.Write
import CommitLens.Proofs.Config.Read
import CommitLens.Proofs.Score.Weights

/-!
# Reading what was written

Writing leaves out what a rule does not have and writes all commit types, the built-in
ones too; reading accepts more forms than writing uses.  Main statement: whatever reading
accepts comes back the same when it is written, and showing it with all its weights
shows it again.
-/

namespace CommitLens

open Yaml (Value)

/-! ## Written mappings -/

namespace Yaml

theorem entry?_cons (name key : String) (value : Value) (rest : List (Value × Value)) :
    entry? ((.text name, value) :: rest) key = if name = key then some value else entry? rest key := by
  by_cases same : name = key <;> simp [Value.sameKey, entry?, Value.asNumber?, same]

theorem entry?_append (entries others : List (Value × Value)) (key : String) :
    entry? (entries ++ others) key = (Yaml.entry? entries key).or (Yaml.entry? others key) := by
  simp only [List.find?_append, entry?, Option.map_or]

end Yaml

theorem entry?_optionalEntry (name key : String) (value : Option String) :
    Yaml.entry? (optionalEntry name value) key = if name = key then value.map .text else none := by
  cases value with
  | none => simp [optionalEntry, Yaml.entry?]
  | some s => exact Yaml.entry?_cons name key (.text s) []

theorem optionalText_of_found {entries : List (Value × Value)} {key : String}
    {value : Option String} (h : Yaml.entry? entries key = value.map .text) (rule : String) :
    optionalText entries key rule = .ok value := by
  cases value <;> simp [optionalText, h]

theorem textList_textValues (items : List String) (key : String) :
    textList (some (textValues items)) key = .ok items := by
  have read : texts? (items.map .text) = some items := by
    refine mapM_written_self (fun _ => ?_) items
    rfl
  simp only [textList, textValues, read]

/-- A mapping without keys that are passed over. -/
def KnownKeys (known : List String) (entries : List (Value × Value)) : Prop :=
  ∀ entry ∈ entries, ∃ key ∈ known, entry.1 = .text key

theorem KnownKeys.unknownKeys_eq {known : List String} {entries : List (Value × Value)}
    (h : KnownKeys known entries) : unknownKeys known entries = .ok [] := by
  have none : strangeKeys known entries = [] := by
    refine List.filter_eq_nil_iff.mpr fun key hkey => ?_
    obtain ⟨entry, found, rfl⟩ := List.mem_map.mp hkey
    obtain ⟨name, hname, text⟩ := h entry found
    simp [text, hname]
  calc unknownKeys known entries
      = sortKeys [] := congrArg sortKeys none
    _ = .ok [] := sortKeys_eq_ok_iff.mpr ⟨List.Pairwise.nil, List.mergeSort_nil⟩

theorem knownKeys_optionalEntry {known : List String} {name : String} (h : name ∈ known)
    (value : Option String) : KnownKeys known (optionalEntry name value) := by
  cases value with
  | none => simp [KnownKeys, optionalEntry]
  | some s => simp [KnownKeys, optionalEntry, h]

/-! ## Rules -/

/-- What reading checks in a rule. -/
structure Rule.Accepted (rule : Rule) (commitTypes : List String) : Prop where
  named : Text.isAllBlank rule.id = false
  typed : ∀ name, rule.commitType = some name → name ∈ commitTypes

section Rules

variable {commitTypes : List String} {rule : Rule}

theorem ruleId?_eq_some {entries : List (Value × Value)} {id : String}
    (h : ruleId? entries = some id) : Text.isAllBlank id = false := by
  unfold ruleId? at h
  split at h
  · split at h
    · cases h
    · cases h
      exact eq_false_of_ne_true ‹_›
  · cases h

theorem readType_eq_ok {entries : List (Value × Value)} {id : String} {commitType : Option String}
    (h : readType entries id commitTypes = .ok commitType) :
    ∀ name, commitType = some name → name ∈ commitTypes := by
  rintro name rfl
  obtain ⟨found, -, h⟩ := bind_eq_ok_iff.mp h
  cases found with
  | none => cases h
  | some other =>
      dsimp only at h
      split at h
      · cases h
        exact List.contains_iff_mem.mp ‹_›
      · cases h

theorem readRule_accepted {index : Nat} {entry : Value}
    (h : readRule commitTypes index entry = .ok rule) : rule.Accepted commitTypes := by
  unfold readRule at h
  split at h
  · split at h
    · cases h
    · rename_i id named
      simp only [bind_eq_ok_iff] at h
      obtain ⟨_, -, _, -, commitType, typed, _, -, _, -, _, -, _, -, _, -, built⟩ := h
      cases built
      exact ⟨ruleId?_eq_some named, readType_eq_ok typed⟩
  · cases h

theorem readRulesFrom_accepted {index : Nat} {items : List Value} {rules : List Rule}
    (h : readRulesFrom commitTypes index items = .ok rules) :
    ∀ rule ∈ rules, rule.Accepted commitTypes := by
  induction items generalizing index rules with
  | nil =>
      cases h
      simp
  | cons entry rest ih =>
      obtain ⟨first, hfirst, h⟩ := bind_eq_ok_iff.mp h
      obtain ⟨others, hothers, h⟩ := bind_eq_ok_iff.mp h
      cases h
      exact List.forall_mem_cons.mpr ⟨readRule_accepted hfirst, ih hothers⟩

theorem repeated?_eq_none_iff {seen items : List String} :
    repeated? seen items = none ↔ items.Nodup ∧ ∀ item ∈ items, item ∉ seen := by
  induction items generalizing seen with
  | nil => simp [repeated?]
  | cons item rest ih =>
      unfold repeated?
      by_cases known : item ∈ seen
      · simp [known]
      · rw [if_neg (by simpa using known), ih]
        grind

/-- Entries in which reading finds all that a rule has, and nothing else. -/
structure Rule.WrittenTo (rule : Rule) (entries : List (Value × Value)) : Prop where
  id : Yaml.entry? entries "id" = some (.text rule.id)
  pattern : Yaml.entry? entries "match" = rule.pattern.map .text
  pathPart : Yaml.entry? entries "match_path" = rule.pathPart.map .text
  deltaPart : Yaml.entry? entries "match_ast" = rule.deltaPart.map .text
  commitType : Yaml.entry? entries "type" = rule.commitType.map .text
  reason : Yaml.entry? entries "reason" = rule.reason.map .text
  heuristics : readHeuristics (Yaml.entry? entries "heuristics") rule.id = .ok rule.heuristics
  known : KnownKeys ruleKeys entries

theorem readHeuristics_written (rule : String) (names : List String) :
    readHeuristics (some (.list (names.map fun name => .mapping [(.text "if", .text name)]))) rule =
      .ok names := by
  have read (name : String) :
      readHeuristic rule (.mapping [(.text "if", .text name)]) = .ok name := by
    simp only [readHeuristic, Yaml.entry?_cons, if_true]
  exact mapM_written_self read names

/-- The entry for heuristics is left out if there are none. -/
def heuristicsEntry (names : List String) : List (Value × Value) :=
  if names.isEmpty then []
  else [(.text "heuristics", .list (names.map fun name => .mapping [(.text "if", .text name)]))]

theorem entry?_heuristicsEntry_of_ne {key : String} (h : "heuristics" ≠ key) (names : List String) :
    Yaml.entry? (heuristicsEntry names) key = none := by
  unfold heuristicsEntry
  split
  · rfl
  · rw [Yaml.entry?_cons, if_neg h]
    rfl

theorem readHeuristics_heuristicsEntry (rule : String) (names : List String) :
    readHeuristics (Yaml.entry? (heuristicsEntry names) "heuristics") rule = .ok names := by
  unfold heuristicsEntry
  split
  · rename_i empty
    rw [List.isEmpty_iff.mp empty]
    rfl
  · rw [Yaml.entry?_cons, if_pos rfl]
    exact readHeuristics_written rule names

theorem knownKeys_heuristicsEntry (names : List String) :
    KnownKeys ruleKeys (heuristicsEntry names) := by
  unfold heuristicsEntry
  split <;> simp [KnownKeys, ruleKeys]

theorem Rule.toValue_eq (rule : Rule) :
    rule.toValue = .mapping ([(.text "id", .text rule.id)] ++ optionalEntry "match" rule.pattern ++
      optionalEntry "match_path" rule.pathPart ++ optionalEntry "match_ast" rule.deltaPart ++
      optionalEntry "type" rule.commitType ++ optionalEntry "reason" rule.reason ++
      heuristicsEntry rule.heuristics) := rfl

theorem Rule.exists_writtenTo (rule : Rule) :
    ∃ entries, rule.toValue = .mapping entries ∧ rule.WrittenTo entries := by
  refine ⟨_, rule.toValue_eq, ?_⟩
  constructor
  case heuristics =>
    have found := readHeuristics_heuristicsEntry rule.id rule.heuristics
    simpa [Yaml.entry?_append, Yaml.entry?_cons, entry?_optionalEntry] using found
  case known =>
    simp only [KnownKeys, List.forall_mem_append]
    refine ⟨⟨⟨⟨⟨⟨?_, ?_⟩, ?_⟩, ?_⟩, ?_⟩, ?_⟩, knownKeys_heuristicsEntry _⟩
    · simp [ruleKeys]
    all_goals exact knownKeys_optionalEntry (by decide) _
  all_goals
    simp [Yaml.entry?_append, Yaml.entry?_cons, entry?_optionalEntry,
      entry?_heuristicsEntry_of_ne]

/-- A rule that is accepted is accepted again as it is written. -/
theorem readRule_toValue (h : rule.Accepted commitTypes) (index : Nat) :
    readRule commitTypes index rule.toValue = .ok rule := by
  obtain ⟨entries, value, written⟩ := rule.exists_writtenTo
  have named : ruleId? entries = some rule.id := by
    simp [ruleId?, written.id, h.named]
  have typed : readType entries rule.id commitTypes = .ok rule.commitType := by
    unfold readType
    rw [optionalText_of_found written.commitType]
    cases hc : rule.commitType with
    | none => rfl
    | some name =>
        have known : commitTypes.contains name := List.contains_iff_mem.mpr (h.typed name hc)
        simp only [bind, Except.bind, known, if_true]
        rfl
  simp only [value, readRule, named, written.known.unknownKeys_eq, typed,
    optionalText_of_found written.pattern, optionalText_of_found written.pathPart,
    optionalText_of_found written.deltaPart, optionalText_of_found written.reason,
    written.heuristics, List.mapM_nil, bind, Except.bind, pure, Except.pure]

theorem readRulesFrom_toValue {rules : List Rule} (h : ∀ rule ∈ rules, rule.Accepted commitTypes)
    (index : Nat) : readRulesFrom commitTypes index (rules.map (·.toValue)) = .ok rules := by
  induction rules generalizing index with
  | nil => rfl
  | cons rule rest ih =>
      obtain ⟨first, others⟩ := List.forall_mem_cons.mp h
      simp only [List.map_cons, readRulesFrom, readRule_toValue first, ih others, bind,
        Except.bind, pure, Except.pure]

end Rules

/-! ## Weights -/

theorem WeightName.ofText?_text (name : WeightName) : ofText? name.text = some name := by
  cases name <;> rfl

theorem TableName.ofText?_text (name : TableName) : ofText? name.text = some name := by
  cases name <;> rfl

/-- No table is called like a weight. -/
theorem WeightName.ofText?_tableName (name : TableName) : ofText? name.text = none := by
  cases name <;> rfl

theorem readSetting_toEntry (setting : WeightSetting Float Float) :
    readSetting setting.toEntry.1 setting.toEntry.2 = .ok setting := by
  cases setting with
  | weight name value =>
      simp only [WeightSetting.toEntry, readSetting, Value.shown, WeightName.ofText?_text]
      rfl
  | table name entries =>
      have items : tableEntries? (entries.map fun entry => (.text entry.1, weightValue entry.2)) =
          some (entries.mapValues .real) := by
        refine mapM_written (fun _ => ?_) entries
        rfl
      have value : readSetting (.text name.text)
          (.mapping (entries.map fun entry => (.text entry.1, weightValue entry.2))) =
            .ok (.table name entries) := by
        simp only [readSetting, Value.shown, WeightName.ofText?_tableName,
          TableName.ofText?_text, items]
        refine bind_eq_ok_iff.mpr ⟨entries, ?_, rfl⟩
        refine mapM_written_self (fun _ => ?_) entries
        rfl
      exact value

theorem readScoring_toEntry (settings : List (WeightSetting Float Float)) :
    readScoring (some (.mapping (settings.map (·.toEntry)))) = .ok settings :=
  mapM_written_self readSetting_toEntry settings

/-- Weights are written as their settings. -/
theorem Weights.toValue_mapValues (weights : Weights Float Float) :
    (weights.mapValues Number.real).toValue = .mapping (weights.settings.map (·.toEntry)) := by
  simp only [toValue, settings, mapValues, Multipliers.mapValues, WeightSetting.toEntry,
    List.map_append, List.map_map, List.map_cons, List.map_nil]
  rfl

/-! ## Configurations -/

/-- What reading checks in a configuration. -/
structure Config.Accepted (config : Config) : Prop where
  rules : ∀ rule ∈ config.rules, rule.Accepted config.commitTypes
  distinct : (config.rules.map (·.id)).Nodup
  types : ∃ extra, config.commitTypes = builtinCommitTypes ++ extra ∧
    ∀ name ∈ extra, name ∉ builtinCommitTypes

theorem defaultRules_accepted {commitTypes : List String}
    (h : ∀ name ∈ builtinCommitTypes, name ∈ commitTypes) :
    ∀ rule ∈ defaultRules, rule.Accepted commitTypes := by
  have test : "test" ∈ commitTypes := h _ (by decide)
  have docs : "docs" ∈ commitTypes := h _ (by decide)
  simp only [defaultRules, List.forall_mem_cons]
  refine ⟨⟨by decide, ?_⟩, ⟨by decide, ?_⟩, List.forall_mem_nil _⟩
  · rintro name ⟨⟩
    exact test
  · rintro name ⟨⟩
    exact docs

theorem readRules_accepted {value : Option Value} {commitTypes : List String} {rules : List Rule}
    (known : ∀ name ∈ builtinCommitTypes, name ∈ commitTypes)
    (h : readRules value commitTypes = .ok rules) :
    (∀ rule ∈ rules, rule.Accepted commitTypes) ∧ (rules.map (·.id)).Nodup := by
  have default : (∀ rule ∈ defaultRules, rule.Accepted commitTypes) ∧
      (defaultRules.map (·.id)).Nodup := ⟨defaultRules_accepted known, by decide⟩
  unfold readRules at h
  split at h
  · cases h
    exact default
  · cases h
    exact default
  · obtain ⟨rules', read, h⟩ := bind_eq_ok_iff.mp h
    split at h
    · cases h
    · cases h
      exact ⟨readRulesFrom_accepted read, (repeated?_eq_none_iff.mp ‹_›).1⟩
  · cases h

theorem readRules_toValue {commitTypes : List String} {rules : List Rule}
    (h : ∀ rule ∈ rules, rule.Accepted commitTypes) (distinct : (rules.map (·.id)).Nodup) :
    readRules (some (.list (rules.map Rule.toValue))) commitTypes = .ok rules := by
  have single : repeated? [] (rules.map (·.id)) = none :=
    repeated?_eq_none_iff.mpr ⟨distinct, fun _ _ => List.not_mem_nil⟩
  simp only [readRules, readRulesFrom_toValue h, single, bind, Except.bind, pure, Except.pure]

theorem topLevel_mapping {entries : List (Value × Value)} (h : KnownKeys topLevelKeys entries) :
    topLevel (.mapping entries) = .ok entries := by
  simp only [topLevel, h.unknownKeys_eq, List.isEmpty_nil, bind, Except.bind, pure, Except.pure,
    if_true]

theorem parseConfig_accepted {data : Value} {source : Option String} {config : Config}
    (h : parseConfig data source = .ok config) : config.Accepted := by
  simp only [parseConfig, bind_eq_ok_iff] at h
  obtain ⟨entries, -, commitTypes, types, rules, read, _, -, _, -, _, -, built⟩ := h
  cases built
  obtain ⟨extra, -, types⟩ := bind_eq_ok_iff.mp types
  cases types
  have known : ∀ name ∈ builtinCommitTypes, name ∈ builtinCommitTypes ++
      extra.filter fun name => !builtinCommitTypes.contains name :=
    fun _ found => List.mem_append_left _ found
  obtain ⟨accepted, distinct⟩ := readRules_accepted known read
  refine ⟨accepted, distinct, _, rfl, fun name found => ?_⟩
  simpa using (List.mem_filter.mp found).2

namespace Config

variable {config : Config}

/-- Types that are written in full are not added twice. -/
theorem Accepted.readCommitTypes_eq (h : config.Accepted) {entries : List (Value × Value)}
    (found : Yaml.entry? entries "commit_types" = some (textValues config.commitTypes)) :
    readCommitTypes entries = .ok config.commitTypes := by
  obtain ⟨extra, types, new⟩ := h.types
  have builtin : builtinCommitTypes.filter (fun name => !builtinCommitTypes.contains name) = [] := by
    decide
  have others : extra.filter (fun name => !builtinCommitTypes.contains name) = extra :=
    List.filter_eq_self.mpr fun name hname => by simpa using new name hname
  simp only [readCommitTypes, found, textList_textValues, types, List.filter_append, builtin,
    others, List.nil_append, bind, Except.bind, pure, Except.pure]

/-- What is accepted is accepted again as it is written. -/
theorem Accepted.parseConfig_toValue (h : config.Accepted) (source : Option String) :
    parseConfig config.toValue source = .ok { config with source, loadError := none } := by
  let entries : List (Value × Value) := [
    (.text "rules", .list (config.rules.map Rule.toValue)),
    (.text "exclude_paths", textValues config.excludePaths),
    (.text "include_only", textValues config.includeOnly),
    (.text "commit_types", textValues config.commitTypes),
    (.text "scoring", .mapping (config.scoring.map WeightSetting.toEntry))]
  have top : topLevel config.toValue = .ok entries :=
    topLevel_mapping (by simp [KnownKeys, topLevelKeys])
  have types : readCommitTypes entries = .ok config.commitTypes := h.readCommitTypes_eq rfl
  have rules : readRules (Yaml.entry? entries "rules") config.commitTypes = .ok config.rules :=
    readRules_toValue h.rules h.distinct
  have excluded : textList (Yaml.entry? entries "exclude_paths") "exclude_paths" =
      .ok config.excludePaths := textList_textValues _ _
  have included : textList (Yaml.entry? entries "include_only") "include_only" =
      .ok config.includeOnly := textList_textValues _ _
  have scoring : readScoring (Yaml.entry? entries "scoring") = .ok config.scoring :=
    readScoring_toEntry _
  simp only [parseConfig, top, types, rules, excluded, included, scoring, bind, Except.bind, pure,
    Except.pure]

/-- The weights as they are set, before they are numbers to compute with. -/
def setWeights (config : Config) : Weights Float Float :=
  (Weights.standard id).apply config.scoring

theorem weights_eq (config : Config) : config.weights = config.setWeights.mapValues .real := by
  rw [setWeights, Weights.mapValues_apply]
  unfold weights
  congr 1
  refine List.map_congr_left fun setting _ => ?_
  cases setting <;> rfl

/-- The configuration with all its weights as settings. -/
def withAllWeights (config : Config) : Config :=
  { config with scoring := config.setWeights.settings }

theorem toFullValue_eq (config : Config) : config.toFullValue = config.withAllWeights.toValue := by
  rw [toFullValue, weights_eq, Weights.toValue_mapValues]
  rfl

theorem setWeights_withAllWeights (config : Config) :
    config.withAllWeights.setWeights = config.setWeights :=
  Weights.apply_settings ((Weights.extends_standard id).apply config.scoring)

end Config

/-- An accepted configuration is the same when it is written and read again, its weights
can be set without a fault, and with all weights written out it is shown as before. -/
theorem parseConfig_roundTrip {data : Value} {source : Option String} {config : Config}
    (h : parseConfig data source = .ok config) :
    (∀ source, parseConfig config.toValue source =
        .ok { config with source, loadError := none }) ∧
      (∃ weights, Weights.ofData (.object (config.scoring.map (·.toMember))) = .ok weights ∧
        weights.numeric = .ok config.weights) ∧
      ∀ source, ∃ shown, parseConfig config.toFullValue source = .ok shown ∧
        shown.rules = config.rules ∧ shown.excludePaths = config.excludePaths ∧
        shown.includeOnly = config.includeOnly ∧ shown.commitTypes = config.commitTypes ∧
        shown.weights = config.weights ∧ shown.toFullValue = config.toFullValue := by
  have accepted : config.Accepted := parseConfig_accepted h
  have full : config.withAllWeights.Accepted :=
    ⟨accepted.rules, accepted.distinct, accepted.types⟩
  refine ⟨accepted.parseConfig_toValue, ⟨_, Weights.ofData_toMember config.scoring, ?_⟩,
    fun source => ?_⟩
  · rw [Weights.numeric_mapValues, Config.weights_eq]
    rfl
  · let shown : Config := { config.withAllWeights with source, loadError := none }
    have weights : shown.weights = config.weights := by
      rw [Config.weights_eq, Config.weights_eq, ← Config.setWeights_withAllWeights config]
      rfl
    have value : shown.toFullValue = config.toFullValue :=
      congrArg (fun weights => config.toValueWith (Weights.toValue weights)) weights
    refine ⟨shown, ?_, rfl, rfl, rfl, rfl, weights, value⟩
    rw [Config.toFullValue_eq]
    exact full.parseConfig_toValue source

/-- A rule with heuristics in both forms and a type of its own, types that are given twice
or built in, and a table with a name of its own. -/
theorem parseConfig_roundTrip_extended :
    let fast : List (Value × Value) := [
      (.text "type", .text "perf"), (.text "id", .text "fast"),
      (.text "heuristics", .list [.text "a", .mapping [(.text "if", .text "b")]])]
    let data : Value := .mapping [
      (.text "commit_types", .list [.text "perf", .text "fix", .text "perf"]),
      (.text "rules", .list [.mapping fast]),
      (.text "scoring", .mapping [(.text "file_type",
        .mapping [(.text "lua", .number (.real 2)), (.text "test", .number (.real 1))])])]
    let config : Config :=
      { rules := [{ id := "fast", commitType := some "perf", heuristics := ["a", "b"] }]
        commitTypes := builtinCommitTypes ++ ["perf", "perf"]
        scoring := [.table .fileKind [("lua", 2), ("test", 1)]] }
    parseConfig data = .ok config ∧
      (∀ source, parseConfig config.toValue source =
        .ok { config with source, loadError := none }) ∧
      (∃ weights, Weights.ofData (.object (config.scoring.map (·.toMember))) = .ok weights ∧
        weights.numeric = .ok config.weights) ∧
      ∀ source, ∃ shown, parseConfig config.toFullValue source = .ok shown ∧
        shown.rules = config.rules ∧ shown.excludePaths = config.excludePaths ∧
        shown.includeOnly = config.includeOnly ∧ shown.commitTypes = config.commitTypes ∧
        shown.weights = config.weights ∧ shown.toFullValue = config.toFullValue := by
  intro fast data config
  have top : topLevel data = .ok data.parts :=
    topLevel_mapping (by simp [KnownKeys, topLevelKeys])
  have unknown : unknownKeys ruleKeys fast = .ok [] :=
    KnownKeys.unknownKeys_eq (by simp [KnownKeys, fast, ruleKeys])
  have rule : readRule config.commitTypes 0 (.mapping fast) =
      .ok { id := "fast", commitType := some "perf", heuristics := ["a", "b"] } := by
    have named : ruleId? fast = some "fast" := by decide
    simp only [readRule, named, unknown]
    rfl
  have rules : readRules (Yaml.entry? data.parts "rules") config.commitTypes =
      .ok config.rules := by
    change readRules (some (.list [.mapping fast])) config.commitTypes = _
    simp only [readRules, readRulesFrom, rule]
    rfl
  have types : readCommitTypes data.parts = .ok config.commitTypes := rfl
  have scoring : readScoring (Yaml.entry? data.parts "scoring") = .ok config.scoring := rfl
  have parsed : parseConfig data = .ok config := by
    simp only [parseConfig, top, types, rules, scoring, bind, Except.bind]
    rfl
  exact ⟨parsed, parseConfig_roundTrip parsed⟩

end CommitLens
