import CommitLens.Proofs.Change.LongNames
import CommitLens.Proofs.Rules.Vocabulary

/-!
# The first line of a commit message

A message is its header, or its header, an empty line and a body.  Main statement: over
files with paths of one line, the header is one line, and the first line of the message,
unless a rule of the configuration has a type of several lines, or the only delta of
the only file reports a name that goes over several lines in its source.
-/

namespace CommitLens

open Text

/-! ## Messages and headers -/

namespace Suggestion

variable (suggestion : Suggestion)

theorem message_cases :
    suggestion.message = suggestion.header ∨
      ∃ body, suggestion.message = suggestion.header ++ "\n\n" ++ body := by
  unfold message
  split
  · exact .inr ⟨_, rfl⟩
  · exact .inl rfl

/-- Cutting a message at its first line feed gives the header back exactly if the header
is one line. -/
theorem firstLine_message_eq_header_iff :
    firstLine suggestion.message = suggestion.header ↔ OneLine suggestion.header := by
  constructor
  · intro h
    exact h ▸ oneLine_firstLine suggestion.message
  · intro h
    rcases suggestion.message_cases with alone | ⟨body, whole⟩
    · rw [alone, firstLine_of_oneLine h]
    · have cut : suggestion.message = suggestion.header ++ "\n" ++ ("\n" ++ body) := by
        rw [whole, String.append_assoc, String.append_assoc]
        rfl
      rw [cut, firstLine_append h]

end Suggestion

theorem oneLine_scopeText {scope : Option String} (h : ∀ text, scope = some text → OneLine text) :
    OneLine (scopeText scope) := by
  cases scope with
  | none => decide
  | some text => exact oneLine_append.mpr ⟨oneLine_append.mpr ⟨by decide, h text rfl⟩, by decide⟩

theorem oneLine_breakingMark (breaking : Bool) : OneLine (breakingMark breaking) := by
  cases breaking <;> decide

theorem oneLine_suggestCommit_header {changes : List ClassifiedChange}
    (h : ∀ change ∈ changes, ∀ scope, change.commitScope = some scope → OneLine scope) :
    OneLine (suggestCommit changes).header ↔
      OneLine (suggestCommit changes).commitType ∧ OneLine (suggestCommit changes).subject := by
  have scope : OneLine (scopeText (suggestCommit changes).scope) := by
    refine oneLine_scopeText fun text ht => ?_
    rw [suggestCommit_scope] at ht
    obtain ⟨-, change, hc, hs⟩ := selectScope?_eq_some ht
    exact h change hc text hs
  have colon : OneLine ": " := by decide
  simp [suggestCommit_header, scope, oneLine_breakingMark, colon]

/-! ## Scopes -/

theorem mem_of_directoryBehind? {anchor directory : String} {parts : List String}
    (h : directoryBehind? anchor parts = some directory) : directory ∈ parts := by
  unfold directoryBehind? at h
  split at h
  · rename_i inner _ _ behind
    have member : inner ∈ parts.dropWhile (· != anchor) := by simp [behind]
    exact Option.some.inj h ▸ List.dropWhile_subset _ member
  · contradiction

theorem Scope.oneLine_text_ofPath (path : String) : OneLine (Scope.ofPath path).text := by
  unfold ofPath
  dsimp only
  split_ifs <;> decide

namespace ComparedChange

variable {change : ComparedChange}

theorem oneLine_commitScope? (hp : OneLine change.path) (hs : OneLine change.scope.text)
    {scope : String} (h : change.commitScope? = some scope) : OneLine scope := by
  have parts : ∀ part ∈ split '/' change.path, OneLine part := fun _ => hp.of_mem_split
  unfold commitScope? at h
  dsimp only at h
  split at h
  · rename_i found
    obtain rfl := Option.some.inj h
    exact parts _ (mem_of_directoryBehind? found)
  · split at h
    · rename_i found
      obtain rfl := Option.some.inj h
      exact parts _ (mem_of_directoryBehind? found)
    · split at h
      · contradiction
      · obtain rfl := Option.some.inj h
        exact hs

/-! ## Headlines and subjects -/

/-- A headline is the description of the only delta, or it is made of file names. -/
theorem headline_cases (hp : change.toChange.PathsOnOneLine) :
    (∃ delta, change.deltas = [delta] ∧ change.headline = delta.description) ∨
      ((∀ delta, change.deltas ≠ [delta]) ∧ OneLine change.headline) := by
  have name : OneLine (Path.fileName change.path) := hp.fileName
  have behind : ∀ words : String, OneLine words → OneLine (words ++ Path.fileName change.path) :=
    fun words h => oneLine_append.mpr ⟨h, name⟩
  unfold headline
  split
  · rename_i only
    exact .inl ⟨_, only, rfl⟩
  · rename_i several
    refine .inr ⟨several, ?_⟩
    dsimp only
    split
    · exact behind _ (by decide)
    · split
      · exact behind _ (by decide)
      · exact behind _ (by decide)
      · rename_i previous _ found
        have old := Path.oneLine_fileName (hp.previous previous (present?_eq_some_iff.mp found).1)
        exact oneLine_append.mpr ⟨oneLine_append.mpr ⟨oneLine_append.mpr
          ⟨by decide, old⟩, by decide⟩, name⟩
      · exact behind _ (by decide)

end ComparedChange

theorem oneLine_toString (n : Nat) : OneLine (toString n) := by
  intro lineFeed
  have digit : '\n' ∈ Nat.toDigits 10 n := by simpa using lineFeed
  exact absurd (Nat.isDigit_of_mem_toDigits (by decide) (by decide) digit) (by decide)

/-- A subject is one line if it describes no change; else it is one if the description
is. -/
theorem oneLine_subject (changes : List ClassifiedChange) (commitType : String) :
    OneLine (subject changes commitType) ↔
      ∀ change, changes = [change] → OneLine change.description := by
  have counted : ∀ before after : String, OneLine before → OneLine after →
      OneLine (before ++ toString changes.length ++ after) := fun _ _ hb ha =>
    oneLine_append.mpr ⟨oneLine_append.mpr ⟨hb, oneLine_toString _⟩, ha⟩
  unfold subject
  dsimp only
  split
  · rename_i change
    have only : (∀ other, [change] = [other] → OneLine other.description) ↔
        OneLine change.description := by simp
    rw [only]
    split
    · rename_i empty
      have none : change.description = "" := by simpa using empty
      rw [none]
      decide
    · exact Iff.rfl
  all_goals rename ∀ change, changes = [change] → False => several
  · exact iff_of_true (counted _ _ (by decide) (by decide)) fun _ hc => (several _ hc).elim
  · exact iff_of_true (counted _ _ (by decide) (by decide)) fun _ hc => (several _ hc).elim
  · exact iff_of_true (counted _ _ (by decide) (by decide)) fun _ hc => (several _ hc).elim
  · exact iff_of_true (by decide) fun _ hc => (several _ hc).elim
  · exact iff_of_true (by decide) fun _ hc => (several _ hc).elim
  · exact iff_of_true (counted _ _ (by decide) (by decide)) fun _ hc => (several _ hc).elim

theorem not_oneLine_suggestCommit_subject {changes : List ClassifiedChange} :
    ¬OneLine (suggestCommit changes).subject ↔
      ∃ change, changes = [change] ∧ ¬OneLine change.description := by
  by_cases h : changes = []
  · subst h
    refine iff_of_false (not_not_intro (by decide)) ?_
    rintro ⟨_, one, -⟩
    contradiction
  · rw [suggestCommit_of_ne_nil h, oneLine_subject]
    push Not
    rfl

/-! ## Runs -/

/-- The only delta of the change reports a name of several lines. -/
def Change.ReportsLongName (change : Change) : Prop :=
  ∃ found delta, change.compare = .ok found ∧ found.deltas = [delta] ∧
    delta.SpansLines change.oldVersion change.newVersion

/-- How the header of an analysis heads its message, and when it is one line. -/
structure Analysis.HeadsMessage (config : Config) (changes : List Change)
    (analysis : Analysis) : Prop where
  /-- The message is the header, or the header, an empty line and a body. -/
  message : analysis.suggestion.message = analysis.suggestion.header ∨
    ∃ body, analysis.suggestion.message = analysis.suggestion.header ++ "\n\n" ++ body
  /-- The header is what stands before the first line feed exactly if it is one line. -/
  cut : firstLine analysis.suggestion.message = analysis.suggestion.header ↔
    OneLine analysis.suggestion.header
  header : OneLine analysis.suggestion.header ↔
    OneLine analysis.suggestion.commitType ∧ OneLine analysis.suggestion.subject
  /-- A type of several lines is one that a rule has. -/
  commitType : ¬OneLine analysis.suggestion.commitType →
    ∃ rule ∈ config.rules, rule.commitType = some analysis.suggestion.commitType
  /-- A subject of several lines describes the only delta of the only change. -/
  subject : ¬OneLine analysis.suggestion.subject ↔
    ∃ change, changes = [change] ∧ change.ReportsLongName

namespace Change

variable {change : Change}

theorem toChange_link (graph : DependencyGraph) (change : Change) :
    (change.link graph).toChange = change :=
  rfl

theorem toChange_compare_link (graph : DependencyGraph) (change : Change) :
    (change.link graph).compare.1.toChange = change := by
  rw [LinkedChange.compare_toLinkedChange, toChange_link]

theorem scope_compare_link (graph : DependencyGraph) (change : Change) :
    (change.link graph).compare.1.scope = Scope.ofPath change.path := by
  rw [LinkedChange.compare_toLinkedChange]
  simp only [link]

theorem PathsOnOneLine.oneLine_commitScope? {graph : DependencyGraph} (hp : change.PathsOnOneLine)
    {scope : String} (h : (change.link graph).compare.1.commitScope? = some scope) :
    OneLine scope := by
  refine ComparedChange.oneLine_commitScope? ?_ ?_ h
  · rw [change.toChange_compare_link graph]
    exact hp.path
  · rw [change.scope_compare_link graph]
    exact Scope.oneLine_text_ofPath change.path

theorem deltas_compare_link_of_ok {graph : DependencyGraph} {found : Comparison}
    (h : change.compare = .ok found) : (change.link graph).compare.1.deltas = found.deltas := by
  have linked : (change.link graph).toChange.compare = .ok found := by rw [toChange_link, h]
  rw [LinkedChange.compare_of_ok linked]
  rfl

theorem deltas_compare_link_of_error {graph : DependencyGraph} {error : ParseError}
    (h : change.compare = .error error) : (change.link graph).compare.1.deltas = [] := by
  have linked : (change.link graph).toChange.compare = .error error := by rw [toChange_link, h]
  rw [LinkedChange.compare_of_error linked]
  rfl

theorem PathsOnOneLine.not_oneLine_headline (hp : change.PathsOnOneLine)
    (graph : DependencyGraph) :
    ¬OneLine (change.link graph).compare.1.headline ↔ change.ReportsLongName := by
  have paths : (change.link graph).compare.1.toChange.PathsOnOneLine := by
    rw [change.toChange_compare_link graph]
    exact hp
  have described := ComparedChange.headline_cases paths
  cases hc : change.compare with
  | error error =>
      rw [deltas_compare_link_of_error hc] at described
      refine iff_of_false (not_not_intro ?_) ?_
      · rcases described with ⟨_, only, -⟩ | ⟨-, line⟩
        · contradiction
        · exact line
      · rintro ⟨_, _, ok, -⟩
        rw [hc] at ok
        contradiction
  | ok found =>
      have reports : change.ReportsLongName ↔ ∃ delta, found.deltas = [delta] ∧
          delta.SpansLines change.oldVersion change.newVersion := by
        simp only [ReportsLongName, hc, Except.ok.injEq, exists_and_left, exists_eq_left']
      rw [reports]
      rw [deltas_compare_link_of_ok hc] at described
      rcases described with ⟨delta, only, headline⟩ | ⟨several, line⟩
      · have fits := deltasFit_compare hp hc delta (only ▸ List.mem_singleton_self delta)
        rw [headline]
        constructor
        · intro long
          exact ⟨delta, only, fits.resolve_left long⟩
        · rintro ⟨other, hd, long⟩
          obtain rfl := List.singleton_inj.mp (only.symm.trans hd)
          exact long.not_oneLine
      · refine iff_of_false (not_not_intro line) ?_
        rintro ⟨delta, only, -⟩
        exact several delta only

end Change

namespace Pipeline

variable {config : Config} {graph : DependencyGraph} {change : Change}

theorem commitScope_scoreChange :
    (scoreChange config graph change).commitScope =
      (change.link graph).compare.1.commitScope? := by
  simp only [scoreChange, ClassifiedChange.score, ComparedChange.classify]

theorem not_oneLine_description (hp : change.PathsOnOneLine) :
    ¬OneLine (scoreChange config graph change).description ↔ change.ReportsLongName := by
  rw [← hp.not_oneLine_headline graph]
  simp only [scoreChange, ClassifiedChange.score, ComparedChange.classify]

/-- The type of a change goes over several lines only if a rule has such a type. -/
theorem exists_rule_of_not_oneLine (long : ¬OneLine (scoreChange config graph change).commitType) :
    ∃ rule ∈ config.rules,
      rule.commitType = some (scoreChange config graph change).commitType := by
  have builtin : ∀ name ∈ builtinCommitTypes, OneLine name := by decide
  rcases (change.link graph).compare.1.classify_commitType_cases config.rules with
    known | ⟨rule, hr, -, ht⟩
  · exact absurd (builtin _ known) long
  · exact ⟨rule, hr, ht⟩

/-- The header of an analysis heads its message, and it is one line up to long names. -/
theorem process_headsMessage {pipeline : Pipeline} {input : PipelineInput} {analysis : Analysis}
    (hp : ∀ change ∈ input.changes, change.PathsOnOneLine)
    (h : (pipeline.process input).1 = .ok analysis) :
    analysis.HeadsMessage pipeline.config input.changes := by
  obtain ⟨graph, changes⟩ : ∃ graph,
      analysis.changes = input.changes.map (scoreChange pipeline.config graph) :=
    ⟨_, (process_eq_ok h).1.trans (scoreChanges_fst pipeline.config input)⟩
  have suggested : analysis.suggestion = suggestCommit ((input.changes.map
      (scoreChange pipeline.config graph)).map (·.toClassifiedChange)) :=
    changes ▸ suggestion_of_process h
  rw [List.map_map] at suggested
  refine ⟨analysis.suggestion.message_cases, analysis.suggestion.firstLine_message_eq_header_iff,
    ?header, ?commitType, ?subject⟩
  case header =>
    rw [suggested]
    refine oneLine_suggestCommit_header fun scored hs scope ht => ?_
    obtain ⟨change, hc, rfl⟩ := List.mem_map.mp hs
    exact (hp change hc).oneLine_commitScope? (commitScope_scoreChange ▸ ht)
  case commitType =>
    rw [suggested, suggestCommit_commitType]
    intro long
    rcases selectType_cases _ with ⟨-, default⟩ | ⟨scored, hs, typed⟩
    · rw [default] at long
      exact absurd (by decide) long
    · obtain ⟨change, -, rfl⟩ := List.mem_map.mp hs
      rw [typed] at long ⊢
      exact exists_rule_of_not_oneLine long
  case subject =>
    rw [suggested, not_oneLine_suggestCommit_subject]
    constructor
    · rintro ⟨_, one, long⟩
      obtain ⟨change, only, rfl⟩ := List.map_eq_singleton_iff.mp one
      have path : change.PathsOnOneLine := hp change (only ▸ List.mem_singleton_self change)
      exact ⟨change, only, (not_oneLine_description path).mp long⟩
    · rintro ⟨change, only, long⟩
      have path : change.PathsOnOneLine := hp change (only ▸ List.mem_singleton_self change)
      exact ⟨_, List.map_eq_singleton_iff.mpr ⟨change, only, rfl⟩,
        (not_oneLine_description path).mpr long⟩

/-- The theorem over a renamed file and a list of exports that has a name of two lines. -/
theorem process_headsMessage_renamed :
    let pipeline : Pipeline := {}
    let input : PipelineInput :=
      { changes := [
          Change.ofContents "lib/b.py" .renamed (some "x = 1\n") (some "x = 2\n") (some "a.py"),
          Change.ofContents "api.py" .modified (some "__all__ = []\n")
            (some "__all__ = [\"a\\nb\"]\n")]
        format := "json" }
    (∀ change ∈ input.changes, change.PathsOnOneLine) ∧
      ∃ analysis, (pipeline.process input).1 = .ok analysis ∧
        analysis.HeadsMessage pipeline.config input.changes := by
  intro pipeline input
  have paths : ∀ change ∈ input.changes, change.PathsOnOneLine := by
    refine List.forall_mem_cons.mpr ⟨⟨by decide, ?_⟩, List.forall_mem_singleton.mpr ⟨by decide, ?_⟩⟩
    · rintro _ ⟨⟩
      decide
    · rintro _ ⟨⟩
  have format : ReportFormat.ofText? input.format = some .json := by decide +kernel
  obtain ⟨analysis, ok, -⟩ := pipeline.process_of_known format
  exact ⟨paths, analysis, ok, process_headsMessage paths ok⟩

/-- One file that exports a name of two lines: the header has two lines too, and cutting
the message does not give it back. -/
theorem process_longExport :
    let change := Change.ofContents "api.py" .modified (some "__all__ = []\n")
      (some "__all__ = [\"a\\nb\"]\n")
    let input : PipelineInput := { changes := [change], format := "json" }
    change.PathsOnOneLine ∧ ∃ analysis, (process {} input).1 = .ok analysis ∧
      analysis.suggestion.subject = "Added export: a\nb" ∧
      ¬OneLine analysis.suggestion.subject ∧ ¬OneLine analysis.suggestion.header ∧
      firstLine analysis.suggestion.message ≠ analysis.suggestion.header := by
  intro change input
  have format : ReportFormat.ofText? input.format = some .json := by decide +kernel
  obtain ⟨analysis, ok, changes, suggestion⟩ := process_of_known {} format
  have long : analysis.suggestion = { commitType := "feat", subject := "Added export: a\nb" } := by
    rw [suggestion, changes]
    decide +kernel
  refine ⟨⟨by decide, ?_⟩, analysis, ok, ?_⟩
  · rintro _ ⟨⟩
  · rw [long]
    decide +kernel

end Pipeline

end CommitLens
