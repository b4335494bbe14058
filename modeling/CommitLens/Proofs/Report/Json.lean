import CommitLens.Proofs.Json.Writer
import CommitLens.Proofs.Report.Choice
import CommitLens.Proofs.Report.Ranking
import CommitLens.Report.Render
import Mathlib.Algebra.BigOperators.Group.List.Lemmas

/-!
# The JSON report

What a reader finds in a JSON report, name by name.  Main statement: whatever the report is
about, its text stands for one value, and that value tells all of it: the counts, every failure
in its place, and every change with its data, the changes ranked by score.
-/

namespace CommitLens

open Json (Value Denotes)
open Ranking (Ranked)

/-! ## Rankings of changes -/

/-- By the numbers that the scores stand for, finite scores are ranked. -/
theorem ranked_sortByScore {changes : List (ScoredChange Float)}
    (h : ∀ change ∈ changes, change.score.isFinite = true) :
    Ranked (fun change => Decimal.valueOf change.score) changes (sortByScore changes) := by
  refine Ranking.ranked_sort fun a ha b hb => ?_
  rw [decide_eq_true_iff]
  exact Decimal.lt_iff_valueOf_lt (h b hb) (h a ha)

theorem mem_of_mem_sortByScore {changes : List (ScoredChange Float)}
    (h : ∀ change ∈ changes, change.score.isFinite = true) {change : ScoredChange Float}
    (hc : change ∈ sortByScore changes) : change ∈ changes :=
  (ranked_sortByScore h).perm.mem_iff.mp hc

theorem length_sortByScore {changes : List (ScoredChange Float)}
    (h : ∀ change ∈ changes, change.score.isFinite = true) :
    (sortByScore changes).length = changes.length :=
  (ranked_sortByScore h).perm.length_eq

/-! ## Counts of types -/

/-- The counts of the types among some changes, in order of first appearance. -/
structure Counts (types : List String) (counts : List (String × Nat)) : Prop where
  all : ∀ name, name ∈ counts.map (·.1) ↔ name ∈ types
  appearance : (counts.map (·.1)).Pairwise fun a b => types.idxOf a < types.idxOf b
  count : ∀ entry ∈ counts, entry.2 = types.count entry.1
  sum : (counts.map (·.2)).sum = types.length

theorem map_fst_tally (items : List String) : (tally items).map (·.1) = unique items := by
  simp [tally, Function.comp_def]

theorem sum_tally (items : List String) : ((tally items).map (·.2)).sum = items.length := by
  have same : (unique items).Perm items.dedup :=
    (List.perm_ext_iff_of_nodup (nodup_unique items) (List.nodup_dedup items)).mpr fun item => by
      simp
  rw [← List.sum_map_count_dedup_eq_length items, ← (same.map _).sum_eq, tally, List.map_map]
  rfl

theorem counts_tally (items : List String) : Counts items (tally items) where
  all name := by rw [map_fst_tally, mem_unique]
  appearance := map_fst_tally items ▸ pairwise_idxOf_unique items
  count _ he := (mem_tally.mp he).2
  sum := sum_tally items

namespace ReportContent

/-! ## What is told -/

/-- The member that a path of names leads to. -/
def at? (value : Value) (path : List String) : Option Value :=
  path.foldlM Value.member? value

structure TellsFactor (factor : ScoreFactor Float) (told : Value) : Prop where
  name : told.member? "name" = some (.text factor.name)
  value : told.member? "value" = some (.number factor.value)
  weight : told.member? "weight" = some (.number factor.weight)

structure TellsDelta (delta : Delta) (value : Value) : Prop where
  kind : value.member? "kind" = some (.text delta.kind.text)
  description : value.member? "description" = some (.text delta.description)
  severity : value.member? "severity" = some (.text delta.severity.text)
  symbol : value.member? "affectedSymbol" = some (.optionalText delta.affectedSymbol)

structure TellsFailure (failure : FileFailure) (value : Value) : Prop where
  path : value.member? "path" = some (.text failure.path)
  stage : value.member? "stage" = some (.text failure.stage)
  reason : value.member? "reason" = some (.text failure.reason)

/-- Is the value an array that tells of these items, one after the other? -/
def TellsAll {α : Type} (tells : α → Value → Prop) (items : List α) (value? : Option Value) :
    Prop :=
  ∃ values, value? = some (.array values) ∧ List.Forall₂ tells items values

structure TellsChange (change : ScoredChange Float) (value : Value) : Prop where
  path : value.member? "filePath" = some (.text change.path)
  kind : value.member? "changeKind" = some (.text change.kind.text)
  score : value.member? "score" = some (.real (Decimal.roundPlaces 4 change.score))
  commitType : value.member? "commitType" = some (.text change.commitType)
  commitScope : value.member? "commitScope" = some (.optionalText change.commitScope)
  breaking : value.member? "breaking" = some (.bool change.breaking)
  description : value.member? "description" = some (.text change.description)
  analyzed : value.member? "analyzed" = some (.bool change.analyzed)
  rules : TellsAll (fun rule value => value = .text rule) change.appliedRules
    (value.member? "appliedRules")
  factors : TellsAll TellsFactor change.factors (value.member? "scoreFactors")
  deltas : TellsAll TellsDelta change.deltas (value.member? "semanticChanges")

structure TellsSuggestion (suggestion : Suggestion) (value : Value) : Prop where
  commitType : value.member? "type" = some (.text suggestion.commitType)
  scope : value.member? "scope" = some (.optionalText suggestion.scope)
  subject : value.member? "subject" = some (.text suggestion.subject)
  body : value.member? "body" = some (.optionalText suggestion.body)
  breaking : value.member? "breaking" = some (.bool suggestion.breaking)
  header : value.member? "header" = some (.text suggestion.header)

/-- Does the value tell everything that the report is about? -/
structure Tells (content : ReportContent) (value : Value) : Prop where
  total : at? value ["summary", "totalChanges"] = some (.whole content.changes.length)
  breakdown : ∃ counts, Counts (content.changes.map (·.commitType)) counts ∧
    at? value ["summary", "breakdown"] =
      some (.object (counts.map fun (name, count) => (name, .whole count)))
  analyzed : at? value ["summary", "analyzedFiles"] = some (.whole content.counts.analyzed)
  detected : at? value ["summary", "detectedFiles"] = some (.whole content.counts.detected)
  skipped : at? value ["summary", "skippedFiles"] =
    some (.whole (max (content.counts.detected - content.counts.analyzed) 0))
  suggestion : ∃ told, value.member? "suggestedCommit" = some told ∧
    TellsSuggestion content.suggestion told
  failures : TellsAll TellsFailure content.failures (value.member? "failures")
  changes : ∃ ranked, Ranked (fun change => Decimal.valueOf change.score) content.changes ranked ∧
    TellsAll TellsChange ranked (value.member? "changes")

/-! ## The value of a report -/

section Value

variable {α : Type} {tells : α → Value → Prop} {toValue : α → Value}

theorem tellsAll_map (items : List α) (h : ∀ item, tells item (toValue item)) :
    TellsAll tells items (some (.array (items.map toValue))) := by
  refine ⟨_, rfl, ?_⟩
  rw [List.forall₂_map_right_iff, List.forall₂_same]
  exact fun item _ => h item

theorem tellsFactor_factorValue (factor : ScoreFactor Float) :
    TellsFactor factor (factorValue factor) := ⟨rfl, rfl, rfl⟩

theorem tellsDelta_deltaValue (delta : Delta) : TellsDelta delta (deltaValue delta) :=
  ⟨rfl, rfl, rfl, rfl⟩

theorem tellsFailure_failureValue (failure : FileFailure) :
    TellsFailure failure (failureValue failure) := ⟨rfl, rfl, rfl⟩

theorem tellsSuggestion_suggestionValue (suggestion : Suggestion) :
    TellsSuggestion suggestion (suggestionValue suggestion) := ⟨rfl, rfl, rfl, rfl, rfl, rfl⟩

theorem tellsChange_changeValue (change : ScoredChange Float) :
    TellsChange change (changeValue change) where
  path := rfl
  kind := rfl
  score := rfl
  commitType := rfl
  commitScope := rfl
  breaking := rfl
  description := rfl
  analyzed := rfl
  rules := tellsAll_map change.appliedRules fun _ => rfl
  factors := tellsAll_map change.factors tellsFactor_factorValue
  deltas := tellsAll_map change.deltas tellsDelta_deltaValue

/-- Are the scores of a report and the numbers of its factors finite? -/
structure HasFiniteNumbers (content : ReportContent) : Prop where
  score : ∀ change ∈ content.changes, change.score.isFinite = true
  factor : ∀ change ∈ content.changes, ∀ factor ∈ change.factors,
    factor.value.IsFinite ∧ factor.weight.IsFinite

variable {content : ReportContent}

theorem tells_toJson (h : ∀ change ∈ content.changes, change.score.isFinite = true) :
    Tells content content.toJson where
  total := rfl
  breakdown := ⟨_, counts_tally _, rfl⟩
  analyzed := rfl
  detected := rfl
  skipped := rfl
  suggestion := ⟨_, rfl, tellsSuggestion_suggestionValue _⟩
  failures := tellsAll_map content.failures tellsFailure_failureValue
  changes := ⟨_, ranked_sortByScore h, tellsAll_map _ tellsChange_changeValue⟩

theorem allFinite_changeValue {change : ScoredChange Float} (hs : change.score.isFinite = true)
    (hf : ∀ factor ∈ change.factors, factor.value.IsFinite ∧ factor.weight.IsFinite) :
    (changeValue change).AllFinite := by
  have score := Decimal.isFinite_roundPlaces hs 4
  have factors : ∀ factor ∈ change.factors, (factorValue factor).AllFinite := fun factor hm => by
    simpa [factorValue] using hf factor hm
  simpa [changeValue, deltaValue, score] using factors

theorem allFinite_toJson (h : content.HasFiniteNumbers) : content.toJson.AllFinite := by
  have changes : ∀ change ∈ sortByScore content.changes, (changeValue change).AllFinite := by
    intro change hc
    have member := mem_of_mem_sortByScore h.score hc
    exact allFinite_changeValue (h.score change member) (h.factor change member)
  simp only [toJson, suggestionValue, failureValue, Value.allFinite_object, Value.allFinite_array,
    List.forall_mem_cons, List.forall_mem_map]
  simpa using changes

theorem denotes_toJson (h : content.HasFiniteNumbers) :
    Denotes content.toJson.pretty.toList content.toJson :=
  Json.denotes_write _ (allFinite_toJson h) 0

end Value

/-- The text of a JSON report stands for one value, which the reader returns, and that value
tells what the report is about. -/
theorem render_json_tells {content : ReportContent} (h : content.HasFiniteNumbers)
    (detailed : Bool) :
    ∃ value, (∀ other, Denotes (content.render .json detailed).toList other ↔ other = value) ∧
      Json.parse? (content.render .json detailed) = some value ∧ Tells content value := by
  have denotes : Denotes (content.render .json detailed).toList content.toJson := denotes_toJson h
  refine ⟨content.toJson, fun other => ⟨fun ho => ho.unique denotes, ?_⟩, denotes.parse?,
    tells_toJson h.score⟩
  rintro rfl
  exact denotes

theorem render_json_tells_ties :
    let change (path : String) (score : Float) : ScoredChange Float :=
      { path, kind := .modified, commitType := "fix", score,
        factors := [⟨"file_type", .whole 1, .real 0.1⟩] }
    let content : ReportContent :=
      { changes := [change "a.py" 1.5, change "b\t𝄞.py" 2.25, change "c.py" 1.5]
        suggestion := { commitType := "fix", subject := "update \"b\"" }
        counts := ⟨4, 3⟩
        failures := [⟨"d.bin", "parsing", "binary"⟩] }
    content.HasFiniteNumbers ∧
      ∃ value, (∀ other, Denotes (content.render .json true).toList other ↔ other = value) ∧
        Json.parse? (content.render .json true) = some value ∧ Tells content value := by
  intro change content
  have weight : (0.1 : Float).isFinite = true := by decide +kernel
  have finite : content.HasFiniteNumbers :=
    { score := by decide +kernel
      factor := by simp [content, change, Number.IsFinite, weight] }
  exact ⟨finite, render_json_tells finite true⟩

end ReportContent

end CommitLens
