import CommitLens.Json.Writer
import CommitLens.Report.Ranking
import CommitLens.Report.Suggestion
import CommitLens.Score.Formula

/-!
# Reports

A report on scored changes as JSON, as Markdown or as plain text.  Every format
says how many of the detected files were analyzed, and lists the changes by
descending score.
-/

namespace CommitLens

inductive ReportFormat where
  | json
  | markdown
  | plain
  deriving Repr, BEq, DecidableEq

namespace ReportFormat

def text : ReportFormat → String
  | json => "json"
  | markdown => "markdown"
  | plain => "cli"

def all : List ReportFormat := [json, markdown, plain]

def ofText? (text : String) : Option ReportFormat :=
  all.find? fun format => format.text == text

/-- What is said about a format that does not exist. -/
def unknownMessage (text : String) : String :=
  "Unknown report format '" ++ text ++ "' (expected one of " ++
    Text.join ", " (all.map ReportFormat.text) ++ ")"

end ReportFormat

/-- How many files were found and how many of them were analyzed. -/
structure FileCounts where
  detected : Int
  analyzed : Nat
  deriving Repr, BEq, DecidableEq

namespace FileCounts

def skipped (counts : FileCounts) : Int :=
  max (counts.detected - counts.analyzed) 0

def line (counts : FileCounts) : String :=
  "Analyzed " ++ toString counts.analyzed ++ " of " ++ toString counts.detected ++
    " detected files"

end FileCounts

/-- Everything a report is about. -/
structure ReportContent where
  changes : List (ScoredChange Float)
  suggestion : Suggestion
  counts : FileCounts
  failures : List FileFailure

/-- Changes by descending score; those of equal score keep their order. -/
def sortByScore (changes : List (ScoredChange Float)) : List (ScoredChange Float) :=
  Ranking.sort (fun a b => b.score < a.score) changes

/-- The commit types with their counts, in order of first appearance. -/
def typeCounts (changes : List (ScoredChange Float)) : List (String × Nat) :=
  tally (changes.map (·.commitType))

def analyzedCount (changes : List (ScoredChange Float)) : Nat :=
  (changes.filter (·.analyzed)).length

/-- Items with their numbers, counted from one. -/
def numbered {α : Type} (items : List α) : List (Nat × α) :=
  (List.range' 1 items.length).zip items

namespace ReportContent

section Json

open Json

def factorValue (factor : ScoreFactor Float) : Value :=
  .object [("name", .text factor.name), ("value", .number factor.value),
    ("weight", .number factor.weight)]

def deltaValue (delta : Delta) : Value :=
  .object [("kind", .text delta.kind.text), ("description", .text delta.description),
    ("severity", .text delta.severity.text),
    ("affectedSymbol", .optionalText delta.affectedSymbol)]

def changeValue (change : ScoredChange Float) : Value :=
  .object [
    ("filePath", .text change.path),
    ("changeKind", .text change.kind.text),
    ("score", .real (Decimal.roundPlaces 4 change.score)),
    ("commitType", .text change.commitType),
    ("commitScope", .optionalText change.commitScope),
    ("breaking", .bool change.breaking),
    ("description", .text change.description),
    ("analyzed", .bool change.analyzed),
    ("appliedRules", .texts change.appliedRules),
    ("scoreFactors", .array (change.factors.map factorValue)),
    ("semanticChanges", .array (change.deltas.map deltaValue))]

def suggestionValue (suggestion : Suggestion) : Value :=
  .object [
    ("type", .text suggestion.commitType),
    ("scope", .optionalText suggestion.scope),
    ("subject", .text suggestion.subject),
    ("body", .optionalText suggestion.body),
    ("breaking", .bool suggestion.breaking),
    ("header", .text suggestion.header)]

def failureValue (failure : FileFailure) : Value :=
  .object [("path", .text failure.path), ("stage", .text failure.stage),
    ("reason", .text failure.reason)]

/-- The JSON report. -/
def toJson (content : ReportContent) : Value :=
  .object [
    ("summary", .object [
      ("totalChanges", .whole content.changes.length),
      ("breakdown", .object ((typeCounts content.changes).map fun (name, count) =>
        (name, .whole count))),
      ("analyzedFiles", .whole content.counts.analyzed),
      ("detectedFiles", .whole content.counts.detected),
      ("skippedFiles", .whole content.counts.skipped)]),
    ("suggestedCommit", suggestionValue content.suggestion),
    ("failures", .array (content.failures.map failureValue)),
    ("changes", .array ((sortByScore content.changes).map changeValue))]

end Json

/-- A score with two places. -/
def scoreText (score : Float) : String :=
  Decimal.fixedText 2 score

/-- A number with at most six digits. -/
def briefNumber (n : Number Float) : String :=
  Decimal.generalText 6 n.toReal

section Markdown

def factorLine (factor : ScoreFactor Float) : String :=
  "- " ++ factor.name ++ ": " ++ briefNumber factor.value ++ " × " ++
    briefNumber factor.weight ++ " = " ++ scoreText (factor.value.mul factor.weight).toReal

/-- A heading with a list below it, if there are items. -/
def subsection (heading : String) (items : List String) : List String :=
  if items.isEmpty then [] else ["", "#### " ++ heading] ++ items

/-- What a detailed report adds for one change. -/
def detailLines (change : ScoredChange Float) : List String :=
  subsection "Semantic Changes" (change.deltas.map fun delta =>
      "- " ++ delta.description ++ " (" ++ delta.severity.text ++ ")") ++
    subsection "Applied Rules" (change.appliedRules.map ("- " ++ ·)) ++
    subsection "Score Factors" (change.factors.map factorLine)

/-- A line for a text that is there and not empty. -/
def labelled (label : String) (text? : Option String) : List String :=
  match present? text? with
  | some text => ["- **" ++ label ++ ":** " ++ text]
  | none => []

def changeLines (detailed : Bool) (index : Nat) (change : ScoredChange Float) : List String :=
  ["### " ++ toString index ++ ". " ++ Path.fileName change.path,
    "- **File:** " ++ change.path,
    "- **Change:** " ++ change.kind.text,
    "- **Score:** " ++ scoreText change.score,
    "- **Commit type:** " ++ change.commitType ++
      if change.breaking then " (breaking)" else ""] ++
    labelled "Scope" change.commitScope ++
    labelled "Description" (some change.description) ++
    (if change.analyzed then []
      else ["- **Note:** could not be parsed, classified from its path only"]) ++
    (if detailed then detailLines change else []) ++ [""]

def skippedLines (failures : List FileFailure) : List String :=
  if failures.isEmpty then []
  else
    ["", "## Skipped Files", ""] ++ failures.map fun failure =>
      "- \x60" ++ failure.path ++ "\x60 (" ++ failure.stage ++ "): " ++ failure.reason

def breakingLines (changes : List (ScoredChange Float)) : List String :=
  let breaking := changes.filter (·.breaking)
  if breaking.isEmpty then []
  else
    ["", "### " ++ toString breaking.length ++ " Breaking Changes Detected", ""] ++
      breaking.map fun change =>
        "- **" ++ Path.fileName change.path ++ ":** " ++ change.description

/-- A text without the line feeds at its end. -/
def dropLastLineFeeds (text : String) : String :=
  String.ofList (text.toList.reverse.dropWhile (· == '\n')).reverse

def toMarkdown (detailed : Bool) (content : ReportContent) : String :=
  let opening := ["# DiffSense Analysis Report", "", "_" ++ content.counts.line ++ "._", ""]
  if content.changes.isEmpty then
    Text.join "\n" (opening ++ ["No changes detected."] ++ skippedLines content.failures) ++ "\n"
  else
    let fence := "\x60\x60\x60"
    let lines := opening ++
      ["## " ++ toString content.changes.length ++ " changes found", "", "## Summary", "",
        "### Change Types", ""] ++
      ((typeCounts content.changes).map fun (name, count) =>
        "- **" ++ name ++ ":** " ++ toString count) ++
      breakingLines content.changes ++
      ["", "## Commit Suggestion", "", fence, content.suggestion.message, fence] ++
      ["", "## Change Details", ""] ++
      ((numbered (sortByScore content.changes)).flatMap fun (index, change) =>
        changeLines detailed index change) ++
      skippedLines content.failures
    dropLastLineFeeds (Text.join "\n" lines) ++ "\n"

end Markdown

section Plain

/-- How many changes a plain report lists. -/
def topCount : Nat := 5

def plainChange (index : Nat) (change : ScoredChange Float) : List String :=
  [toString index ++ ". " ++ Path.fileName change.path ++ " (" ++ scoreText change.score ++
      ") [" ++ change.commitType ++ "]",
    "   " ++ if change.description.isEmpty then "No description" else change.description]

def plainBreaking (changes : List (ScoredChange Float)) : List String :=
  let breaking := changes.filter (·.breaking)
  if breaking.isEmpty then []
  else
    ["", "BREAKING CHANGES (" ++ toString breaking.length ++ "):"] ++
      breaking.map fun change => "- " ++ change.path ++ ": " ++ change.description

def plainFailures (failures : List FileFailure) : List String :=
  if failures.isEmpty then []
  else
    ["", "Skipped files:"] ++ failures.map fun failure =>
      "- " ++ failure.path ++ ": " ++ failure.reason

def toPlain (content : ReportContent) : String :=
  let opening := ["=== DiffSense Analysis Report ===", "", content.counts.line, ""]
  let body :=
    if content.changes.isEmpty then ["No changes detected."]
    else
      let top := (sortByScore content.changes).take topCount
      [toString content.changes.length ++ " changes found"] ++
        ((typeCounts content.changes).map fun (name, count) =>
          "- " ++ name ++ ": " ++ toString count) ++
        ["", "Commit suggestion: " ++ content.suggestion.header] ++
        plainBreaking content.changes ++
        ["", "Top " ++ toString top.length ++ " changes:"] ++
        (numbered top).flatMap fun (index, change) => plainChange index change
  Text.join "\n" (opening ++ body ++ plainFailures content.failures) ++ "\n"

end Plain

/-- The report in a format; only Markdown has details. -/
def render (format : ReportFormat) (detailed : Bool) (content : ReportContent) : String :=
  match format with
  | .json => content.toJson.pretty
  | .markdown => content.toMarkdown detailed
  | .plain => content.toPlain

end ReportContent

end CommitLens
