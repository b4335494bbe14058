import CommitLens.Proofs.Report.Line
import CommitLens.Proofs.Text.Paragraph

/-!
# The sections of reports

The Markdown and the plain report are sections of lines, each with an empty line before it.
Main statements: both texts are their sections joined, and the paragraphs of their lines are
these sections.
-/

namespace CommitLens.ReportContent

open Text

/-- A heading and lines right below it, if there are any. -/
def headed (heading : String) (lines : List String) : List (List String) :=
  if lines.isEmpty then [] else [heading :: lines]

/-- A heading and lines in a section of their own, if there are any. -/
def headedApart (heading : String) (lines : List String) : List (List String) :=
  if lines.isEmpty then [] else [[heading], lines]

section Markdown

/-- What a Markdown report says of every change. -/
def changeFacts (index : Nat) (change : ScoredChange Float) : List String :=
  ["### " ++ toString index ++ ". " ++ Path.fileName change.path,
    "- **File:** " ++ change.path,
    "- **Change:** " ++ change.kind.text,
    "- **Score:** " ++ scoreText change.score,
    "- **Commit type:** " ++ change.commitType ++
      if change.breaking then " (breaking)" else ""] ++
    labelled "Scope" change.commitScope ++
    labelled "Description" (some change.description) ++
    (if change.analyzed then []
      else ["- **Note:** could not be parsed, classified from its path only"])

def detailSections (change : ScoredChange Float) : List (List String) :=
  headed "#### Semantic Changes" (change.deltas.map fun delta =>
      "- " ++ delta.description ++ " (" ++ delta.severity.text ++ ")") ++
    headed "#### Applied Rules" (change.appliedRules.map ("- " ++ ·)) ++
    headed "#### Score Factors" (change.factors.map factorLine)

def changeSections (detailed : Bool) (index : Nat) (change : ScoredChange Float) :
    List (List String) :=
  changeFacts index change :: if detailed then detailSections change else []

def markdownType (entry : String × Nat) : String :=
  "- **" ++ entry.1 ++ ":** " ++ toString entry.2

def markdownBreaking (change : ScoredChange Float) : String :=
  "- **" ++ Path.fileName change.path ++ ":** " ++ change.description

def markdownFailure (failure : FileFailure) : String :=
  "- \x60" ++ failure.path ++ "\x60 (" ++ failure.stage ++ "): " ++ failure.reason

theorem subsection_eq (heading : String) (lines : List String) :
    subsection heading lines = spread (headed ("#### " ++ heading) lines) := by
  unfold subsection headed
  split <;> simp

/-- The lines of a change, with the empty line before them. -/
theorem changeLines_eq (detailed : Bool) (index : Nat) (change : ScoredChange Float) :
    "" :: changeLines detailed index change =
      spread (changeSections detailed index change) ++ [""] := by
  have details : detailLines change = spread (detailSections change) := by
    simp only [detailLines, subsection_eq, detailSections, spread_append]
    rfl
  cases detailed <;> simp [changeLines, changeSections, changeFacts, details]

variable (content : ReportContent)

/-- The sections up to the suggestion. -/
def overview : List (List String) :=
  [["_" ++ content.counts.line ++ "._"],
    ["## " ++ toString content.changes.length ++ " changes found"],
    ["## Summary"], ["### Change Types"], (typeCounts content.changes).map markdownType] ++
    headedApart ("### " ++ toString (content.changes.filter (·.breaking)).length ++
        " Breaking Changes Detected")
      ((content.changes.filter (·.breaking)).map markdownBreaking) ++
    [["## Commit Suggestion"]]

def failureSections : List (List String) :=
  headedApart "## Skipped Files" (content.failures.map markdownFailure)

def changesSections (detailed : Bool) : List (List String) :=
  (numbered (sortByScore content.changes)).flatMap fun entry =>
    changeSections detailed entry.1 entry.2

def markdownFence : String := "\x60\x60\x60"

/-- The lines of a Markdown report around those of the suggestion. -/
def markdownLines (detailed : Bool) (suggestion : List String) : List String :=
  ("# DiffSense Analysis Report" :: spread content.overview) ++
    "" :: ((markdownFence :: suggestion ++ [markdownFence]) ++
      spread (["## Change Details"] :: content.changesSections detailed)) ++
    "" :: spread content.failureSections

theorem flatMap_changeLines (detailed : Bool) (entries : List (Nat × ScoredChange Float)) :
    "" :: entries.flatMap (fun entry => changeLines detailed entry.1 entry.2) =
      spread (entries.flatMap fun entry => changeSections detailed entry.1 entry.2) ++ [""] := by
  induction entries with
  | nil => rfl
  | cons entry entries ih =>
      rw [List.flatMap_cons, List.flatMap_cons, ← List.cons_append, changeLines_eq, spread_append,
        List.append_assoc, List.singleton_append, ih, List.append_assoc]

theorem skippedLines_eq (failures : List FileFailure) :
    skippedLines failures =
      spread (headedApart "## Skipped Files" (failures.map markdownFailure)) := by
  unfold skippedLines headedApart
  rw [List.isEmpty_map]
  split <;> simp [markdownFailure]

theorem breakingLines_eq (changes : List (ScoredChange Float)) :
    breakingLines changes =
      spread (headedApart ("### " ++ toString (changes.filter (·.breaking)).length ++
          " Breaking Changes Detected")
        ((changes.filter (·.breaking)).map markdownBreaking)) := by
  unfold breakingLines headedApart
  rw [List.isEmpty_map]
  split <;> simp [markdownBreaking, *]

variable {content}

theorem toMarkdown_eq (h : content.changes ≠ []) (detailed : Bool) :
    content.toMarkdown detailed =
      dropLastLineFeeds
        (Text.join "\n" (content.markdownLines detailed [content.suggestion.message])) ++ "\n" := by
  have some : content.changes.isEmpty = false := by simpa using h
  have details (rest : List String) :
      "" :: ((numbered (sortByScore content.changes)).flatMap
          (fun entry => changeLines detailed entry.1 entry.2) ++ rest) =
        spread (content.changesSections detailed) ++ "" :: rest := by
    rw [← List.cons_append, flatMap_changeLines, List.append_assoc]
    rfl
  unfold toMarkdown
  dsimp only
  rw [some, if_neg Bool.false_ne_true, skippedLines_eq, breakingLines_eq]
  refine congrArg (fun lines => dropLastLineFeeds (Text.join "\n" lines) ++ "\n") ?_
  simp only [markdownLines, overview, failureSections, markdownFence, spread_append, spread_cons,
    spread_nil, List.cons_append, List.append_assoc, List.nil_append, List.append_nil, details]
  rfl

end Markdown

section Plain

def plainType (entry : String × Nat) : String :=
  "- " ++ entry.1 ++ ": " ++ toString entry.2

def plainBreakingLine (change : ScoredChange Float) : String :=
  "- " ++ change.path ++ ": " ++ change.description

def plainFailure (failure : FileFailure) : String :=
  "- " ++ failure.path ++ ": " ++ failure.reason

variable (content : ReportContent)

/-- The first changes, numbered. -/
def plainTop : List String :=
  let top := (sortByScore content.changes).take topCount
  ("Top " ++ toString top.length ++ " changes:") ::
    (numbered top).flatMap fun (index, change) => plainChange index change

def plainBreakingHeading : String :=
  "BREAKING CHANGES (" ++ toString (content.changes.filter (·.breaking)).length ++ "):"

/-- The sections of a plain report behind its title. -/
def plainSections : List (List String) :=
  [[content.counts.line],
    (toString content.changes.length ++ " changes found") ::
      (typeCounts content.changes).map plainType,
    ["Commit suggestion: " ++ content.suggestion.header]] ++
    headed content.plainBreakingHeading
      ((content.changes.filter (·.breaking)).map plainBreakingLine) ++
    [content.plainTop] ++
    headed "Skipped files:" (content.failures.map plainFailure)

def plainLines : List String :=
  "=== DiffSense Analysis Report ===" :: spread content.plainSections

theorem plainFailures_eq (failures : List FileFailure) :
    plainFailures failures = spread (headed "Skipped files:" (failures.map plainFailure)) := by
  unfold plainFailures headed
  rw [List.isEmpty_map]
  split <;> simp [plainFailure]

theorem plainBreaking_eq (changes : List (ScoredChange Float)) :
    plainBreaking changes =
      spread (headed
        ("BREAKING CHANGES (" ++ toString (changes.filter (·.breaking)).length ++ "):")
        ((changes.filter (·.breaking)).map plainBreakingLine)) := by
  unfold plainBreaking headed
  rw [List.isEmpty_map]
  split <;> simp [plainBreakingLine, *]

variable {content}

theorem toPlain_eq (h : content.changes ≠ []) :
    content.toPlain = Text.join "\n" content.plainLines ++ "\n" := by
  have some : content.changes.isEmpty = false := by simpa using h
  unfold toPlain
  dsimp only
  rw [some, if_neg Bool.false_ne_true, plainFailures_eq, plainBreaking_eq]
  refine congrArg (fun lines => Text.join "\n" lines ++ "\n") ?_
  simp only [plainLines, plainSections, plainTop, spread_append, spread_cons, List.cons_append,
    List.append_assoc, List.nil_append]
  rfl

end Plain

/-! ## Paragraphs -/

section Paragraphs

variable {P : String → Prop} {heading : String} {lines : List String}

theorem forall_headed (hh : P heading) (hl : ∀ line ∈ lines, P line) :
    ∀ part ∈ headed heading lines, ∀ line ∈ part, P line := by
  unfold headed
  split
  · simp
  · simpa [hh] using hl

theorem forall_headedApart (hh : P heading) (hl : ∀ line ∈ lines, P line) :
    ∀ part ∈ headedApart heading lines, ∀ line ∈ part, P line := by
  unfold headedApart
  split
  · simp
  · simpa [hh] using hl

theorem forall_labelled {label : String} {text? : Option String}
    (h : ∀ text, text? = some text → P ("- **" ++ label ++ ":** " ++ text)) :
    ∀ line ∈ labelled label text?, P line := by
  unfold labelled
  split
  · rename_i text found
    simpa using h text (present?_eq_some_iff.mp found).1
  · simp

theorem isParagraph_headed (hh : heading ≠ "") (hl : ∀ line ∈ lines, line ≠ "") :
    ∀ part ∈ headed heading lines, IsParagraph part := by
  refine fun part hp => ⟨?_, forall_headed (P := (· ≠ "")) hh hl part hp⟩
  rintro rfl
  unfold headed at hp
  split at hp <;> simp at hp

theorem isParagraph_headedApart (hh : heading ≠ "") (hl : ∀ line ∈ lines, line ≠ "") :
    ∀ part ∈ headedApart heading lines, IsParagraph part := by
  refine fun part hp => ⟨?_, forall_headedApart (P := (· ≠ "")) hh hl part hp⟩
  rintro rfl
  unfold headedApart at hp
  split at hp <;> simp_all

theorem isParagraph_singleton {line : String} (h : line ≠ "") : IsParagraph [line] :=
  ⟨List.cons_ne_nil _ _, by simpa using h⟩

theorem isParagraph_changeFacts (index : Nat) (change : ScoredChange Float) :
    IsParagraph (changeFacts index change) := by
  refine ⟨List.cons_ne_nil _ _, ?_⟩
  have scope : ∀ line ∈ labelled "Scope" change.commitScope, line ≠ "" :=
    forall_labelled (by simp)
  have description : ∀ line ∈ labelled "Description" (some change.description), line ≠ "" :=
    forall_labelled (by simp)
  refine List.forall_mem_append.mpr ⟨List.forall_mem_append.mpr ⟨List.forall_mem_append.mpr
    ⟨by simp, scope⟩, description⟩, ?_⟩
  split <;> simp

theorem isParagraph_detailSections (change : ScoredChange Float) :
    ∀ part ∈ detailSections change, IsParagraph part := by
  refine List.forall_mem_append.mpr ⟨List.forall_mem_append.mpr ⟨?_, ?_⟩, ?_⟩
  all_goals exact isParagraph_headed (by decide) (List.forall_mem_map.mpr (by simp [factorLine]))

variable {content : ReportContent}

theorem typeCounts_ne_nil {changes : List (ScoredChange Float)} (h : changes ≠ []) :
    typeCounts changes ≠ [] := by
  obtain ⟨change, hc⟩ := List.exists_mem_of_ne_nil changes h
  let types := changes.map (·.commitType)
  have counted : (change.commitType, types.count change.commitType) ∈ tally types :=
    mem_tally.mpr ⟨List.mem_map_of_mem hc, rfl⟩
  exact List.ne_nil_of_mem counted

theorem isParagraph_overview (h : content.changes ≠ []) :
    ∀ part ∈ content.overview, IsParagraph part := by
  have types : IsParagraph ((typeCounts content.changes).map markdownType) := by
    refine ⟨?_, List.forall_mem_map.mpr (by simp [markdownType])⟩
    simpa using typeCounts_ne_nil h
  refine List.forall_mem_append.mpr ⟨List.forall_mem_append.mpr ⟨?_, ?_⟩, ?_⟩
  · simp only [List.forall_mem_cons]
    exact ⟨isParagraph_singleton (by simp), isParagraph_singleton (by simp),
      isParagraph_singleton (by decide), isParagraph_singleton (by decide), types, by simp⟩
  · exact isParagraph_headedApart (by simp) (List.forall_mem_map.mpr (by simp [markdownBreaking]))
  · exact List.forall_mem_singleton.mpr (isParagraph_singleton (by decide))

theorem isParagraph_changesSections (detailed : Bool) :
    ∀ part ∈ content.changesSections detailed, IsParagraph part := by
  refine List.forall_mem_flatMap.mpr fun entry _ =>
    List.forall_mem_cons.mpr ⟨isParagraph_changeFacts _ _, ?_⟩
  cases detailed
  · simp
  · exact isParagraph_detailSections entry.2

theorem isParagraph_failureSections : ∀ part ∈ content.failureSections, IsParagraph part :=
  isParagraph_headedApart (by decide) (List.forall_mem_map.mpr (by simp [markdownFailure]))

theorem isParagraph_plainSections : ∀ part ∈ content.plainSections, IsParagraph part := by
  have heading : content.plainBreakingHeading ≠ "" := by
    unfold plainBreakingHeading
    simp
  refine List.forall_mem_append.mpr ⟨List.forall_mem_append.mpr ⟨List.forall_mem_append.mpr
    ⟨?_, ?_⟩, ?_⟩, ?_⟩
  · simp only [List.forall_mem_cons]
    refine ⟨isParagraph_singleton (by simp [FileCounts.line]), ⟨List.cons_ne_nil _ _, ?_⟩,
      isParagraph_singleton (by simp), by simp⟩
    exact List.forall_mem_cons.mpr ⟨by simp, List.forall_mem_map.mpr (by simp [plainType])⟩
  · exact isParagraph_headed heading
      (List.forall_mem_map.mpr (by simp [plainBreakingLine]))
  · refine List.forall_mem_singleton.mpr ⟨List.cons_ne_nil _ _, ?_⟩
    exact List.forall_mem_cons.mpr ⟨by simp, List.forall_mem_flatMap.mpr (by simp [plainChange])⟩
  · exact isParagraph_headed (by decide) (List.forall_mem_map.mpr (by simp [plainFailure]))

/-- The paragraphs of a Markdown report, whatever its suggestion. -/
theorem paragraphs_markdownLines (h : content.changes ≠ []) (detailed : Bool)
    (suggestion : List String) :
    paragraphs (content.markdownLines detailed suggestion) =
      ["# DiffSense Analysis Report"] :: content.overview ++
        paragraphs (markdownFence :: suggestion ++ [markdownFence]) ++
        ["## Change Details"] :: (content.changesSections detailed ++ content.failureSections) := by
  have details : ∀ part ∈ ["## Change Details"] :: content.changesSections detailed,
      IsParagraph part :=
    List.forall_mem_cons.mpr
      ⟨isParagraph_singleton (by decide), isParagraph_changesSections detailed⟩
  have failures : paragraphs ([] ++ spread content.failureSections) = content.failureSections :=
    paragraphs_append_spread [] isParagraph_failureSections
  have front := paragraphs_append_spread ["# DiffSense Analysis Report"] (isParagraph_overview h)
  rw [List.singleton_append] at front
  rw [List.nil_append] at failures
  unfold markdownLines
  rw [paragraphs_append, paragraphs_append, paragraphs_append_spread _ details, front, failures]
  simp only [List.append_assoc, List.cons_append]
  rfl

theorem paragraphs_plainLines :
    paragraphs content.plainLines = ["=== DiffSense Analysis Report ==="] :: content.plainSections :=
  paragraphs_append_spread ["=== DiffSense Analysis Report ==="] isParagraph_plainSections

end Paragraphs

end CommitLens.ReportContent
