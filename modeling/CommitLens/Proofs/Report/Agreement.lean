import CommitLens.Proofs.Report.Formats

/-!
# One story in three formats

Main statement: the three formats tell the same story, and where every text that is shown is one
line, it can be read off the lines of the texts alone.
-/

namespace CommitLens

open Json (Denotes)
open Text

namespace ReportContent

/-! ## Line feeds at the end -/

section Lines

theorem exists_lineFeeds (text : String) :
    ∃ count, text = dropLastLineFeeds text ++ String.ofList (List.replicate count '\n') := by
  let feeds := text.toList.reverse.takeWhile (· == '\n')
  have same : feeds.reverse = List.replicate feeds.length '\n' := by
    rw [← List.length_reverse]
    refine List.eq_replicate_of_mem fun c hc => ?_
    simpa using List.mem_takeWhile_imp (List.mem_reverse.mp hc)
  refine ⟨feeds.length, String.toList_inj.mp ?_⟩
  rw [String.toList_append, dropLastLineFeeds, String.toList_ofList, String.toList_ofList, ← same,
    ← List.reverse_append, List.takeWhile_append_dropWhile, List.reverse_reverse]

/-- Line feeds at the end make no difference to paragraphs. -/
theorem paragraphs_lines_dropLastLineFeeds (text : String) :
    paragraphs (lines (dropLastLineFeeds text)) = paragraphs (lines text) := by
  have feeds (count : Nat) :
      paragraphs (lines (dropLastLineFeeds text ++ String.ofList (List.replicate count '\n'))) =
        paragraphs (lines (dropLastLineFeeds text)) := by
    induction count with
    | zero => simp
    | succ count ih =>
        rw [List.replicate_succ', String.ofList_append, ← String.append_assoc]
        exact (paragraphs_lines_append_lineFeed _).trans ih
  obtain ⟨count, same⟩ := exists_lineFeeds text
  exact ((congrArg (fun text => paragraphs (lines text)) same).trans (feeds count)).symm

end Lines

end ReportContent

/-! ## Texts on one line -/

/-- Are the texts of a change that reports show each one line? -/
structure ScoredChange.OnOneLine (change : ScoredChange Float) : Prop where
  path : OneLine change.path
  kind : OneLine change.kind.text
  commitType : OneLine change.commitType
  commitScope : ∀ scope, change.commitScope = some scope → OneLine scope
  description : OneLine change.description
  rule : ∀ rule ∈ change.appliedRules, OneLine rule
  delta : ∀ delta ∈ change.deltas, OneLine delta.description ∧ OneLine delta.severity.text
  factor : ∀ factor ∈ change.factors, OneLine factor.name

structure FileFailure.OnOneLine (failure : FileFailure) : Prop where
  path : OneLine failure.path
  stage : OneLine failure.stage
  reason : OneLine failure.reason

namespace ReportContent

/-- Are the texts that reports show each one line?  Only the body of the suggestion need not be
one. -/
structure OnOneLine (content : ReportContent) : Prop where
  header : OneLine content.suggestion.header
  change : ∀ change ∈ content.changes, change.OnOneLine
  failure : ∀ failure ∈ content.failures, failure.OnOneLine

section Lines

variable {content : ReportContent}

theorem oneLine_labelled {label : String} {text? : Option String} (hl : OneLine label)
    (h : ∀ text, text? = some text → OneLine text) :
    ∀ line ∈ labelled label text?, OneLine line :=
  forall_labelled fun text found => by simp +decide [hl, h text found]

theorem oneLine_changeFacts {change : ScoredChange Float} (h : change.OnOneLine) (index : Nat) :
    ∀ line ∈ changeFacts index change, OneLine line := by
  have name := Path.oneLine_fileName h.path
  have mark : OneLine (if change.breaking then " (breaking)" else "") := by
    split <;> decide
  have scope := oneLine_labelled (by decide : OneLine "Scope") h.commitScope
  have description : ∀ line ∈ labelled "Description" (some change.description), OneLine line :=
    oneLine_labelled (by decide) fun _ same => Option.some.inj same ▸ h.description
  refine List.forall_mem_append.mpr ⟨List.forall_mem_append.mpr ⟨List.forall_mem_append.mpr
    ⟨?_, scope⟩, description⟩, ?_⟩
  · simp +decide [scoreText, name, mark, h.path, h.kind, h.commitType]
  · split <;> simp +decide

theorem oneLine_detailSections {change : ScoredChange Float} (h : change.OnOneLine) :
    ∀ part ∈ detailSections change, ∀ line ∈ part, OneLine line := by
  refine List.forall_mem_append.mpr ⟨List.forall_mem_append.mpr ⟨?_, ?_⟩, ?_⟩
  · refine forall_headed (by decide) (List.forall_mem_map.mpr fun delta hd => ?_)
    simp +decide [h.delta delta hd]
  · refine forall_headed (by decide) (List.forall_mem_map.mpr fun rule hr => ?_)
    simp +decide [h.rule rule hr]
  · refine forall_headed (by decide) (List.forall_mem_map.mpr fun factor hf => ?_)
    simp +decide [factorLine, briefNumber, scoreText, h.factor factor hf]

theorem mem_of_mem_numbered {α : Type} {items : List α} {entry : Nat × α}
    (h : entry ∈ numbered items) : entry.2 ∈ items :=
  (List.of_mem_zip h).2

theorem oneLine_typeCounts (h : content.OnOneLine) :
    ∀ entry ∈ typeCounts content.changes, OneLine entry.1 := by
  intro entry he
  obtain ⟨change, hc, same⟩ := List.mem_map.mp (mem_tally.mp he).1
  exact same ▸ (h.change change hc).commitType

theorem oneLine_overview (h : content.OnOneLine) :
    ∀ part ∈ content.overview, ∀ line ∈ part, OneLine line := by
  refine List.forall_mem_append.mpr ⟨List.forall_mem_append.mpr ⟨?_, ?_⟩, ?_⟩
  · simp only [List.forall_mem_cons, List.forall_mem_map]
    simp +decide [markdownType]
    exact fun name count hm => oneLine_typeCounts h (name, count) hm
  · refine forall_headedApart (by simp +decide) (List.forall_mem_map.mpr fun change hc => ?_)
    have shown := h.change change (List.mem_of_mem_filter hc)
    simp +decide [markdownBreaking, Path.oneLine_fileName shown.path, shown.description]
  · simp +decide

theorem oneLine_changesSections (h : content.OnOneLine)
    (finite : ∀ change ∈ content.changes, change.score.isFinite = true) (detailed : Bool) :
    ∀ part ∈ content.changesSections detailed, ∀ line ∈ part, OneLine line := by
  refine List.forall_mem_flatMap.mpr fun entry he => ?_
  have shown := h.change entry.2 (mem_of_mem_sortByScore finite (mem_of_mem_numbered he))
  refine List.forall_mem_cons.mpr ⟨oneLine_changeFacts shown entry.1, ?_⟩
  cases detailed
  · simp
  · exact oneLine_detailSections shown

theorem oneLine_failureSections (h : content.OnOneLine) :
    ∀ part ∈ content.failureSections, ∀ line ∈ part, OneLine line := by
  refine forall_headedApart (by decide) (List.forall_mem_map.mpr fun failure hf => ?_)
  have shown := h.failure failure hf
  simp +decide [markdownFailure, shown.path, shown.stage, shown.reason]

theorem oneLine_plainSections (h : content.OnOneLine)
    (finite : ∀ change ∈ content.changes, change.score.isFinite = true) :
    ∀ part ∈ content.plainSections, ∀ line ∈ part, OneLine line := by
  refine List.forall_mem_append.mpr ⟨List.forall_mem_append.mpr ⟨List.forall_mem_append.mpr
    ⟨?_, ?_⟩, ?_⟩, ?_⟩
  · simp only [List.forall_mem_cons, List.forall_mem_map]
    simp +decide [plainType, h.header]
    exact fun name count hm => oneLine_typeCounts h (name, count) hm
  · refine forall_headed ?_ (List.forall_mem_map.mpr fun change hc => ?_)
    · unfold plainBreakingHeading
      simp +decide
    · have shown := h.change change (List.mem_of_mem_filter hc)
      simp +decide [plainBreakingLine, shown.path, shown.description]
  · refine List.forall_mem_singleton.mpr (List.forall_mem_cons.mpr ⟨by simp +decide, ?_⟩)
    refine List.forall_mem_flatMap.mpr fun entry he => ?_
    have shown := h.change entry.2
      (mem_of_mem_sortByScore finite (List.mem_of_mem_take (mem_of_mem_numbered he)))
    have description : OneLine
        (if entry.2.description.isEmpty then "No description" else entry.2.description) := by
      split
      · decide
      · exact shown.description
    simp only [plainChange, List.forall_mem_cons]
    simp +decide [scoreText, Path.oneLine_fileName shown.path, shown.commitType]
    simpa using description
  · refine forall_headed (by decide) (List.forall_mem_map.mpr fun failure hf => ?_)
    have shown := h.failure failure hf
    simp +decide [plainFailure, shown.path, shown.reason]

/-- On one line each, sections are what their lines are. -/
theorem flatMap_lines_spread {sections : List (List String)}
    (h : ∀ part ∈ sections, ∀ line ∈ part, OneLine line) :
    (spread sections).flatMap lines = spread sections := by
  refine flatMap_lines_of_oneLine fun line hl => ?_
  obtain ⟨part, hp, hl⟩ := List.mem_flatMap.mp hl
  rcases List.mem_cons.mp hl with rfl | hl
  · decide
  · exact h part hp line hl

/-- Only the suggestion of a Markdown report goes over several lines. -/
theorem flatMap_lines_markdownLines (h : content.OnOneLine)
    (finite : ∀ change ∈ content.changes, change.score.isFinite = true) (detailed : Bool)
    (message : String) :
    (content.markdownLines detailed [message]).flatMap lines =
      content.markdownLines detailed (lines message) := by
  have details : ∀ part ∈ ["## Change Details"] :: content.changesSections detailed,
      ∀ line ∈ part, OneLine line :=
    List.forall_mem_cons.mpr ⟨by simp +decide, oneLine_changesSections h finite detailed⟩
  have title : lines "# DiffSense Analysis Report" = ["# DiffSense Analysis Report"] := by decide
  have fence : lines markdownFence = [markdownFence] := by decide
  have empty : lines "" = [""] := rfl
  unfold markdownLines
  simp only [List.flatMap_append, List.flatMap_cons, flatMap_lines_spread (oneLine_overview h),
    flatMap_lines_spread details, flatMap_lines_spread (oneLine_failureSections h), title, fence,
    empty]
  simp

theorem flatMap_lines_plainLines (h : content.OnOneLine)
    (finite : ∀ change ∈ content.changes, change.score.isFinite = true) :
    content.plainLines.flatMap lines = content.plainLines := by
  have title : lines "=== DiffSense Analysis Report ===" =
      ["=== DiffSense Analysis Report ==="] := by
    decide
  unfold plainLines
  rw [List.flatMap_cons, title, flatMap_lines_spread (oneLine_plainSections h finite)]
  rfl

/-- The paragraphs of a Markdown text, of its own lines. -/
theorem inMarkdown_lines (some : content.changes ≠ [])
    (finite : ∀ change ∈ content.changes, change.score.isFinite = true) (h : content.OnOneLine)
    (detailed : Bool) :
    content.story.InMarkdown (paragraphs (lines (content.render .markdown detailed))) := by
  have lines_text : paragraphs (lines (content.render .markdown detailed)) =
      paragraphs (content.markdownLines detailed (lines content.suggestion.message)) := by
    rw [render, toMarkdown_eq some, paragraphs_lines_append_lineFeed,
      paragraphs_lines_dropLastLineFeeds, lines_join (by simp [markdownLines]),
      flatMap_lines_markdownLines h finite]
  rw [lines_text]
  exact inMarkdown some finite detailed _

theorem inPlain_lines (some : content.changes ≠ [])
    (finite : ∀ change ∈ content.changes, change.score.isFinite = true) (h : content.OnOneLine)
    (detailed : Bool) :
    content.story.InPlain (paragraphs (lines (content.render .plain detailed))) := by
  have lines_text : paragraphs (lines (content.render .plain detailed)) =
      paragraphs content.plainLines := by
    rw [render, toPlain_eq some, paragraphs_lines_append_lineFeed, lines_join (by simp [plainLines]),
      flatMap_lines_plainLines h finite]
  rw [lines_text]
  exact inPlain finite

end Lines

/-- All three formats tell the same story.  What the lines hold that the two texts are made of is
what the lines of the texts hold, if the texts that are shown are each one line. -/
theorem render_tells_one_story {content : ReportContent} (some : content.changes ≠ [])
    (finite : ∀ change ∈ content.changes, change.score.isFinite = true) (detailed : Bool) :
    ∃ story : Story, story.IsOf content ∧
      (∃ value, content.render .json detailed = value.pretty ∧ story.InJson value ∧
        (content.HasFiniteNumbers → ∀ other,
          Denotes (content.render .json detailed).toList other ↔ other = value)) ∧
      (∃ written, content.render .markdown detailed =
          dropLastLineFeeds (Text.join "\n" written) ++ "\n" ∧
        story.InMarkdown (paragraphs written)) ∧
      (∃ written, content.render .plain detailed = Text.join "\n" written ++ "\n" ∧
        story.InPlain (paragraphs written)) ∧
      (content.OnOneLine →
        story.InMarkdown (paragraphs (lines (content.render .markdown detailed))) ∧
        story.InPlain (paragraphs (lines (content.render .plain detailed)))) := by
  refine ⟨content.story, isOf_story finite,
    ⟨content.toJson, rfl, inJson_toJson content, fun h other => ?_⟩,
    ⟨_, toMarkdown_eq some detailed, inMarkdown some finite detailed _⟩,
    ⟨_, toPlain_eq some, inPlain finite⟩,
    fun h => ⟨inMarkdown_lines some finite h detailed, inPlain_lines some finite h detailed⟩⟩
  have denotes := denotes_toJson h
  exact ⟨fun ho => ho.unique denotes, fun same => same ▸ denotes⟩

theorem render_tells_one_story_six :
    let change (path : String) (score : Float) (breaking : Bool) : ScoredChange Float :=
      { path, kind := .modified, commitType := if breaking then "feat" else "fix", breaking, score }
    let content : ReportContent :=
      { changes := [change "a.py" 1.5 true, change "b.py" 2.25 false, change "c.py" 1.5 false,
          change "d.py" 4 true, change "e.py" 0 false, change "f.py" 1.5 false]
        suggestion := { commitType := "feat", subject := "update", breaking := true }
        counts := ⟨8, 6⟩
        failures := [⟨"g.bin", "parsing", "binary"⟩, ⟨"h.bin", "parsing", "binary"⟩] }
    (content.changes ≠ [] ∧ ∀ change ∈ content.changes, change.score.isFinite = true) ∧
      ∃ story : Story, story.IsOf content ∧
        (∃ value, content.render .json true = value.pretty ∧ story.InJson value ∧
          (content.HasFiniteNumbers → ∀ other,
            Denotes (content.render .json true).toList other ↔ other = value)) ∧
        (∃ written, content.render .markdown true =
            dropLastLineFeeds (Text.join "\n" written) ++ "\n" ∧
          story.InMarkdown (paragraphs written)) ∧
        (∃ written, content.render .plain true = Text.join "\n" written ++ "\n" ∧
          story.InPlain (paragraphs written)) ∧
        (content.OnOneLine →
          story.InMarkdown (paragraphs (lines (content.render .markdown true))) ∧
          story.InPlain (paragraphs (lines (content.render .plain true)))) := by
  intro change content
  have some : content.changes ≠ [] := List.cons_ne_nil _ _
  have scores : ∀ score ∈ [1.5, 2.25, 1.5, 4, 0, (1.5 : Float)], score.isFinite = true := by
    decide +kernel
  have finite : ∀ change ∈ content.changes, change.score.isFinite = true := by
    simpa [content, change] using scores
  exact ⟨⟨some, finite⟩, render_tells_one_story some finite true⟩

end ReportContent

end CommitLens
