import CommitLens.Proofs.Report.Json
import CommitLens.Proofs.Report.Sections

/-!
# What reports tell in each format

What a report tells, whatever its format, and how it is read off a JSON value and off the
paragraphs of the two texts.  Main statements: the value of the JSON report and the lines of the
other two tell the same counts, types, changes, breaking changes and failures, in the same order.
-/

namespace CommitLens

open Json (Value Denotes)
open Ranking (Ranked)
open ReportContent
open Text

/-- What the reports on some changes tell. -/
structure Story where
  counts : FileCounts
  types : List (String × Nat)
  ranked : List (ScoredChange Float)
  breaking : List (ScoredChange Float)
  failures : List FileFailure

namespace Story

/-- Is it the story of this content? -/
structure IsOf (content : ReportContent) (story : Story) : Prop where
  counts : story.counts = content.counts
  types : Counts (content.changes.map (·.commitType)) story.types
  ranked : Ranked (fun change => Decimal.valueOf change.score) content.changes story.ranked
  breaking : story.breaking = content.changes.filter (·.breaking)
  failures : story.failures = content.failures

/-! ## Reading reports -/

structure InJson (story : Story) (value : Value) : Prop where
  analyzed : at? value ["summary", "analyzedFiles"] = some (.whole story.counts.analyzed)
  detected : at? value ["summary", "detectedFiles"] = some (.whole story.counts.detected)
  types : at? value ["summary", "breakdown"] =
    some (.object (story.types.map fun (name, count) => (name, .whole count)))
  changes : TellsAll TellsChange story.ranked (value.member? "changes")
  failures : TellsAll TellsFailure story.failures (value.member? "failures")

/-- Does the first line of a paragraph begin with a mark? -/
def opens (mark : String) (part : List String) : Bool :=
  part.head?.any fun line => startsWith line.toList mark.toList

/-- The paragraphs behind the last one that is only a heading. -/
def behindLast (heading : String) (parts : List (List String)) : List (List String) :=
  (parts.reverse.takeWhile (· != [heading])).reverse

/-- The paragraphs of a Markdown report: the counts, the types and the breaking changes stand
before the suggestion, the changes and the failures behind it. -/
structure InMarkdown (story : Story) (parts : List (List String)) : Prop where
  counts : parts[1]? = some ["_" ++ story.counts.line ++ "._"]
  total : parts[2]? = some ["## " ++ toString story.ranked.length ++ " changes found"]
  types : parts[5]? = some (story.types.map markdownType)
  breaking : (parts.drop 6).takeWhile (· != ["## Commit Suggestion"]) =
    headedApart ("### " ++ toString story.breaking.length ++ " Breaking Changes Detected")
      (story.breaking.map markdownBreaking)
  changes : ∀ k, ((behindLast "## Change Details" parts).filter (opens "### "))[k]? =
    story.ranked[k]?.map (changeFacts (k + 1))
  failures : (behindLast "## Change Details" parts).dropWhile (· != ["## Skipped Files"]) =
    headedApart "## Skipped Files" (story.failures.map markdownFailure)

/-- Lines, two by two. -/
def pairs : List String → List (List String)
  | first :: second :: rest => [first, second] :: pairs rest
  | _ => []

/-- The paragraphs of a plain report. -/
structure InPlain (story : Story) (parts : List (List String)) : Prop where
  counts : parts[1]? = some [story.counts.line]
  types : parts[2]? = some
    ((toString story.ranked.length ++ " changes found") :: story.types.map plainType)
  breaking : (parts.drop 4).filter (opens "BREAKING CHANGES (") =
    headed ("BREAKING CHANGES (" ++ toString story.breaking.length ++ "):")
      (story.breaking.map plainBreakingLine)
  changes : ∀ k, (pairs (((parts.drop 4).filter (opens "Top ")).flatMap List.tail))[k]? =
    (story.ranked.take (min 5 story.ranked.length))[k]?.map (plainChange (k + 1))
  failures : (parts.drop 4).filter (opens "Skipped files:") =
    headed "Skipped files:" (story.failures.map plainFailure)

end Story

namespace ReportContent

/-- The story as the program finds it. -/
def story (content : ReportContent) : Story where
  counts := content.counts
  types := typeCounts content.changes
  ranked := sortByScore content.changes
  breaking := content.changes.filter (·.breaking)
  failures := content.failures

variable {content : ReportContent}

theorem isOf_story (h : ∀ change ∈ content.changes, change.score.isFinite = true) :
    content.story.IsOf content where
  counts := rfl
  types := counts_tally _
  ranked := ranked_sortByScore h
  breaking := rfl
  failures := rfl

theorem inJson_toJson (content : ReportContent) : content.story.InJson content.toJson where
  analyzed := rfl
  detected := rfl
  types := rfl
  changes := tellsAll_map _ tellsChange_changeValue
  failures := tellsAll_map _ tellsFailure_failureValue

/-! ## Numbered items -/

section Numbered

variable {α : Type}

theorem getElem?_numbered (items : List α) (k : Nat) :
    (numbered items)[k]? = items[k]?.map fun item => (k + 1, item) := by
  rw [numbered, List.zip, List.getElem?_zipWith]
  by_cases h : k < items.length
  · simp [h, Nat.add_comm]
  · simp [h]

theorem pairs_flatMap {items : List α} {lines : α → List String}
    (h : ∀ item ∈ items, (lines item).length = 2) :
    Story.pairs (items.flatMap lines) = items.map lines := by
  induction items with
  | nil => rfl
  | cons item items ih =>
      rw [List.forall_mem_cons] at h
      obtain ⟨first, second, two⟩ := List.length_eq_two.mp h.1
      rw [List.flatMap_cons, two, List.map_cons, ← ih h.2, two]
      rfl

end Numbered

/-! ## Marks -/

section Marks

/-- A paragraph that begins with a mark begins with no other. -/
theorem not_opens {mark other : String} {part : List String} (h : Story.opens mark part = true)
    (apart : ¬mark.toList <+: other.toList ∧ ¬other.toList <+: mark.toList) :
    Story.opens other part = false := by
  rw [Bool.eq_false_iff]
  intro ho
  simp only [Story.opens, Option.any_eq_true_iff_get, startsWith, List.isPrefixOf_iff_prefix] at h ho
  obtain ⟨some, h⟩ := h
  obtain ⟨_, ho⟩ := ho
  exact (List.prefix_or_prefix_of_prefix h ho).elim apart.1 apart.2

theorem ne_of_opens {mark : String} {part other : List String} (h : Story.opens mark part = true)
    (ho : Story.opens mark other = false) : part ≠ other := by
  rintro rfl
  rw [h] at ho
  contradiction

theorem opens_of_mem_headed {mark heading : String} {lines part : List String}
    (h : part ∈ headed heading lines) :
    Story.opens mark part = startsWith heading.toList mark.toList := by
  unfold headed at h
  split at h
  · contradiction
  · rw [List.mem_singleton.mp h]
    rfl

/-- A section of its own is a heading, or lines that begin with a mark. -/
theorem opens_of_mem_headedApart {α : Type} (mark : String) {heading : String} {items : List α}
    {line : α → String} {part : List String} (h : part ∈ headedApart heading (items.map line))
    (hl : ∀ item, startsWith (line item).toList mark.toList = true) :
    part = [heading] ∨ Story.opens mark part = true := by
  unfold headedApart at h
  cases items with
  | nil => contradiction
  | cons item items =>
      simp only [List.map_cons, List.isEmpty_cons, Bool.false_eq_true, if_false, List.mem_cons,
        List.not_mem_nil, or_false] at h
      exact h.imp_right fun same => by rw [same]; exact hl item

theorem filter_headed (mark heading : String) (lines : List String) :
    (headed heading lines).filter (Story.opens mark) =
      if startsWith heading.toList mark.toList then headed heading lines else [] := by
  split
  · exact List.filter_eq_self.mpr fun _ hp => (opens_of_mem_headed hp).trans ‹_›
  · exact List.filter_eq_nil_iff.mpr fun _ hp => (opens_of_mem_headed hp).symm ▸ ‹_›

theorem dropWhile_headedApart (heading : String) (lines : List String) :
    (headedApart heading lines).dropWhile (· != [heading]) = headedApart heading lines := by
  unfold headedApart
  split <;> simp

end Marks

/-! ## The Markdown report -/

section Markdown

theorem behindLast_append {heading : String} (front : List (List String))
    {parts : List (List String)} (h : ∀ part ∈ parts, part ≠ [heading]) :
    Story.behindLast heading (front ++ [heading] :: parts) = parts := by
  have back : ∀ part ∈ parts.reverse, (part != [heading]) = true := fun part hp =>
    bne_iff_ne.mpr (h part (List.mem_reverse.mp hp))
  rw [Story.behindLast, List.reverse_append, List.reverse_cons, List.append_assoc,
    List.takeWhile_append_of_pos back]
  simp

theorem opens_changeFacts (index : Nat) (change : ScoredChange Float) :
    Story.opens "### " (changeFacts index change) = true := by
  simp [Story.opens, changeFacts, startsWith]

theorem opens_detailSections {change : ScoredChange Float} {part : List String}
    (h : part ∈ detailSections change) : Story.opens "#### " part = true := by
  simp only [detailSections, List.mem_append] at h
  rcases h with (h | h) | h <;> rw [opens_of_mem_headed h] <;> decide

theorem opens_failureSections {part : List String} (h : part ∈ content.failureSections) :
    part = ["## Skipped Files"] ∨ Story.opens "- " part = true :=
  opens_of_mem_headedApart "- " h (by simp [markdownFailure, startsWith])

/-- The numbered paragraphs are the first ones of the changes. -/
theorem filter_changesSections (detailed : Bool) :
    (content.changesSections detailed).filter (Story.opens "### ") =
      (numbered (sortByScore content.changes)).map fun entry => changeFacts entry.1 entry.2 := by
  have facts (entry : Nat × ScoredChange Float) :
      (changeSections detailed entry.1 entry.2).filter (Story.opens "### ") =
        [changeFacts entry.1 entry.2] := by
    unfold changeSections
    rw [List.filter_cons_of_pos (opens_changeFacts _ _), List.filter_eq_nil_iff.mpr]
    cases detailed
    · simp
    · intro part hp
      rw [not_opens (opens_detailSections hp) (by decide)]
      exact Bool.false_ne_true
  rw [changesSections, List.filter_flatMap]
  simp only [facts, List.map_eq_flatMap]

/-- The sections of a change are none that is only a heading of the second level. -/
theorem ne_of_mem_changesSections {detailed : Bool} {heading : String} {part : List String}
    (h : part ∈ content.changesSections detailed)
    (facts : Story.opens "### " [heading] = false)
    (details : Story.opens "#### " [heading] = false) :
    part ≠ [heading] := by
  obtain ⟨entry, -, hp⟩ := List.mem_flatMap.mp h
  rcases List.mem_cons.mp hp with rfl | hp
  · exact ne_of_opens (opens_changeFacts _ _) facts
  · cases detailed
    · contradiction
    · exact ne_of_opens (opens_detailSections hp) details

theorem filter_failureSections : content.failureSections.filter (Story.opens "### ") = [] := by
  refine List.filter_eq_nil_iff.mpr fun part hp => ?_
  rcases opens_failureSections hp with rfl | hp
  · decide
  · rw [not_opens hp (by decide)]
    exact Bool.false_ne_true

/-- Behind the suggestion there are the sections of the changes and those of the failures. -/
theorem behindLast_markdownLines (some : content.changes ≠ []) (detailed : Bool)
    (suggestion : List String) :
    Story.behindLast "## Change Details" (paragraphs (content.markdownLines detailed suggestion)) =
      content.changesSections detailed ++ content.failureSections := by
  rw [paragraphs_markdownLines some]
  refine behindLast_append _ (List.forall_mem_append.mpr ⟨fun part hp => ?_, fun part hp => ?_⟩)
  · exact ne_of_mem_changesSections hp (by decide) (by decide)
  · rcases opens_failureSections hp with rfl | hp
    · decide
    · exact ne_of_opens hp (by decide)

/-- Between the types and the suggestion there are the breaking changes. -/
theorem takeWhile_markdownLines (some : content.changes ≠ []) (detailed : Bool)
    (suggestion : List String) :
    ((paragraphs (content.markdownLines detailed suggestion)).drop 6).takeWhile
        (· != ["## Commit Suggestion"]) =
      headedApart
        ("### " ++ toString content.story.breaking.length ++ " Breaking Changes Detected")
        (content.story.breaking.map markdownBreaking) := by
  let heading := "### " ++ toString content.story.breaking.length ++ " Breaking Changes Detected"
  have opening : Story.opens "### " [heading] = true := by
    simp [heading, Story.opens, startsWith]
  have before : ∀ part ∈ headedApart heading (content.story.breaking.map markdownBreaking),
      (part != ["## Commit Suggestion"]) = true := by
    intro part hp
    rw [bne_iff_ne]
    rcases opens_of_mem_headedApart "- " hp (by simp [markdownBreaking, startsWith]) with rfl | hp
    · exact ne_of_opens opening (by decide)
    · exact ne_of_opens hp (by decide)
  rw [paragraphs_markdownLines some, overview]
  simp only [List.cons_append, List.nil_append, List.append_assoc, List.drop_succ_cons,
    List.drop_zero]
  exact (List.takeWhile_append_of_pos before).trans (by simp [heading])

/-- The paragraphs of a Markdown report tell the story, whatever its suggestion. -/
theorem inMarkdown (some : content.changes ≠ [])
    (finite : ∀ change ∈ content.changes, change.score.isFinite = true) (detailed : Bool)
    (suggestion : List String) :
    content.story.InMarkdown (paragraphs (content.markdownLines detailed suggestion)) where
  counts := by
    rw [paragraphs_markdownLines some]
    rfl
  total := by
    have length : content.story.ranked.length = content.changes.length := length_sortByScore finite
    rw [paragraphs_markdownLines some, length]
    rfl
  types := by
    rw [paragraphs_markdownLines some]
    rfl
  breaking := takeWhile_markdownLines some detailed suggestion
  changes k := by
    rw [behindLast_markdownLines some, List.filter_append, filter_changesSections,
      filter_failureSections, List.append_nil, List.getElem?_map, getElem?_numbered, Option.map_map]
    rfl
  failures := by
    have before : ∀ part ∈ content.changesSections detailed,
        (part != ["## Skipped Files"]) = true := fun part hp =>
      bne_iff_ne.mpr (ne_of_mem_changesSections hp (by decide) (by decide))
    rw [behindLast_markdownLines some, List.dropWhile_append_of_pos before]
    exact dropWhile_headedApart _ _

end Markdown

/-! ## The plain report -/

section Plain

/-- Behind the suggestion, the sections are told apart by their marks. -/
theorem filter_plainSections (mark : String) :
    (content.plainSections.drop 3).filter (Story.opens mark) =
      (if startsWith content.plainBreakingHeading.toList mark.toList then
        headed content.plainBreakingHeading
          ((content.changes.filter (·.breaking)).map plainBreakingLine) else []) ++
      (if Story.opens mark content.plainTop then [content.plainTop] else []) ++
      (if startsWith "Skipped files:".toList mark.toList then
        headed "Skipped files:" (content.failures.map plainFailure) else []) := by
  rw [← filter_headed, ← filter_headed, ← List.filter_nil (p := Story.opens mark),
    ← List.filter_cons, ← List.filter_append, ← List.filter_append]
  rfl

/-- The paragraphs of a plain report tell the story. -/
theorem inPlain (finite : ∀ change ∈ content.changes, change.score.isFinite = true) :
    content.story.InPlain (paragraphs content.plainLines) := by
  have length : content.story.ranked.length = content.changes.length := length_sortByScore finite
  have top : Story.opens "Top " content.plainTop = true := by
    simp [plainTop, Story.opens, startsWith]
  have breaking (mark : String) : startsWith content.plainBreakingHeading.toList mark.toList =
      Story.opens mark [content.plainBreakingHeading] := rfl
  have breakingMark : Story.opens "BREAKING CHANGES (" [content.plainBreakingHeading] = true := by
    unfold plainBreakingHeading
    simp [Story.opens, startsWith]
  rw [paragraphs_plainLines]
  constructor
  case counts => rfl
  case types => rw [length]; rfl
  case breaking =>
    have apart : startsWith "Skipped files:".toList "BREAKING CHANGES (".toList = false := by decide
    rw [List.drop_succ_cons, filter_plainSections, breaking, breakingMark,
      not_opens top (by decide), apart]
    simp only [if_true, Bool.false_eq_true, if_false, List.append_nil]
    rfl
  case changes =>
    have apart : startsWith "Skipped files:".toList "Top ".toList = false := by decide
    have two : ∀ entry ∈ numbered (content.story.ranked.take topCount),
        (plainChange entry.1 entry.2).length = 2 := fun _ _ => rfl
    intro k
    rw [List.drop_succ_cons, filter_plainSections, breaking, not_opens breakingMark (by decide), top,
      apart]
    simp only [if_true, Bool.false_eq_true, if_false, List.append_nil, List.nil_append,
      List.flatMap_singleton]
    rw [← List.take_eq_take_min]
    show (Story.pairs ((numbered (content.story.ranked.take topCount)).flatMap
      fun entry => plainChange entry.1 entry.2))[k]? = _
    rw [pairs_flatMap two, List.getElem?_map, getElem?_numbered, Option.map_map]
    rfl
  case failures =>
    rw [List.drop_succ_cons, filter_plainSections, breaking, not_opens breakingMark (by decide),
      not_opens top (by decide)]
    rfl

end Plain

end ReportContent

end CommitLens
