import CommitLens.Change.Lines
import CommitLens.Proofs.Text
import Mathlib.Data.List.Basic

/-!
# Line counts and hunks balance

The line counts of a change and its hunk are computed apart from each other, the former
from the lengths of the contents and the latter line by line.  Main statement: both differ
by as many lines as the contents do, and a hunk is without lines only between equal
contents.
-/

namespace CommitLens

namespace Text

/-- The lines of a text tell the whole text. -/
theorem lines_inj {a b : String} : lines a = lines b ↔ a = b := by
  constructor
  · intro h
    have parts : a.toList.splitOn '\n' = b.toList.splitOn '\n' := by
      rw [← splitOnChar_eq_splitOn, ← splitOnChar_eq_splitOn]
      exact List.map_injective_iff.mpr (fun _ _ => String.ofList_injective) h
    apply String.toList_injective
    calc a.toList = ['\n'].intercalate (a.toList.splitOn '\n') := (List.intercalate_splitOn '\n').symm
      _ = ['\n'].intercalate (b.toList.splitOn '\n') := by rw [parts]
      _ = b.toList := List.intercalate_splitOn '\n'
  · rintro rfl
    rfl

theorem length_splitOnChar (separator : Char) (cs : List Char) :
    (splitOnChar separator cs).length = cs.count separator + 1 := by
  induction cs with
  | nil => rfl
  | cons c cs ih =>
      obtain ⟨part, rest, hp⟩ := List.exists_cons_of_ne_nil (splitOnChar_ne_nil separator cs)
      rw [hp, List.length_cons] at ih
      rw [splitOnChar_cons, hp, List.count_cons]
      by_cases hc : c = separator
      · simp [hc, ih]
      · simp [hc, ih]

theorem length_lines (text : String) : (lines text).length = text.toList.count '\n' + 1 := by
  rw [lines, split, List.length_map, length_splitOnChar]

end Text

/-! ## Lines that differ -/

section Unlike

variable (a b : List String)

theorem length_linesUnlike :
    (linesUnlike a b).length + b.length = (linesUnlike b a).length + a.length := by
  induction a generalizing b with
  | nil => cases b <;> simp [linesUnlike]
  | cons line lines ih =>
      cases b with
      | nil => simp [linesUnlike]
      | cons other others =>
          have rest := ih others
          by_cases same : line = other
          · simp [linesUnlike, same]
            omega
          · simp [linesUnlike, same, Ne.symm same]
            omega

theorem linesUnlike_eq_nil_iff : linesUnlike a b = [] ∧ linesUnlike b a = [] ↔ a = b := by
  induction a generalizing b with
  | nil => cases b <;> simp [linesUnlike]
  | cons line lines ih =>
      cases b with
      | nil => simp [linesUnlike]
      | cons other others =>
          by_cases same : line = other
          · simpa [linesUnlike, same] using ih others
          · simp [linesUnlike, same]

end Unlike

/-! ## Contents -/

/-- Is there a content, and something in it? -/
def HasLines (content : Option String) : Prop :=
  content ≠ none ∧ content ≠ some ""

instance (content : Option String) : Decidable (HasLines content) :=
  inferInstanceAs (Decidable (_ ∧ _))

/-- How many lines a content has: one more than line feeds, and none if it is absent or
empty. -/
def lineTotal : Option String → Nat
  | none => 0
  | some content => if content = "" then 0 else content.toList.count '\n' + 1

theorem present?_eq_none_iff {content : Option String} :
    present? content = none ↔ ¬HasLines content := by
  cases content with
  | none => simp [present?, HasLines]
  | some text => simp [present?, HasLines]

theorem lineTotal_of_present?_eq_none {content : Option String} (h : present? content = none) :
    lineTotal content = 0 := by
  cases content with
  | none => rfl
  | some text =>
      have empty : text = "" := by simpa [present?] using h
      simp [lineTotal, empty]

/-- A content that is not empty is all that counts. -/
theorem of_present? {content : Option String} {text : String} (h : present? content = some text) :
    content = some text ∧ lineTotal content = (Text.lines text).length := by
  cases content with
  | none => contradiction
  | some whole =>
      by_cases empty : whole = ""
      · simp [present?, empty] at h
      · obtain rfl : whole = text := by simpa [present?, empty] using h
        rw [Text.length_lines]
        simp [lineTotal, empty]

/-! ## Counts -/

/-- Line counts that account for the difference between two contents, all of it on one
side. -/
structure Metadata.Balances (metadata : Metadata) (old new : Option String) : Prop where
  difference : metadata.linesAdded - metadata.linesRemoved = (lineTotal new : Int) - lineTotal old
  added : 0 ≤ metadata.linesAdded
  removed : 0 ≤ metadata.linesRemoved
  oneSided : metadata.linesAdded = 0 ∨ metadata.linesRemoved = 0

theorem lineDelta_eq (old new : Option String) :
    lineDelta old new = (lineTotal new - lineTotal old, lineTotal old - lineTotal new) := by
  cases ho : present? old with
  | none =>
      have noOld := lineTotal_of_present?_eq_none ho
      cases hn : present? new with
      | none => simp [lineDelta, ho, hn, noOld, lineTotal_of_present?_eq_none hn]
      | some after => simp [lineDelta, ho, hn, noOld, (of_present? hn).2, Text.lineCount]
  | some before =>
      have oldLines := (of_present? ho).2
      cases hn : present? new with
      | none => simp [lineDelta, ho, hn, oldLines, lineTotal_of_present?_eq_none hn, Text.lineCount]
      | some after => simp [lineDelta, ho, hn, oldLines, (of_present? hn).2, Text.lineCount]

theorem Metadata.ofContents_balances (path : String) (old new : Option String) :
    (ofContents path old new).Balances old new := by
  have added : (ofContents path old new).linesAdded = (lineTotal new - lineTotal old : Nat) := by
    simp [ofContents, lineDelta_eq]
  have removed : (ofContents path old new).linesRemoved = (lineTotal old - lineTotal new : Nat) := by
    simp [ofContents, lineDelta_eq]
  constructor
  · rw [added, removed]
    omega
  · rw [added]
    omega
  · rw [removed]
    omega
  · rw [added, removed]
    omega

/-! ## Hunks -/

/-- The hunk between the contents the other way round. -/
def Hunk.reversed (hunk : Hunk) : Hunk :=
  { oldStart := hunk.newStart
    oldLineCount := hunk.newLineCount
    newStart := hunk.oldStart
    newLineCount := hunk.oldLineCount
    addedLines := hunk.removedLines
    removedLines := hunk.addedLines }

/-- A hunk over the whole of two contents that accounts for the difference between them. -/
structure Hunk.Balances (hunk : Hunk) (old new : Option String) : Prop where
  oldLineCount : hunk.oldLineCount = lineTotal old
  newLineCount : hunk.newLineCount = lineTotal new
  difference : (hunk.addedLines.length : Int) - hunk.removedLines.length =
    (lineTotal new : Int) - lineTotal old
  unchanged_iff : hunk.addedLines = [] ∧ hunk.removedLines = [] ↔ old = new

theorem hunks_reversed (old new : Option String) :
    hunks new old = (hunks old new).map Hunk.reversed := by
  unfold hunks
  cases present? old <;> cases present? new <;> rfl

theorem exists_hunk {old new : Option String} (ho : HasLines old) (hn : HasLines new) :
    ∃ hunk, hunks old new = [hunk] ∧ hunk.Balances old new := by
  obtain ⟨before, hb⟩ := Option.ne_none_iff_exists'.mp fun h => present?_eq_none_iff.mp h ho
  obtain ⟨after, ha⟩ := Option.ne_none_iff_exists'.mp fun h => present?_eq_none_iff.mp h hn
  obtain ⟨oldText, oldLines⟩ := of_present? hb
  obtain ⟨newText, newLines⟩ := of_present? ha
  refine ⟨_, by rw [hunks, hb, ha], oldLines.symm, newLines.symm, ?_, ?_⟩
  · have lengths := length_linesUnlike (Text.lines after) (Text.lines before)
    rw [oldLines, newLines]
    dsimp only
    omega
  · rw [linesUnlike_eq_nil_iff, Text.lines_inj, oldText, newText, Option.some_inj, eq_comm]

theorem hunks_eq_nil {old new : Option String} (h : ¬(HasLines old ∧ HasLines new)) :
    hunks old new = [] := by
  rcases not_and_or.mp h with h | h
  · rw [hunks, present?_eq_none_iff.mpr h]
  · rw [hunks, present?_eq_none_iff.mpr h]
    cases present? old <;> rfl

/-- The counts of a change balance, and so does its hunk, of which there is one if both
contents have lines. -/
theorem contents_balance (path : String) (old new : Option String) :
    (Metadata.ofContents path old new).Balances old new ∧
      if HasLines old ∧ HasLines new then
        ∃ hunk, hunks old new = [hunk] ∧ hunk.Balances old new ∧ hunks new old = [hunk.reversed]
      else hunks old new = [] := by
  refine ⟨Metadata.ofContents_balances path old new, ?_⟩
  split
  · rename_i both
    obtain ⟨hunk, alone, balances⟩ := exists_hunk both.1 both.2
    exact ⟨hunk, alone, balances, by rw [hunks_reversed, alone, List.map_singleton]⟩
  · exact hunks_eq_nil ‹_›

/-- A line feed at the end begins a line, and lines are compared where they stand. -/
example : (hunks (some "a\nb") (some "b\nb\n")).map (fun hunk => (hunk.addedLines, hunk.removedLines)) =
    [(["b", ""], ["a"])] := by decide +kernel

end CommitLens
