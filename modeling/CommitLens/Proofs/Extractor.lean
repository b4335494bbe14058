import CommitLens.Extractor
import CommitLens.Proofs.Extraction
import Mathlib.Data.List.Induction

/-!
# Calls of an extractor

Each call of an extractor starts from what the calls before it left.  Main statement: after a
call that gives changes, every file that was counted is a change or a failure; after one that
gives none, the record is that of a new extractor if and only if no files were listed, neither
by this call nor, with a count, by one before it.
-/

namespace CommitLens

/-- What an extractor is asked for, and the surroundings it is asked in. -/
structure ExtractorCall where
  range : ChangeRange
  world : World

namespace Extractor

/-- What a call gives, and the extractor it leaves. -/
def answer (extractor : Extractor) (call : ExtractorCall) :
    Except QuestionError (List Change) × Extractor :=
  match (extractor.extract call.range : Session Empty _).result call.world with
  | .ok found => found

/-- The extractor that a sequence of calls leaves. -/
def after (extractor : Extractor) (calls : List ExtractorCall) : Extractor :=
  calls.foldl (fun extractor call => (extractor.answer call).2) extractor

/-- The listed files that the filter accepts. -/
def accepted (extractor : Extractor) (listed : List ListedChange) : List ListedChange :=
  listed.filter fun entry => extractor.filter?.all fun filter => filter.accepts entry.path

/-- The files that a call is about, if it comes to list them. -/
def listed? (extractor : Extractor) (call : ExtractorCall) : Option (List ListedChange) :=
  match (extractor.repository.list call.range).result call.world with
  | .ok listed => some (extractor.accepted listed)
  | .error _ => none

/-- How many files the latest call listed that came to list any. -/
def lastCount (extractor : Extractor) (calls : List ExtractorCall) : Nat :=
  ((calls.filterMap extractor.listed?).getLast?.map List.length).getD 0

/-! ## One call -/

variable {extractor : Extractor} {call : ExtractorCall}

def withRecord (extractor : Extractor) (record : ExtractionRecord) : Extractor :=
  { extractor with record }

/-- What can come of a call. -/
inductive Ends (extractor : Extractor) (call : ExtractorCall) :
    Except QuestionError (List Change) × Extractor → Prop
  /-- No files are listed, and the old count stays. -/
  | refused {error : QuestionError} (unlisted : extractor.listed? call = none) :
      Ends extractor call
        (.error error, extractor.withRecord { extractor.record with failures := [] })
  | counted {entries : List ListedChange} {found : Except QuestionError (List Change)}
      {failures : List FileFailure} (listed : extractor.listed? call = some entries)
      (loading : Loading extractor.repository call.range call.world entries found failures) :
      Ends extractor call (found, extractor.withRecord ⟨failures, entries.length⟩)

theorem answer_of_extractChanges {found : Except QuestionError (List Change)}
    {record : ExtractionRecord}
    (h : (extractChanges extractor.repository extractor.filter? call.range extractor.record :
      Session Empty _).result call.world = .ok (found, record)) :
    extractor.answer call = (found, extractor.withRecord record) := by
  unfold answer extract
  rw [Session.result_bind_of_ok h]
  rfl

/-- By whether the files are listed. -/
theorem ends_answer (extractor : Extractor) (call : ExtractorCall) :
    extractor.Ends call (extractor.answer call) := by
  cases listing : (extractor.repository.list call.range).result call.world with
  | error error =>
      have unlisted : extractor.listed? call = none := by
        simp only [listed?, listing]
      rw [answer_of_extractChanges (extractChanges_of_error listing)]
      exact .refused unlisted
  | ok listed =>
      have about : extractor.listed? call = some (extractor.accepted listed) := by
        simp only [listed?, listing]
      obtain ⟨found, failures, extracted, loading⟩ :=
        extractChanges_of_listed (ε := Empty) extractor.filter? extractor.record listing
      rw [answer_of_extractChanges extracted]
      exact .counted about loading

/-! ## Calls one after the other -/

theorem answer_withRecord (extractor : Extractor) (call : ExtractorCall) :
    ∃ record, (extractor.answer call).2 = extractor.withRecord record := by
  have ends := extractor.ends_answer call
  generalize extractor.answer call = found at ends ⊢
  cases ends with
  | refused unlisted => exact ⟨_, rfl⟩
  | counted listed loading => exact ⟨_, rfl⟩

theorem after_concat (extractor : Extractor) (calls : List ExtractorCall)
    (call : ExtractorCall) :
    extractor.after (calls ++ [call]) = ((extractor.after calls).answer call).2 := by
  simp [after]

/-- Calls change nothing but the record. -/
theorem after_withRecord (extractor : Extractor) (calls : List ExtractorCall) :
    ∃ record, extractor.after calls = extractor.withRecord record := by
  induction calls using List.reverseRecOn with
  | nil => exact ⟨extractor.record, rfl⟩
  | append_singleton calls call ih =>
      obtain ⟨record, same⟩ := ih
      obtain ⟨next, changed⟩ := (extractor.after calls).answer_withRecord call
      rw [after_concat, changed, same]
      exact ⟨next, rfl⟩

/-- What a call is about does not depend on the calls before it. -/
theorem listed?_after (extractor : Extractor) (calls : List ExtractorCall)
    (call : ExtractorCall) :
    (extractor.after calls).listed? call = extractor.listed? call := by
  obtain ⟨record, same⟩ := extractor.after_withRecord calls
  rw [same]
  rfl

/-- The count that a call leaves. -/
theorem detected_answer (extractor : Extractor) (call : ExtractorCall) :
    (extractor.answer call).2.record.detected =
      ((extractor.listed? call).map List.length).getD extractor.record.detected := by
  have ends := extractor.ends_answer call
  generalize extractor.answer call = found at ends ⊢
  cases ends with
  | refused unlisted =>
      rw [unlisted]
      rfl
  | counted listed loading =>
      rw [listed]
      rfl

theorem lastCount_concat (extractor : Extractor) (calls : List ExtractorCall)
    (call : ExtractorCall) :
    extractor.lastCount (calls ++ [call]) =
      ((extractor.listed? call).map List.length).getD (extractor.lastCount calls) := by
  rw [lastCount, List.filterMap_append, List.getLast?_append]
  cases found : extractor.listed? call with
  | none => simp [found, lastCount]
  | some entries => simp [found]

/-- The count is that of the latest call that listed its files, whatever came of it. -/
theorem detected_after (extractor : Extractor) (new : extractor.record.detected = 0)
    (calls : List ExtractorCall) :
    (extractor.after calls).record.detected = extractor.lastCount calls := by
  induction calls using List.reverseRecOn with
  | nil => exact new
  | append_singleton calls call ih =>
      rw [after_concat, detected_answer, listed?_after, ih, lastCount_concat]

/-- What the counters tell after a call, whatever the calls before it.  They tell about the
call itself if it gives changes.  If it is refused, no failures are left but the count of the
latest call that listed its files.  So a call without changes leaves the counters of a new
extractor exactly if it listed no files and that count is zero. -/
theorem extract_counts (repository : Repository) (filter? : Option PathFilter)
    (history : List ExtractorCall) (call : ExtractorCall) :
    let new : Extractor := { repository, filter? }
    let (result, next) := (new.after history).answer call
    (∀ changes, result = .ok changes →
      next.record.detected = changes.length + next.record.failures.length) ∧
    (∀ error, result = .error (.git error) →
      next.record = { failures := [], detected := new.lastCount history }) ∧
    (∀ error, result = .error error →
      (next.record = {} ↔ new.listed? call = none ∧ new.lastCount history = 0)) := by
  intro new
  have count := new.detected_after rfl history
  have about := new.listed?_after history call
  have ends := (new.after history).ends_answer call
  generalize (new.after history).answer call = found at ends
  dsimp only
  cases ends with
  | refused unlisted =>
      rw [about] at unlisted
      refine ⟨fun changes same => (nomatch same), fun error _ => ?_, fun error _ => ?_⟩
      · simp [withRecord, count]
      · simp [withRecord, count, unlisted]
  | counted listed loading =>
      rw [about] at listed
      cases loading with
      | finished divided =>
          refine ⟨fun changes same => ?_, fun error same => (nomatch same),
            fun error same => (nomatch same)⟩
          obtain rfl := Except.ok.inj same
          exact divided.length_eq
      | brokenOff divided breaks =>
          refine ⟨fun changes same => (nomatch same), fun error same => (nomatch same),
            fun error _ => ?_⟩
          simp [withRecord, listed]

/-- Two files are counted and one of them is gone; the next call breaks off at a path with a
null character, the file before it given up and the one behind it not looked at. -/
theorem extract_counts_broken :
    let files : FileTree := FileTree.addFile {} ["work", "a.txt"] [97]
    let call : String → ExtractorCall := fun states =>
      { range := .workingTree "HEAD"
        world :=
          { command := fun
              | ["rev-parse", "--is-inside-work-tree"] => .finished 0 "true\n" ""
              | ["status", "--porcelain", "--untracked-files=all"] => .finished 0 states ""
              | _ => .finished 0 "" ""
            files, directory := "/work" } }
    let new : Extractor := { repository := ⟨"/work"⟩ }
    let first := call "?? a.txt\n?? gone.txt\n"
    let second := call "?? gone.txt\n?? a\x00b.txt\n?? a.txt\n"
    let (result, next) := (new.after [first]).answer second
    ((new.answer first).1.map List.length = .ok 1 ∧ new.lastCount [first] = 2 ∧
      result = .error .nullCharacter ∧
      next.record.failures.map (·.path) = ["gone.txt"] ∧ next.record.detected = 3) ∧
    (next.record = {} ↔ new.listed? second = none ∧ new.lastCount [first] = 0) := by
  intro files call new first second
  have ran : (new.answer first).1.map List.length = .ok 1 ∧ new.lastCount [first] = 2 ∧
      ((new.after [first]).answer second).1 = .error .nullCharacter ∧
      ((new.after [first]).answer second).2.record.failures.map (·.path) = ["gone.txt"] ∧
      ((new.after [first]).answer second).2.record.detected = 3 := by
    decide +kernel
  exact ⟨ran, (extract_counts ⟨"/work"⟩ none [first] second).2.2 _ ran.2.2.1⟩

/-- A file is counted, and then the directory is no repository any more: the call is refused,
and the counters are not those of a new extractor. -/
theorem extract_keepsCount :
    let repository : Repository := ⟨"/work"⟩
    let before : World :=
      { command := fun
          | ["rev-parse", "--is-inside-work-tree"] => .finished 0 "true\n" ""
          | ["status", "--porcelain", "--untracked-files=all"] => .finished 0 "?? a.png\n" ""
          | _ => .finished 0 "" ""
        files := {}
        directory := "/work" }
    let later : World :=
      { before with command := fun _ => .finished 128 "" "fatal: not a git repository\n" }
    let range := ChangeRange.workingTree "HEAD"
    let (result, next) :=
      (({ repository } : Extractor).after [⟨range, before⟩]).answer ⟨range, later⟩
    result = .error (.git (.repository (.notARepository "/work"))) ∧
      next.record = { failures := [], detected := 1 } ∧ next.record ≠ {} := by
  decide +kernel

end Extractor

end CommitLens
