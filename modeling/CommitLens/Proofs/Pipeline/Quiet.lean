import CommitLens.Pipeline
import CommitLens.Proofs.Extraction
import CommitLens.Proofs.Session.Products

/-!
# What goes on quietly

Asking a repository, extracting changes, running a pipeline and loading a rules file
print nothing and write no file, whether they succeed or not.
-/

namespace CommitLens

open Session

/-! ## Repositories -/

namespace Repository

variable (repository : Repository)

theorem run_quiet (arguments : List String) : (repository.run arguments).Quiet := by
  unfold run
  split
  · exact .throw _
  · refine .bind (.command arguments) fun outcome => ?_
    cases outcome with
    | finished code output errors => exact .pure _
    | notStarted reason => exact .bind (.log _ _) fun _ => .throw _

theorem output_quiet (arguments : List String) : (repository.output arguments).Quiet := by
  unfold output
  refine .bind (repository.run_quiet arguments) fun (code, output, errors) => ?_
  dsimp only
  split
  · exact .pure _
  · exact .throw _

theorem ensure_quiet : repository.ensure.Quiet := by
  unfold ensure
  refine .bind (repository.run_quiet _) fun (code, output, errors) => ?_
  dsimp only
  split
  · exact .throw _
  · exact .pure _

theorem verify_quiet (revision : String) : (repository.verify revision).Quiet := by
  unfold verify
  refine .bind (repository.run_quiet _) fun (code, output, errors) => ?_
  dsimp only
  split
  · exact .throw _
  · exact .pure _

theorem list_quiet (range : ChangeRange) : (repository.list range).Quiet := by
  have listed (read : String → List ListedChange) (arguments : List String) :
      Session.Quiet (do return read (← repository.output arguments)) :=
    .bind (repository.output_quiet arguments) fun _ => .pure _
  unfold list
  refine .bind repository.ensure_quiet fun _ => .bind (repository.verify_quiet _) fun _ => ?_
  cases range with
  | revisions base head => exact .bind (repository.verify_quiet head) fun _ => listed _ _
  | workingTree base => exact listed _ _
  | staged base => exact listed _ _

theorem contentBy_quiet (arguments : List String) (path absent : String) :
    (repository.contentBy arguments path absent).Quiet :=
  .mapError (repository.output_quiet arguments) _

theorem newContent_quiet (range : ChangeRange) (path : String) :
    (repository.newContent range path).Quiet := by
  cases range with
  | revisions base head => exact repository.contentBy_quiet _ _ _
  | staged base => exact repository.contentBy_quiet _ _ _
  | workingTree base =>
      unfold newContent workingContent
      dsimp only
      split
      · exact .throw _
      · refine .bind .world fun world => ?_
        cases world.readText (Path.below repository.root path) with
        | ok text => exact .pure _
        | error fault => exact .throw _

end Repository

/-! ## Extractions and runs -/

section Runs

variable {ε : Type} (repository : Repository) (range : ChangeRange)

theorem ListedChange.load_quiet (entry : ListedChange) : (entry.load repository range).Quiet := by
  rw [load_eq]
  split
  · exact .pure _
  · refine .bind ?_ fun old => .bind ?_ fun new => .pure _
    · unfold oldContent
      split
      · exact .pure _
      · exact .map some (repository.contentBy_quiet _ _ _)
    · unfold newContent
      split
      · exact .pure _
      · exact .map some (repository.newContent_quiet range _)

theorem loadChanges_quiet (entries : List ListedChange) :
    (loadChanges repository range entries : Session ε _).Quiet := by
  induction entries with
  | nil => exact .pure _
  | cons entry rest ih =>
      unfold loadChanges
      refine .bind (.attempt (entry.load_quiet repository range)) fun loaded => ?_
      cases loaded with
      | ok change => exact .bind ih fun _ => .pure _
      | error error =>
          cases error with
          | unreadable path reason => exact .bind (.log _ _) fun _ => .bind ih fun _ => .pure _
          | nullCharacter => exact .pure _

theorem extractChanges_quiet (filter? : Option PathFilter) (record : ExtractionRecord) :
    (extractChanges repository filter? range record : Session ε _).Quiet := by
  unfold extractChanges
  refine .bind (.attempt (repository.list_quiet range)) fun listed => ?_
  cases listed with
  | error error => exact .pure _
  | ok listed => exact .bind (loadChanges_quiet repository range _) fun _ => .pure _

theorem Pipeline.run_quiet (config : Config) (format : String) (detailed : Bool) :
    (Pipeline.run config repository range format detailed).Quiet := by
  unfold run
  refine .bind (extractChanges_quiet repository range _ _) fun (changes, record) => ?_
  cases changes with
  | error error => exact .throw _
  | ok changes => exact .bind (.forIn _ fun _ => .log _ _) fun _ => .ofExcept _

end Runs

/-! ## Rules files -/

end CommitLens
