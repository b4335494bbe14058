import CommitLens.Change.Record
import CommitLens.Git.Repository
import CommitLens.Glob.Pattern

/-!
# Extraction

The changes between two states of a repository, with the contents before and
after.  A file whose contents cannot be read is left out and kept as a failure; a
question with a null character in it ends the extraction.
-/

namespace CommitLens

/-- The two states that are compared: a base revision, and another revision, the
working tree or the index. -/
inductive ChangeRange where
  | revisions (base head : String)
  | workingTree (base : String)
  | staged (base : String)
  deriving Repr, BEq, DecidableEq

namespace ChangeRange

/-- An empty head stands for the working tree, and the index has none. -/
def of (base head : String) (staged : Bool) : ChangeRange :=
  if staged then .staged base
  else if head.isEmpty then .workingTree base
  else .revisions base head

def base : ChangeRange → String
  | revisions base _ | workingTree base | staged base => base

/-- What a range is called in messages. -/
def text : ChangeRange → String
  | revisions base head => base ++ ".." ++ head
  | workingTree _ => "working tree"
  | staged base => "staged changes against " ++ base

end ChangeRange

namespace Repository

/-- The changed files in a range, if the repository and its revisions are
known. -/
def list (repository : Repository) (range : ChangeRange) :
    Session QuestionError (List ListedChange) := do
  repository.ensure
  repository.verify range.base
  match range with
  | .staged base => repository.stagedDifferences base
  | .workingTree _ => repository.states
  | .revisions base head =>
      repository.verify head
      repository.differences base head

/-- The content of a file after the changes of a range. -/
def newContent (repository : Repository) (range : ChangeRange) (path : String) :
    Session ContentError String :=
  match range with
  | .staged _ => repository.stagedContent path
  | .workingTree _ => repository.workingContent path
  | .revisions _ head => repository.contentAt head path

end Repository

/-- The kind of change that a status stands for. -/
def ChangeKind.ofStatus : Option Char → ChangeKind
  | some 'A' | some 'C' | some '?' => .added
  | some 'D' => .deleted
  | some 'R' => .renamed
  | _ => .modified

namespace ListedChange

def kind (entry : ListedChange) : ChangeKind :=
  ChangeKind.ofStatus entry.status

/-- The path before a renaming. -/
def renamedFrom (entry : ListedChange) : Option String :=
  if entry.kind == .renamed then entry.previousPath else none

/-- A listed change with its contents; those of binary files are not read. -/
def load (repository : Repository) (range : ChangeRange) (entry : ListedChange) :
    Session ContentError Change := do
  let contents := fun old new =>
    Change.ofContents entry.path entry.kind old new entry.renamedFrom
  if Path.isBinary entry.path then return contents none none
  else
    let oldPath := (present? entry.renamedFrom).getD entry.path
    let old ←
      if entry.kind == .added then pure none
      else some <$> repository.contentAt range.base oldPath
    let new ←
      if entry.kind == .deleted then pure none
      else some <$> repository.newContent range entry.path
    return contents old new

end ListedChange

/-- What is known after an extraction beside its changes. -/
structure ExtractionRecord where
  failures : List FileFailure := []
  /-- The number of listed files that the filter accepts. -/
  detected : Nat := 0
  deriving Repr, BEq, DecidableEq, Inhabited

/-- Load the changes one after the other, up to one that cannot be asked for; those that
cannot be read are set aside. -/
def loadChanges {ε : Type} (repository : Repository) (range : ChangeRange) :
    List ListedChange → Session ε (Except QuestionError (List Change) × List FileFailure)
  | [] => return (.ok [], [])
  | entry :: rest => do
      match ← Session.attempt (entry.load repository range) with
      | .ok change =>
          let (changes, failures) ← loadChanges repository range rest
          return (changes.map (change :: ·), failures)
      | .error (.unreadable path reason) =>
          Session.log .warning ("Skipping " ++ path ++ ": " ++ reason)
          let (changes, failures) ← loadChanges repository range rest
          return (changes, ⟨entry.path, "extraction", reason⟩ :: failures)
      | .error .nullCharacter => return (.error .nullCharacter, [])

/-- The changes in a range.  The record of the extraction before is replaced, but
its count only once the files are listed. -/
def extractChanges {ε : Type} (repository : Repository) (filter? : Option PathFilter)
    (range : ChangeRange) (record : ExtractionRecord) :
    Session ε (Except QuestionError (List Change) × ExtractionRecord) := do
  match ← Session.attempt (repository.list range) with
  | .error error => return (.error error, { record with failures := [] })
  | .ok listed =>
      let entries := listed.filter fun entry =>
        filter?.all fun filter => filter.accepts entry.path
      let (changes, failures) ← loadChanges repository range entries
      return (changes, { failures, detected := entries.length })

end CommitLens
