import CommitLens.Git.Listing
import CommitLens.Session

/-!
# Repositories

What is asked of a Git repository: whether it is one, whether a revision is
known, which files changed, and what a file contains.  Every question but the
last one for a file of the working tree is a Git command.
-/

namespace CommitLens

/-- What makes a repository unusable. -/
inductive RepositoryFault where
  | cannotRun (root reason : String)
  | notARepository (root : String)
  | unknownRevision (revision : String)
  deriving Repr, BEq, DecidableEq

def RepositoryFault.message : RepositoryFault → String
  | cannotRun root reason => "Unable to run git in " ++ root ++ ": " ++ reason
  | notARepository root => root ++ " is not a Git repository"
  | unknownRevision revision => "Unknown revision or reference: '" ++ revision ++ "'"

/-- Why a question to a repository has no answer. -/
inductive GitError where
  | repository (fault : RepositoryFault)
  /-- A command failed; the message is its own. -/
  | command (message : String)
  deriving Repr, BEq, DecidableEq

def GitError.message : GitError → String
  | repository fault => fault.message
  | command message => message

/-- Why a question is not answered. -/
inductive QuestionError where
  | git (error : GitError)
  /-- It has a null character in it, so that it cannot even be put. -/
  | nullCharacter
  deriving Repr, BEq, DecidableEq

def QuestionError.message : QuestionError → String
  | git error => error.message
  | nullCharacter => nullCharacterMessage

/-- Why the content of a file is not known. -/
inductive ContentError where
  | unreadable (path reason : String)
  /-- The file is looked for under a path that no file can have. -/
  | nullCharacter
  deriving Repr, BEq, DecidableEq

def ContentError.message : ContentError → String
  | unreadable path reason => "Cannot read '" ++ path ++ "': " ++ reason
  | nullCharacter => nullCharacterMessage

structure Repository where
  root : String
  deriving Repr, BEq, DecidableEq

namespace Repository

/-- The root of the repository that a directory belongs to: the nearest
directory with an entry `.git`, going up. -/
def find? (world : World) (start : String) : Option Repository :=
  let names := FileTree.resolve (world.locate start)
  let ways := (List.range (names.length + 1)).map fun up => names.take (names.length - up)
  (ways.find? fun way => world.isPresent (Path.ofNames (way ++ [".git"]))).map fun way =>
    ⟨Path.ofNames way⟩

/-- Is there a null character in a command, or in the directory that it would be run in? -/
@[irreducible] def meetsNull (repository : Repository) (arguments : List String) : Bool :=
  (repository.root :: arguments).any Text.hasNull

/-- Run a command: its exit code, its output and its error output. -/
def run (repository : Repository) (arguments : List String) :
    Session QuestionError (Int × String × String) := do
  if repository.meetsNull arguments then throw .nullCharacter
  else
    match ← Session.command arguments with
    | .finished code output errors => return (code, output, errors)
    | .notStarted reason =>
        let fault := RepositoryFault.cannotRun repository.root reason
        Session.log .error fault.message
        throw (.git (.repository fault))

/-- The output of a command that succeeds. -/
def output (repository : Repository) (arguments : List String) : Session QuestionError String := do
  let (code, output, errors) ← repository.run arguments
  if code == 0 then return output
  else
    let message := Text.trim errors
    throw (.git (.command (if message.isEmpty then Text.trim output else message)))

/-- Fail unless the root is inside a working tree. -/
def ensure (repository : Repository) : Session QuestionError Unit := do
  let (code, output, _) ← repository.run ["rev-parse", "--is-inside-work-tree"]
  if code != 0 || Text.trim output != "true" then
    throw (.git (.repository (.notARepository repository.root)))

/-- Fail unless a revision names a commit. -/
def verify (repository : Repository) (revision : String) : Session QuestionError Unit := do
  let (code, _, _) ← repository.run
    ["rev-parse", "--verify", "--quiet", revision ++ "^\x7bcommit\x7d"]
  if code != 0 then throw (.git (.repository (.unknownRevision revision)))

/-- The files that differ between two revisions. -/
def differences (repository : Repository) (base head : String) :
    Session QuestionError (List ListedChange) := do
  return Git.readDifferences
    (← repository.output ["diff", "--name-status", "-M", base, head])

/-- The files that differ between a revision and the index. -/
def stagedDifferences (repository : Repository) (base : String) :
    Session QuestionError (List ListedChange) := do
  return Git.readDifferences
    (← repository.output ["diff", "--cached", "--name-status", "-M", base])

/-- The changed files of the working tree. -/
def states (repository : Repository) : Session QuestionError (List ListedChange) := do
  return Git.readStates
    (← repository.output ["status", "--porcelain", "--untracked-files=all"])

/-- The output of a command about the content of a file. -/
def contentBy (repository : Repository) (arguments : List String) (path absent : String) :
    Session ContentError String :=
  Session.mapError
    (fun
      | .git error => .unreadable path (if error.message.isEmpty then absent else error.message)
      | .nullCharacter => .nullCharacter)
    (repository.output arguments)

/-- The content of a file at a revision. -/
def contentAt (repository : Repository) (revision path : String) :
    Session ContentError String :=
  repository.contentBy ["show", revision ++ ":" ++ path] path ("not found at " ++ revision)

/-- The content of a file in the index. -/
def stagedContent (repository : Repository) (path : String) : Session ContentError String :=
  repository.contentBy ["show", ":" ++ path] path "not found in the index"

/-- The content of a file in the working tree. -/
def workingContent (repository : Repository) (path : String) : Session ContentError String := do
  let place := Path.below repository.root path
  if Text.hasNull place then throw .nullCharacter
  else
    match (← Session.world).readText place with
    | .ok text => return text
    | .error fault => throw (.unreadable path fault.message)

end Repository

end CommitLens
