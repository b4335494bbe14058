import CommitLens.Change.Lines
import CommitLens.Dependency.Edge
import CommitLens.Files.Scope

/-!
# Changed files

One changed file, with more and more known about it: first its contents, then
its place among the other changes, then what changed in it.
-/

namespace CommitLens

inductive ChangeKind where
  | added
  | modified
  | deleted
  | renamed
  | other (text : String)
  deriving Repr, BEq, DecidableEq, Inhabited

namespace ChangeKind

def text : ChangeKind → String
  | added => "added"
  | modified => "modified"
  | deleted => "deleted"
  | renamed => "renamed"
  | other text => text

def ofText : String → ChangeKind
  | "added" => added
  | "modified" => modified
  | "deleted" => deleted
  | "renamed" => renamed
  | text => other text

end ChangeKind

/-- A changed file with its contents before and after. -/
structure Change where
  path : String
  kind : ChangeKind
  old : Option String := none
  new : Option String := none
  /-- The path before the change, if that is another one. -/
  previousPath : Option String := none
  metadata : Metadata := {}
  deriving Repr, BEq, DecidableEq, Inhabited

/-- A change with its facts derived from path and contents. -/
def Change.ofContents (path : String) (kind : ChangeKind) (old new : Option String)
    (previousPath : Option String := none) : Change :=
  { path, kind, old, new, previousPath, metadata := Metadata.ofContents path old new }

/-- A change with its place among other files. -/
structure LinkedChange extends Change where
  relatedFiles : List String := []
  dependencies : List Dependency := []
  scope : Scope := .unknown
  hunks : List Hunk := []
  deriving Repr, BEq, DecidableEq, Inhabited

inductive Severity where
  | low
  | medium
  | high
  | breaking
  | other (text : String)
  deriving Repr, BEq, DecidableEq, Inhabited

namespace Severity

def text : Severity → String
  | low => "low"
  | medium => "medium"
  | high => "high"
  | breaking => "breaking"
  | other text => text

def ofText : String → Severity
  | "low" => low
  | "medium" => medium
  | "high" => high
  | "breaking" => breaking
  | text => other text

end Severity

/-- How much a change means to those who use the file. -/
inductive Impact where
  | minor
  | moderate
  | major
  | other (text : String)
  deriving Repr, BEq, DecidableEq, Inhabited

namespace Impact

def text : Impact → String
  | minor => "minor"
  | moderate => "moderate"
  | major => "major"
  | other text => text

def ofText : String → Impact
  | "minor" => minor
  | "moderate" => moderate
  | "major" => major
  | text => other text

end Impact

inductive DeltaKind where
  | methodAdded
  | methodRemoved
  | parameterAdded
  | parameterRemoved
  | returnTypeChanged
  | interfaceChanged
  | typeChanged
  | accessModifierChanged
  | dependencyAdded
  | dependencyRemoved
  | implementationChanged
  | fileAdded
  | fileDeleted
  | fileRenamed
  | other (text : String)
  deriving Repr, BEq, DecidableEq, Inhabited

namespace DeltaKind

def text : DeltaKind → String
  | methodAdded => "method-added"
  | methodRemoved => "method-removed"
  | parameterAdded => "parameter-added"
  | parameterRemoved => "parameter-removed"
  | returnTypeChanged => "return-type-changed"
  | interfaceChanged => "interface-changed"
  | typeChanged => "type-changed"
  | accessModifierChanged => "access-modifier-changed"
  | dependencyAdded => "dependency-added"
  | dependencyRemoved => "dependency-removed"
  | implementationChanged => "implementation-changed"
  | fileAdded => "file-added"
  | fileDeleted => "file-deleted"
  | fileRenamed => "file-renamed"
  | other text => text

def ofText : String → DeltaKind
  | "method-added" => methodAdded
  | "method-removed" => methodRemoved
  | "parameter-added" => parameterAdded
  | "parameter-removed" => parameterRemoved
  | "return-type-changed" => returnTypeChanged
  | "interface-changed" => interfaceChanged
  | "type-changed" => typeChanged
  | "access-modifier-changed" => accessModifierChanged
  | "dependency-added" => dependencyAdded
  | "dependency-removed" => dependencyRemoved
  | "implementation-changed" => implementationChanged
  | "file-added" => fileAdded
  | "file-deleted" => fileDeleted
  | "file-renamed" => fileRenamed
  | text => other text

end DeltaKind

/-- One thing that changed, described for readers. -/
structure Delta where
  kind : DeltaKind
  description : String
  severity : Severity := .low
  affectedSymbol : Option String := none
  deriving Repr, BEq, DecidableEq, Inhabited

/-- A change whose two versions have been compared. -/
structure ComparedChange extends LinkedChange where
  deltas : List Delta := []
  affectedSymbols : List String := []
  impact : Impact := .minor
  summary : String := ""
  /-- False if one of the versions could not be read as a source text. -/
  analyzed : Bool := true
  deriving Repr, BEq, DecidableEq, Inhabited

/-- A change with the type of commit that it calls for. -/
structure ClassifiedChange extends ComparedChange where
  commitType : String := "chore"
  commitScope : Option String := none
  breaking : Bool := false
  appliedRules : List String := []
  description : String := ""
  deriving Repr, BEq, DecidableEq, Inhabited

/-- What went wrong with one file without ending the run. -/
structure FileFailure where
  path : String
  stage : String
  reason : String
  deriving Repr, BEq, DecidableEq, Inhabited

end CommitLens
