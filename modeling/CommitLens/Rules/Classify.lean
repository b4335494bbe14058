import CommitLens.Rules.Rule

/-!
# Classifying changes

The commit type of a change, where it belongs, and one line that says what was
done.
-/

namespace CommitLens

def defaultCommitType : String := "chore"

/-- The commit types that need no configuration. -/
def builtinCommitTypes : List String := ["feat", "fix", "docs", "refactor", "test", "chore"]

/-- The directory behind the first `anchor` of a path; the file itself is no
directory. -/
def directoryBehind? (anchor : String) (parts : List String) : Option String :=
  match parts.dropWhile (· != anchor) with
  | _ :: directory :: _ :: _ => some directory
  | _ => none

namespace ComparedChange

/-- Where a change belongs: the directory behind `src` or `tests`, or else the
scope of its path. -/
def commitScope? (change : ComparedChange) : Option String :=
  let parts := Text.split '/' change.path
  match directoryBehind? "src" parts with
  | some directory => some directory
  | none =>
      match directoryBehind? "tests" parts with
      | some directory => some directory
      | none =>
          if change.scope.text.isEmpty || change.scope == .unknown then none
          else some change.scope.text

/-- One line for a change: its only delta, or what was done with the file. -/
def headline (change : ComparedChange) : String :=
  match change.deltas with
  | [delta] => delta.description
  | _ =>
      let name := Path.fileName change.path
      if change.scope == .test then "Update tests in " ++ name
      else match change.kind, present? change.previousPath with
        | .added, _ => "Add " ++ name
        | .deleted, _ => "Remove " ++ name
        | .renamed, some previous => "Rename " ++ Path.fileName previous ++ " to " ++ name
        | _, _ => "Update " ++ name

def isDocumentation (change : ComparedChange) : Bool :=
  ([".md", ".rst", ".adoc"].any fun last => (Text.lower change.path).endsWith last) ||
    Text.containsText ("/" ++ change.path) "/docs/"

/-- The commit type of a change that no rule gives one. -/
def fallbackType (change : ComparedChange) : String :=
  let hasAny := fun (kinds : List DeltaKind) => change.deltas.any fun d => kinds.contains d.kind
  if change.scope == .test then "test"
  else if change.isDocumentation then "docs"
  else if change.kind == .added then "feat"
  else if hasAny [.methodAdded, .methodRemoved, .interfaceChanged] then "feat"
  else if hasAny [.implementationChanged] then "fix"
  else defaultCommitType

/-- The rules that apply to a change, in their order. -/
def applyingRules (rules : List Rule) (change : ComparedChange) : List Rule :=
  rules.filter fun rule => rule.applies change

/-- The type of the last rule that has one. -/
def decidedType? (applying : List Rule) : Option String :=
  (applying.filterMap fun rule => present? rule.commitType).getLast?

def classify (rules : List Rule) (change : ComparedChange) : ClassifiedChange :=
  let applying := change.applyingRules rules
  { change with
    commitType := (decidedType? applying).getD change.fallbackType
    commitScope := change.commitScope?
    breaking := change.isBreaking
    appliedRules := applying.map (·.id)
    description := change.headline }

end ComparedChange

end CommitLens
