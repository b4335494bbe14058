import CommitLens.Change.Record
import CommitLens.Glob.Pattern

/-!
# Classification rules

A rule names the changes it applies to, by path, by what changed or by a
heuristic, and may give them a commit type.  Of the rules that apply, the last
one with a type decides; a change that no rule types falls back on its kind and
its deltas.
-/

namespace CommitLens

structure Rule where
  id : String
  /-- A pattern for the path. -/
  pattern : Option String := none
  /-- A part of the path. -/
  pathPart : Option String := none
  /-- A part of the description of a delta. -/
  deltaPart : Option String := none
  commitType : Option String := none
  reason : Option String := none
  /-- Texts that name heuristics. -/
  heuristics : List String := []
  deriving Repr, BEq, DecidableEq, Inhabited

def ComparedChange.mentions (change : ComparedChange) (text : String) : Bool :=
  change.deltas.any fun delta => Text.containsText delta.description text

def ComparedChange.isBreaking (change : ComparedChange) : Bool :=
  change.deltas.any fun delta => delta.severity == .breaking

/-- Conditions that a rule can ask for by name. -/
inductive Heuristic where
  | memberRemoved
  | optionalMemberAdded
  | breakingChange
  deriving Repr, BEq, DecidableEq

namespace Heuristic

def name : Heuristic → String
  | memberRemoved => "containsDtoPropertyRemoved"
  | optionalMemberAdded => "containsDtoAddedOptional"
  | breakingChange => "containsBreakingChange"

def all : List Heuristic := [memberRemoved, optionalMemberAdded, breakingChange]

def holds (heuristic : Heuristic) (change : ComparedChange) : Bool :=
  match heuristic with
  | memberRemoved => change.mentions "removed from interface"
  | optionalMemberAdded => change.mentions "(optional)"
  | breakingChange => change.isBreaking

end Heuristic

namespace Rule

/-- Does a text name a heuristic that holds? -/
def conditionHolds (condition : String) (change : ComparedChange) : Bool :=
  Heuristic.all.any fun heuristic =>
    Text.containsText condition heuristic.name && heuristic.holds change

/-- A rule applies when any one of its conditions holds; empty texts are no
conditions. -/
def applies (rule : Rule) (change : ComparedChange) : Bool :=
  ((present? rule.pattern).any fun pattern => Glob.accepts pattern change.path) ||
    ((present? rule.pathPart).any fun part => Text.containsText change.path part) ||
    ((present? rule.deltaPart).any fun part => change.mentions part) ||
    rule.heuristics.any fun condition => conditionHolds condition change

end Rule

end CommitLens
