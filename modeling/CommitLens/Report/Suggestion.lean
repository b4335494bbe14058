import CommitLens.Rules.Classify

/-!
# Commit suggestions

One conventional commit for a whole change set: its most important type, the
scope that most of the changes share, a subject, and a body when something
breaks.
-/

namespace CommitLens

structure Suggestion where
  commitType : String
  subject : String
  breaking : Bool := false
  scope : Option String := none
  body : Option String := none
  deriving Repr, BEq, DecidableEq, Inhabited

namespace Suggestion

/-- The first line of the commit message. -/
def header (suggestion : Suggestion) : String :=
  let scope := match present? suggestion.scope with
    | some scope => "(" ++ scope ++ ")"
    | none => ""
  suggestion.commitType ++ scope ++ (if suggestion.breaking then "!" else "") ++ ": " ++
    suggestion.subject

/-- The commit message. -/
def message (suggestion : Suggestion) : String :=
  match present? suggestion.body with
  | some body => suggestion.header ++ "\n\n" ++ body
  | none => suggestion.header

end Suggestion

/-- Types of lower rank come first.  Types that a configuration adds stand just
before the last one. -/
def typeRank : String → Nat
  | "feat" => 0
  | "fix" => 1
  | "refactor" => 2
  | "docs" => 3
  | "test" => 3
  | "chore" => 5
  | _ => 4

/-- Each text of a list once, in order of first appearance, with its count. -/
def tally (items : List String) : List (String × Nat) :=
  (unique items).map fun item => (item, items.count item)

/-- Is the first type better than the second one: of lower rank, or of equal
rank and more frequent? -/
def isBetterType (a b : String × Nat) : Bool :=
  typeRank a.1 < typeRank b.1 || (typeRank a.1 == typeRank b.1 && b.2 < a.2)

/-- The first entry that no other entry is better than. -/
def bestType? : List (String × Nat) → Option (String × Nat)
  | [] => none
  | entry :: rest =>
      match bestType? rest with
      | none => some entry
      | some best => some (if isBetterType best entry then best else entry)

/-- The commit type of a change set. -/
def selectType (changes : List ClassifiedChange) : String :=
  match bestType? (tally (changes.map (·.commitType))) with
  | some (commitType, _) => commitType
  | none => defaultCommitType

/-- How many scopes may share the first place. -/
def maxTiedScopes : Nat := 3

/-- The scope of more than half of the changes. -/
def selectScope? (changes : List ClassifiedChange) : Option String :=
  let counts := tally (changes.filterMap fun change => present? change.commitScope)
  let best := (counts.map (·.2)).foldl max 0
  let tied := counts.filter fun entry => entry.2 == best
  match tied with
  | [] => none
  | (scope, _) :: _ =>
      if best * 2 ≤ changes.length || maxTiedScopes < tied.length then none else some scope

/-- What a commit of a type says about its changes. -/
def subject (changes : List ClassifiedChange) (commitType : String) : String :=
  let count := toString changes.length
  match changes, commitType with
  | [change], _ => if change.description.isEmpty then "update code" else change.description
  | _, "feat" => "add " ++ count ++ " new features"
  | _, "fix" => "fix " ++ count ++ " issues"
  | _, "refactor" => "refactor " ++ count ++ " files"
  | _, "docs" => "update documentation"
  | _, "test" => "add or update tests"
  | _, _ => "update " ++ count ++ " files"

/-- The body names what every breaking change does, or its path. -/
def breakingBody (breaking : List ClassifiedChange) : String :=
  "BREAKING CHANGE: " ++ Text.join "\n" (breaking.map fun change =>
    if change.description.isEmpty then change.path else change.description)

def suggestCommit (changes : List ClassifiedChange) : Suggestion :=
  if changes.isEmpty then { commitType := defaultCommitType, subject := "no changes detected" }
  else
    let commitType := selectType changes
    let breaking := changes.filter (·.breaking)
    { commitType
      subject := subject changes commitType
      breaking := !breaking.isEmpty
      scope := selectScope? changes
      body := if breaking.isEmpty then none else some (breakingBody breaking) }

end CommitLens
