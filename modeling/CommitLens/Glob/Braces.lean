import CommitLens.Text.Blank

/-!
# Braces in patterns

A group `{a,b}` stands for one of its options; options may hold groups of their
own.  The pattern with a group is expanded to one pattern for each option, and
an opening brace that is never closed is a character like any other.
-/

namespace CommitLens.Glob

/-- The characters up to the brace that closes a group, and those behind it.
`depth` counts the groups that were opened inside. -/
def cutGroup? : Nat → List Char → Option (List Char × List Char)
  | _, [] => none
  | depth, c :: cs =>
      if c = '\x7d' ∧ depth = 0 then some ([], cs)
      else
        let inner := if c = '\x7b' then depth + 1 else if c = '\x7d' then depth - 1 else depth
        (cutGroup? inner cs).map fun (group, rest) => (c :: group, rest)

/-- Cut the inside of a group at its own commas. -/
def options : Nat → List Char → List (List Char)
  | _, [] => [[]]
  | depth, c :: cs =>
      if c = ',' ∧ depth = 0 then [] :: options 0 cs
      else
        let inner := if c = '\x7b' then depth + 1 else if c = '\x7d' then depth - 1 else depth
        match options inner cs with
        | [] => [[c]]
        | option :: more => (c :: option) :: more

/-- A pattern with a group, in parts. -/
structure Group where
  before : List Char
  options : List (List Char)
  after : List Char

/-- The first group of a pattern. -/
def firstGroup? (pattern : List Char) : Option Group :=
  let before := pattern.takeWhile (· != '\x7b')
  match pattern.dropWhile (· != '\x7b') with
  | [] => none
  | _ :: rest =>
      (cutGroup? 0 rest).map fun (inside, after) => ⟨before, options 0 inside, after⟩

/-- Expand group after group; every group takes an opening brace away, so their
number is fuel enough. -/
def expandFrom : Nat → List Char → List (List Char)
  | 0, pattern => [pattern]
  | fuel + 1, pattern =>
      match firstGroup? pattern with
      | none => [pattern]
      | some group =>
          group.options.flatMap fun option =>
            expandFrom fuel (group.before ++ option ++ group.after)

/-- Every pattern that a pattern with groups stands for, in the order of the
options. -/
def expandBraces (pattern : String) : List String :=
  let cs := pattern.toList
  (expandFrom (cs.count '\x7b') cs).map String.ofList

end CommitLens.Glob
