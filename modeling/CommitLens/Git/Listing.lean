import CommitLens.Text.Blank

/-!
# Listings of changed files

The two listings that Git prints: the differences between two versions, one line
with tabs each, and the state of the working tree, one line with a code of two
letters each.
-/

namespace CommitLens

/-- A path that is listed as changed. -/
structure ListedChange where
  path : String
  /-- The letter of its status, if it has one. -/
  status : Option Char
  previousPath : Option String := none
  deriving Repr, BEq, DecidableEq, Inhabited

namespace Git

/-- A path without the quotes around it.  Inside of them, a quote and a
backslash stand behind a backslash. -/
def unquote (path : String) : String :=
  match path.toList with
  | '\x22' :: rest =>
      if rest.getLast? == some '\x22' then
        let inside := String.ofList rest.dropLast
        Text.replace (Text.replace inside "\\\"" "\"") "\\\\" "\\"
      else path
  | _ => path

/-- Does a status come with the path before the change? -/
def hasPreviousPath (status : Option Char) : Bool :=
  status == some 'R' || status == some 'C'

/-- A line with the status and one path, or two, between tabs. -/
def readDifference? (line : String) : Option ListedChange :=
  match Text.split '\t' line with
  | code :: path :: more =>
      let status := code.toList.head?
      match hasPreviousPath status, more with
      | true, newPath :: _ => some ⟨unquote newPath, status, some (unquote path)⟩
      | _, _ => some ⟨unquote path, status, none⟩
  | _ => none

/-- The changes of a listing of differences. -/
def readDifferences (output : String) : List ListedChange :=
  ((Text.splitLines output).filter fun line => !Text.isAllBlank line).filterMap readDifference?

/-- The letter that counts among the two of a state: the one for the index,
unless it says nothing. -/
def primaryStatus (index tree : Char) : Char :=
  if index == ' ' || index == '?' then tree else index

/-- A line with two letters, a space and a path, or two paths with an arrow. -/
def readState? (line : String) : Option ListedChange :=
  match line.toList with
  | index :: tree :: _ :: name =>
      if name.isEmpty || Text.isAllBlank line then none
      else
        let status := some (primaryStatus index tree)
        match hasPreviousPath status, Text.breakAt? " -> ".toList name with
        | true, some (old, new) =>
            some ⟨unquote (String.ofList new), status, some (unquote (String.ofList old))⟩
        | _, _ => some ⟨unquote (String.ofList name), status, none⟩
  | _ => none

/-- The first change of every path. -/
def firstByPath (changes : List ListedChange) : List ListedChange :=
  (changes.foldl (fun found change =>
    if found.any fun other => other.path == change.path then found
    else change :: found) []).reverse

/-- The changes of a listing of states. -/
def readStates (output : String) : List ListedChange :=
  firstByPath ((Text.splitLines output).filterMap readState?)

end Git

end CommitLens
