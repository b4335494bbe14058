import CommitLens.Files.Kind

/-!
# Line counts and hunks

Two versions of a file are compared by their line counts and, position by
position, by their lines.  No alignment is computed.
-/

namespace CommitLens

/-- What the path and the contents of a changed file tell about it. -/
structure Metadata where
  linesAdded : Int := 0
  linesRemoved : Int := 0
  isBinary : Bool := false
  fileKind : FileKind := .unknown
  extension : String := ""
  fileName : String := ""
  directory : String := ""
  deriving Repr, BEq, DecidableEq, Inhabited

/-- A content that is there and not empty. -/
def present? : Option String → Option String
  | none => none
  | some content => if content.isEmpty then none else some content

/-- How many lines more, and how many less, the new content has. -/
def lineDelta (old new : Option String) : Nat × Nat :=
  match present? old, present? new with
  | some old, some new =>
      (Text.lineCount new - Text.lineCount old, Text.lineCount old - Text.lineCount new)
  | none, some new => (Text.lineCount new, 0)
  | some old, none => (0, Text.lineCount old)
  | none, none => (0, 0)

def Metadata.ofContents (path : String) (old new : Option String) : Metadata :=
  let (added, removed) := lineDelta old new
  let parts := Path.parts path
  { linesAdded := added
    linesRemoved := removed
    isBinary := Path.isBinaryExtension parts.extension
    fileKind := FileKind.ofPath path
    extension := parts.extension
    fileName := parts.fileName
    directory := parts.directory }

/-- One stretch of lines in both versions of a file. -/
structure Hunk where
  oldStart : Nat
  oldLineCount : Nat
  newStart : Nat
  newLineCount : Nat
  addedLines : List String
  removedLines : List String
  deriving Repr, BEq, DecidableEq, Inhabited

/-- The lines that differ from the line at the same position of another
version. -/
def linesUnlike : List String → List String → List String
  | [], _ => []
  | lines, [] => lines
  | line :: lines, other :: others =>
      if line == other then linesUnlike lines others else line :: linesUnlike lines others

/-- One hunk over the whole file, if both versions have content. -/
def hunks (old new : Option String) : List Hunk :=
  match present? old, present? new with
  | some old, some new =>
      let oldLines := Text.lines old
      let newLines := Text.lines new
      [{ oldStart := 1
         oldLineCount := oldLines.length
         newStart := 1
         newLineCount := newLines.length
         addedLines := linesUnlike newLines oldLines
         removedLines := linesUnlike oldLines newLines }]
  | _, _ => []

end CommitLens
