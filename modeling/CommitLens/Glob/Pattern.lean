import CommitLens.Glob.Braces
import CommitLens.Glob.Piece

/-!
# Patterns for paths

A pattern is matched against a whole path, one segment at a time: `*` and `?`
never match a slash, a segment `**` matches any number of whole segments, and a
slash at the end of a pattern is short for `/**`.
-/

namespace CommitLens.Glob

inductive Segment where
  /-- `**` -/
  | deep
  | single (pieces : List Piece)
  deriving Repr, BEq, DecidableEq

/-- The segments of a path; empty ones and `.` do not count. -/
def segmentTexts (path : List Char) : List (List Char) :=
  (Text.splitOnChar '/' path).filter fun part => !part.isEmpty && part != ['.']

def Segment.ofText (text : List Char) : Segment :=
  if text = ['*', '*'] then deep else single (pieces text)

/-- The segments of one alternative of a pattern. -/
def segmentsOf (pattern : List Char) : List Segment :=
  let whole := if pattern.getLast? == some '/' then pattern ++ ['*', '*'] else pattern
  (segmentTexts whole).map Segment.ofText

/-- Do the segments of a pattern match those of a path?  Of several `**` in a
row one is enough. -/
def matchSegments : List Segment → List (List Char) → Bool
  | [], parts => parts.isEmpty
  | .deep :: .deep :: rest, parts => matchSegments (.deep :: rest) parts
  | .deep :: rest, parts => (rests parts).any fun left => matchSegments rest left
  | .single _ :: _, [] => false
  | .single pieces :: rest, part :: parts => matchPieces pieces part && matchSegments rest parts

/-- Does a path match a pattern?  Backslashes of the path count as slashes. -/
def accepts (pattern path : String) : Bool :=
  let parts := segmentTexts (path.toList.map fun c => if c = '\\' then '/' else c)
  (expandBraces pattern).any fun alternative =>
    matchSegments (segmentsOf alternative.toList) parts

def anyAccepts (patterns : List String) (path : String) : Bool :=
  patterns.any fun pattern => accepts pattern path

end CommitLens.Glob

namespace CommitLens

/-- Which paths are looked at: those that match a pattern of `only`, or all of
them when there is none, without those that match a pattern of `except`. -/
structure PathFilter where
  only : List String
  except : List String
  deriving Repr, BEq, DecidableEq, Inhabited

namespace PathFilter

/-- No patterns at all make no filter. -/
def ofPatterns? (only except : List String) : Option PathFilter :=
  if only.isEmpty && except.isEmpty then none else some ⟨only, except⟩

def accepts (filter : PathFilter) (path : String) : Bool :=
  (filter.only.isEmpty || Glob.anyAccepts filter.only path) &&
    !Glob.anyAccepts filter.except path

end PathFilter

end CommitLens
