/-!
# One segment of a pattern

`*` stands for any characters, `?` for one, and `[...]` for one of a set, which
is negated by an exclamation mark.  A bracket that is never closed is a
character like any other.
-/

namespace CommitLens.Glob

/-- Characters from `first` to `last`; one character is a range of its own. -/
structure CharRange where
  first : Char
  last : Char
  deriving Repr, BEq, DecidableEq

def CharRange.contains (range : CharRange) (c : Char) : Bool :=
  range.first ≤ c && c ≤ range.last

inductive Piece where
  | anyText
  | anyChar
  | literal (c : Char)
  | oneOf (negated : Bool) (ranges : List CharRange)
  deriving Repr, BEq, DecidableEq

/-- Does a piece for one character accept it? -/
def Piece.accepts (piece : Piece) (c : Char) : Bool :=
  match piece with
  | anyText => true
  | anyChar => true
  | literal d => c == d
  | oneOf negated ranges => (ranges.any fun range => range.contains c) != negated

/-- The inside of a set and what follows its closing bracket.  A bracket that
closes right at the start, behind an exclamation mark or not, belongs to the
set. -/
def cutSet? (cs : List Char) : Option (List Char × List Char) :=
  let mark := match cs with
    | '!' :: _ => ['!']
    | _ => []
  let rest := cs.drop mark.length
  let head := match rest with
    | ']' :: _ => [']']
    | _ => []
  let rest := rest.drop head.length
  let body := rest.takeWhile (· != ']')
  match rest.drop body.length with
  | [] => none
  | _ :: after => some (mark ++ head ++ body, after)

/-- Cut the inside of a set at the hyphens that make ranges.  Such a hyphen has
a character before it, and two ranges do not share a character; `skip` counts
the characters in which no such hyphen can be. -/
def rangeParts : Nat → List Char → List (List Char)
  | _, [] => [[]]
  | 0, '-' :: cs => [] :: rangeParts 2 cs
  | skip, c :: cs =>
      match rangeParts (skip - 1) cs with
      | [] => [[c]]
      | part :: more => (c :: part) :: more

/-- A hyphen at the very end stands for itself. -/
def closeParts (parts : List (List Char)) : List (List Char) :=
  match parts.reverse with
  | [] :: last :: before => ((last ++ ['-']) :: before).reverse
  | _ => parts

/-- Put a part before others.  A range with its ends in the wrong order is
empty, and so its ends are dropped. -/
def joinPart (part : List Char) (parts : List (List Char)) : List (List Char) :=
  match parts, part.getLast? with
  | (first :: rest) :: more, some last =>
      if first < last then (part.dropLast ++ rest) :: more
      else part :: (first :: rest) :: more
  | parts, _ => part :: parts

/-- The ranges written by parts: between two parts there is a hyphen, all other
characters stand for themselves.  `low` is the lower end of a range whose upper
end opens the next part. -/
def rangesOf : Option Char → List (List Char) → List CharRange
  | _, [] => []
  | low, part :: more =>
      let (closed, body) := match low, part with
        | some low, high :: body => ([CharRange.mk low high], body)
        | _, _ => ([], part)
      if more.isEmpty then closed ++ body.map fun c => ⟨c, c⟩
      else closed ++ (body.dropLast.map fun c => ⟨c, c⟩) ++ rangesOf body.getLast? more

/-- The set written by the inside of brackets. -/
def setPiece (inside : List Char) : Piece :=
  let skip := if inside.head? == some '!' then 2 else 1
  let parts := (closeParts (rangeParts skip inside)).foldr joinPart []
  match parts with
  | ('!' :: part) :: more =>
      if part.isEmpty && more.isEmpty then .anyChar else .oneOf true (rangesOf none (part :: more))
  | parts => .oneOf false (rangesOf none parts)

/-- The pieces of a segment.  The fuel is the length of the segment. -/
def piecesFrom : Nat → List Char → List Piece
  | 0, _ => []
  | _, [] => []
  | fuel + 1, c :: cs =>
      if c = '*' then .anyText :: piecesFrom fuel (cs.dropWhile (· == '*'))
      else if c = '?' then .anyChar :: piecesFrom fuel cs
      else if c = '[' then
        match cutSet? cs with
        | some (inside, rest) => setPiece inside :: piecesFrom fuel rest
        | none => .literal c :: piecesFrom fuel cs
      else .literal c :: piecesFrom fuel cs

def pieces (segment : List Char) : List Piece :=
  piecesFrom segment.length segment

/-- All that can be left of a list when some of its front is taken away. -/
def rests {α : Type} : List α → List (List α)
  | [] => [[]]
  | x :: xs => (x :: xs) :: rests xs

/-- Does the text match from its start to its end? -/
def matchPieces : List Piece → List Char → Bool
  | [], cs => cs.isEmpty
  | .anyText :: more, cs => (rests cs).any fun rest => matchPieces more rest
  | _ :: _, [] => false
  | piece :: more, c :: cs => piece.accepts c && matchPieces more cs

end CommitLens.Glob
