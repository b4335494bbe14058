/-!
# Blanks and line ends

Blank characters are the white space of Unicode, the four information
separators included.  A text is cut into lines in two ways: at line feeds only
(`lines`), or at every character and character pair that ends a line
(`splitLines`), where a final line end opens no further line.
-/

namespace CommitLens.Text

/-- White space, the information separators `1c` to `1f` included. -/
def isBlank (c : Char) : Bool :=
  let code := c.toNat
  (9 ≤ code && code ≤ 13) || (28 ≤ code && code ≤ 32) || code == 0x85 || code == 0xa0 ||
    code == 0x1680 || (0x2000 ≤ code && code ≤ 0x200a) || code == 0x2028 ||
    code == 0x2029 || code == 0x202f || code == 0x205f || code == 0x3000

/-- Characters that end a line. -/
def isLineEnd (c : Char) : Bool :=
  let code := c.toNat
  (10 ≤ code && code ≤ 13) || (28 ≤ code && code ≤ 30) || code == 0x85 ||
    code == 0x2028 || code == 0x2029

theorem isBlank_of_isLineEnd (c : Char) (h : isLineEnd c = true) : isBlank c = true := by
  simp only [isLineEnd, isBlank, Bool.or_eq_true, Bool.and_eq_true, decide_eq_true_eq,
    beq_iff_eq] at h ⊢
  omega

/-- Drop blanks at the front. -/
def trimStart (cs : List Char) : List Char :=
  cs.dropWhile isBlank

/-- Drop blanks at the end. -/
def trimEnd (cs : List Char) : List Char :=
  (cs.reverse.dropWhile isBlank).reverse

/-- A text without the blanks around it. -/
def trim (text : String) : String :=
  String.ofList (trimEnd (trimStart text.toList))

def isAllBlank (text : String) : Bool :=
  text.toList.all isBlank

/-- Cut a text at every occurrence of a character; there is always at least one
part. -/
def splitOnChar (separator : Char) (cs : List Char) : List (List Char) :=
  cs.foldr (fun c parts =>
    if c = separator then [] :: parts
    else match parts with
      | [] => [[c]]
      | part :: rest => (c :: part) :: rest) [[]]

@[simp] theorem splitOnChar_nil (separator : Char) : splitOnChar separator [] = [[]] := rfl

theorem splitOnChar_cons (separator c : Char) (cs : List Char) :
    splitOnChar separator (c :: cs) =
      if c = separator then [] :: splitOnChar separator cs
      else match splitOnChar separator cs with
        | [] => [[c]]
        | part :: rest => (c :: part) :: rest := rfl

theorem splitOnChar_ne_nil (separator : Char) (cs : List Char) :
    splitOnChar separator cs ≠ [] := by
  cases cs with
  | nil => simp
  | cons c cs =>
      rw [splitOnChar_cons]
      split
      · simp
      · split <;> simp

def split (separator : Char) (text : String) : List String :=
  (splitOnChar separator text.toList).map String.ofList

/-- The parts of a text between line feeds. -/
def lines (text : String) : List String :=
  split '\n' text

/-- How many lines a text has, one more than it has line feeds. -/
def lineCount (text : String) : Nat :=
  (lines text).length

/-- Cut at every line end; a carriage return with its line feed is one end. -/
def splitLineEnds : List Char → List (List Char)
  | [] => []
  | '\r' :: '\n' :: rest => [] :: splitLineEnds rest
  | c :: rest =>
      if isLineEnd c then [] :: splitLineEnds rest
      else match splitLineEnds rest with
        | [] => [[c]]
        | line :: more =>
            (c :: line) :: more

def splitLines (text : String) : List String :=
  (splitLineEnds text.toList).map String.ofList

/-- Write every line end `\r\n` or `\r` as a line feed. -/
def unifyLineFeeds : List Char → List Char
  | [] => []
  | '\r' :: '\n' :: rest => '\n' :: unifyLineFeeds rest
  | '\r' :: rest => '\n' :: unifyLineFeeds rest
  | c :: rest => c :: unifyLineFeeds rest

def join (separator : String) (parts : List String) : String :=
  String.intercalate separator parts

/-- Does a list of characters begin with another? -/
def startsWith (cs start : List Char) : Bool :=
  start.isPrefixOf cs

/-- Is one list of characters a part of another? -/
def hasPart (part : List Char) : List Char → Bool
  | [] => part.isEmpty
  | c :: cs => part.isPrefixOf (c :: cs) || hasPart part cs

/-- Does the text contain the other one? -/
def containsText (text part : String) : Bool :=
  hasPart part.toList text.toList

/-- The pieces before and after the first occurrence of `mark`. -/
def breakAt? (mark : List Char) : List Char → Option (List Char × List Char)
  | [] => if mark.isEmpty then some ([], []) else none
  | c :: cs =>
      if mark.isPrefixOf (c :: cs) then some ([], (c :: cs).drop mark.length)
      else (breakAt? mark cs).map fun (before, after) => (c :: before, after)

/-- Replace every occurrence of `old`, from left to right; `old` is not empty.
The first argument bounds the number of steps. -/
def replaceFrom (old new : List Char) : Nat → List Char → List Char
  | 0, cs => cs
  | _ + 1, [] => []
  | fuel + 1, c :: cs =>
      if old.isPrefixOf (c :: cs) then
        new ++ replaceFrom old new fuel ((c :: cs).drop old.length)
      else c :: replaceFrom old new fuel cs

def replace (text old new : String) : String :=
  String.ofList (replaceFrom old.toList new.toList (text.length + 1) text.toList)

end CommitLens.Text
