import CommitLens.Yaml.Scalar

/-!
# Printing YAML

Block style with two blanks of indentation; lists stand in the column of their
key, and empty collections in brackets.  A text is written plain if it reads
back as that text, else in single quotes, else in double quotes with escapes.
Long texts are folded at blanks behind the eightieth column.
-/

namespace CommitLens.Yaml

/-- What stands between two places of the output: `column` is where it ends, and
`fresh` tells that nothing but blanks and marks stand on the line so far. -/
structure Output where
  /-- The characters, last one first. -/
  chars : List Char := []
  column : Nat := 0
  /-- Does a blank or a line break come last? -/
  spaced : Bool := true
  fresh : Bool := true

namespace Output

def lineWidth : Nat := 80

/-- Write characters of one line. -/
def put (out : Output) (cs : List Char) : Output :=
  { out with chars := cs.reverse ++ out.chars, column := out.column + cs.length }

def newLine (out : Output) : Output :=
  { chars := '\n' :: out.chars, column := 0, spaced := true, fresh := true }

/-- Move to a column of a line that has no content yet. -/
def indentTo (out : Output) (indent : Nat) : Output :=
  let out :=
    if !out.fresh || indent < out.column || (out.column == indent && !out.spaced) then
      out.newLine
    else out
  if out.column < indent then
    { out.put (List.replicate (indent - out.column) ' ') with spaced := true }
  else out

/-- Write a mark, behind a blank if it needs one. -/
def mark (out : Output) (text : String) (needsBlank keepsFresh : Bool) : Output :=
  let cs := if out.spaced || !needsBlank then text.toList else ' ' :: text.toList
  { out.put cs with spaced := false, fresh := out.fresh && keepsFresh }

end Output

/-! ## Styles of texts -/

/-- Line breaks that a text can have. -/
def isTextBreak (c : Char) : Bool :=
  c == '\n' || c.toNat == 0x85 || c.toNat == 0x2028 || c.toNat == 0x2029

/-- Every character with the one before it and the one behind it. -/
def withNeighbours (cs : List Char) : List (Option Char × Char × Option Char) :=
  let before := none :: cs.map some
  let after := (cs.drop 1).map some ++ [none]
  before.zip (cs.zip after)

def isBlankOrNone : Option Char → Bool
  | none => true
  | some c => isBlankOrEnd c

/-- Does a text hold a mark that would be read as such outside of quotes? -/
def hasBlockMark (cs : List Char) : Bool :=
  "---".toList.isPrefixOf cs || "...".toList.isPrefixOf cs ||
    (withNeighbours cs).any fun (before, c, after) =>
      match before with
      | none =>
          "#,[]\x7b\x7d&*!|>'\x22%@\x60".toList.contains c ||
            ("?:-".toList.contains c && isBlankOrNone after)
      | some _ => (c == ':' && isBlankOrNone after) || (c == '#' && isBlankOrNone before)

/-- Is there a character that needs an escape? -/
def needsEscapes (cs : List Char) : Bool :=
  cs.any fun c => !(c == '\n' || (' ' ≤ c && c ≤ '~'))

/-- Is there a blank next to a line break? -/
def hasBrokenBlank (cs : List Char) : Bool × Bool :=
  let pairs := cs.zip (cs.drop 1)
  (pairs.any fun (a, b) => isTextBreak a && b == ' ',
    pairs.any fun (a, b) => a == ' ' && isTextBreak b)

inductive TextStyle where
  | plain
  | single
  | double
  deriving Repr, BEq, DecidableEq

/-- Can a text stand without quotes, its type aside? -/
def allowsPlain (cs : List Char) : Bool :=
  let ends := fun (c : Option Char) => match c with
    | some c => c == ' ' || isTextBreak c
    | none => false
  !(ends cs.head? || ends cs.getLast?) && !cs.any isTextBreak && !needsEscapes cs &&
    !hasBlockMark cs

/-- The style of a text; `isKey` tells that it must stand on one line. -/
def styleOf (s : String) (isKey : Bool) : TextStyle :=
  let cs := s.toList
  let (breakBlank, blankBreak) := hasBrokenBlank cs
  if Kind.ofPlain s == .text && !(isKey && cs.isEmpty) && (cs.isEmpty || allowsPlain cs) then .plain
  else if !breakBlank && !blankBreak && !needsEscapes cs && !(isKey && cs.any isTextBreak) then
    .single
  else .double

/-! ## Writing texts -/

/-- The stretches of a text: blanks, line breaks, and what is between them. -/
def stretches (kind : Char → Nat) : List Char → List (List Char)
  | [] => []
  | c :: cs =>
      match stretches kind cs with
      | (d :: part) :: more =>
          if kind c == kind d then (c :: d :: part) :: more else [c] :: (d :: part) :: more
      | parts => [c] :: parts

def charKind (c : Char) : Nat :=
  if c == ' ' then 1 else if isTextBreak c then 2 else 0

/-- Write a text without quotes. -/
def putPlain (split : Bool) (indent : Nat) (cs : List Char) (out : Output) : Output :=
  let out := if out.spaced || cs.isEmpty then out else out.put [' ']
  let out := if cs.isEmpty then out else { out with spaced := false, fresh := false }
  (stretches charKind cs).foldl (fun out part =>
    if part == [' '] && split && Output.lineWidth < out.column then
      { out.indentTo indent with spaced := false, fresh := false }
    else out.put part) out

/-- Write line breaks in single quotes: one more than there are. -/
def putBreaks (indent : Nat) (part : List Char) (out : Output) : Output :=
  let out := if part.head? == some '\n' then out.newLine else out
  (part.foldl (fun out _ => out.newLine) out).indentTo indent

/-- Write stretches in single quotes; `first` tells that nothing was written
yet. -/
def putSingleParts (split : Bool) (indent : Nat) : Bool → List (List Char) → Output → Output
  | _, [], out => out
  | first, part :: rest, out =>
      let out :=
        if part.head?.any isTextBreak then putBreaks indent part out
        else if part == [' '] && split && !first && !rest.isEmpty &&
            Output.lineWidth < out.column then out.indentTo indent
        else out.put (part.flatMap fun c => if c == '\x27' then [c, c] else [c])
      putSingleParts split indent false rest out

def putSingle (split : Bool) (indent : Nat) (cs : List Char) (out : Output) : Output :=
  let out := out.mark "'" true false
  (putSingleParts split indent true (stretches charKind cs) out).mark "'" false false

/-- Characters with an escape of one letter. -/
def shortEscapes : List (Nat × Char) :=
  [(0, '0'), (7, 'a'), (8, 'b'), (9, 't'), (10, 'n'), (11, 'v'), (12, 'f'), (13, 'r'), (27, 'e'),
    (34, '\x22'), (92, '\\'), (0x85, 'N'), (0xa0, '_'), (0x2028, 'L'), (0x2029, 'P')]

def escapeText (c : Char) : List Char :=
  let code := c.toNat
  let digits := fun (width : Nat) => (Text.hexDigits width code).map Char.toUpper
  match shortEscapes.find? fun entry => entry.1 == code with
  | some (_, letter) => ['\\', letter]
  | none =>
      if code ≤ 0xff then '\\' :: 'x' :: digits 2
      else if code ≤ 0xffff then '\\' :: 'u' :: digits 4
      else '\\' :: 'U' :: digits 8

/-- Write the characters of a text in double quotes.  `held` are those not
written yet, last one first; `index` counts the characters of the text, which
are `size`. -/
def putDoubleFrom (split : Bool) (indent size : Nat) : Nat → List Char → List Char → Output → Output
  | _, held, [], out => out.put held.reverse
  | index, held, c :: cs, out =>
      let plain := ' ' ≤ c && c ≤ '~' && c != '\x22' && c != '\\'
      let inside := split && 0 < index && index + 1 < size
      let (held, out, left, folds) :=
        if plain then
          (held, out, [c], inside && (c == ' ' || held.isEmpty) &&
            Output.lineWidth < out.column + held.length)
        else
          let out := (out.put held.reverse).put (escapeText c)
          ([], out, [], inside && Output.lineWidth + 1 < out.column)
      if folds then
        let out := (out.put (held.reverse ++ ['\\'])).indentTo indent
        let out := if (left ++ cs).head? == some ' ' then out.put ['\\'] else out
        putDoubleFrom split indent size (index + 1) left cs
          { out with spaced := false, fresh := false }
      else putDoubleFrom split indent size (index + 1) (left ++ held) cs out

def putDouble (split : Bool) (indent : Nat) (cs : List Char) (out : Output) : Output :=
  let out := out.mark "\x22" true false
  (putDoubleFrom split indent cs.length 0 [] cs out).mark "\x22" false false

def putText (s : String) (isKey : Bool) (indent : Nat) (out : Output) : Output :=
  match styleOf s isKey with
  | .plain => putPlain (!isKey) indent s.toList out
  | .single => putSingle (!isKey) indent s.toList out
  | .double => putDouble (!isKey) indent s.toList out

/-! ## Writing values -/

/-- Real numbers: `.inf`, `-.inf` and `.nan` have words of their own, and there
is always a point. -/
def realLayout : Decimal.Layout :=
  { Decimal.Layout.record with
    scientificMark := ".0", infinity := ".inf", minusInfinity := "-.inf", notANumber := ".nan" }

def numberText : Number Float → String
  | .whole n => toString n
  | .real x => Decimal.shortestText realLayout x

/-- Is a text short enough, and on one line, to stand in front of a colon? -/
def isSimpleKey (s : String) : Bool :=
  !s.isEmpty && !s.toList.any isTextBreak && s.length + 5 < 128

/-- Write a scalar; what else there is has no text of its own. -/
def putScalar (value : Value) (isKey : Bool) (indent : Nat) (out : Output) : Output :=
  match value with
  | .text s => putText s isKey indent out
  | .number n => putPlain (!isKey) indent (numberText n).toList out
  | .null => putPlain (!isKey) indent "null".toList out
  | .bool b => putPlain (!isKey) indent (if b then "true" else "false").toList out
  | other => putText other.shown isKey indent out

mutual

/-- Write a value whose block has its entries in the column `indent`; a list
below a key stands in the column of the key. -/
def putValue (value : Value) (indent : Nat) (underKey : Bool) (out : Output) : Output :=
  match value with
  | .list [] => out.mark "[]" true false
  | .mapping [] => out.mark "\x7b\x7d" true false
  | .list items => putItems items (if underKey && 2 ≤ indent then indent - 2 else indent) out
  | .mapping entries => putEntries entries indent out
  | other => putScalar other false indent out

def putItems (items : List Value) (indent : Nat) (out : Output) : Output :=
  match items with
  | [] => out
  | item :: rest =>
      let out := (out.indentTo indent).mark "-" true true
      putItems rest indent (putValue item (indent + 2) false out)

def putEntries (entries : List (Value × Value)) (indent : Nat) (out : Output) : Output :=
  match entries with
  | [] => out
  | (key, value) :: rest =>
      let out := out.indentTo indent
      let out :=
        if isSimpleKey key.shown then (putScalar key true (indent + 2) out).mark ":" false false
        else
          let out := putScalar key false (indent + 2) (out.mark "?" true true)
          (out.indentTo indent).mark ":" true true
      putEntries rest indent (putValue value (indent + 2) true out)

end

/-- The text of a value. -/
def print (value : Value) : String :=
  let out := putValue value 0 false {}
  String.ofList (if out.column == 0 then out else out.newLine).chars.reverse

end CommitLens.Yaml
