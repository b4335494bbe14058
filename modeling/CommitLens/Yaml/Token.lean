import CommitLens.Text.Ranges

/-!
# YAML tokens

A YAML text becomes a list of tokens.  Indentation becomes tokens of its own:
blocks are opened by the first entry of a column and closed when a line starts
further left.  A key without `?` is only known by the colon behind it, so its
token is put in front of it later.
-/

namespace CommitLens.Yaml

/-- Why a text cannot be read: it is no YAML, or one of its scalars has no value
of its type.  The last fault is met later, when a value is to be written. -/
inductive Fault where
  | malformed
  /-- A number of a character that does not exist. -/
  | noCharacter (code : Nat)
  | emptyNumber
  | noInteger (base : Nat) (text : String)
  | tooManyDigits (count : Nat)
  | noDecimal (text : String)
  | noTruthValue (text : String)
  | noTimestamp
  | badDate (reason : String)
  /-- A whole number with more digits than are ever written. -/
  | tooLongToWrite
  deriving Repr, BEq, DecidableEq

inductive Token where
  | version (major : Nat)
  | handle (name meaning : String)
  | otherDirective
  | documentStart
  | documentEnd
  | streamEnd
  | blockSequenceStart
  | blockMappingStart
  | blockEnd
  | flowSequenceStart
  | flowSequenceEnd
  | flowMappingStart
  | flowMappingEnd
  | flowEntry
  | blockEntry
  | key
  | value
  | reference (name : String)
  | anchor (name : String)
  | tag (handle : Option String) (rest : String)
  | scalar (text : String) (plain : Bool)
  deriving Repr, BEq, DecidableEq

/-! ## Characters -/

def isBreak (c : Char) : Bool :=
  c == '\n' || c == '\r' || c.toNat == 0x85 || c.toNat == 0x2028 || c.toNat == 0x2029

/-- A line break, or the end of the text, which reads as the character zero. -/
def isBreakOrEnd (c : Char) : Bool :=
  c.toNat == 0 || isBreak c

def isSpaceOrEnd (c : Char) : Bool :=
  c == ' ' || isBreakOrEnd c

def isBlankOrEnd (c : Char) : Bool :=
  c == '\t' || isSpaceOrEnd c

/-- A space or a tabulator. -/
def isBlank (c : Char) : Bool :=
  c == ' ' || c == '\t'

def isWordChar (c : Char) : Bool :=
  c.isAlphanum || c == '-' || c == '_'

/-- Characters of tags. -/
def isTagChar (c : Char) : Bool :=
  c.isAlphanum || "-;/?:@&=+$,_.!~*'()[]%".toList.contains c

/-- Characters that a YAML text may have. -/
def isPermitted (c : Char) : Bool :=
  let code := c.toNat
  code == 9 || code == 10 || code == 13 || (0x20 ≤ code && code ≤ 0x7e) || code == 0x85 ||
    (0xa0 ≤ code && code ≤ 0xfffd) || 0x10000 ≤ code

/-! ## Places in a text -/

structure Cursor where
  rest : List Char
  index : Nat := 0
  line : Nat := 0
  column : Nat := 0

namespace Cursor

/-- The character `offset` places ahead. -/
def peek (cursor : Cursor) (offset : Nat := 0) : Char :=
  cursor.rest.getD offset '\x00'

def step (cursor : Cursor) : Cursor :=
  match cursor.rest with
  | [] => cursor
  | c :: rest =>
      if isBreak c && !(c == '\r' && rest.head? == some '\n') then
        ⟨rest, cursor.index + 1, cursor.line + 1, 0⟩
      else
        ⟨rest, cursor.index + 1, cursor.line,
          if c.toNat == 0xfeff then cursor.column else cursor.column + 1⟩

def advance (cursor : Cursor) (count : Nat) : Cursor :=
  count.repeat step cursor

/-- Take characters as long as they fit. -/
def takeWhile (cursor : Cursor) (fits : Char → Bool) : List Char × Cursor :=
  let taken := cursor.rest.takeWhile fits
  (taken, cursor.advance taken.length)

def skipWhile (cursor : Cursor) (fits : Char → Bool) : Cursor :=
  (cursor.takeWhile fits).2

/-- Take one line break, if there is one. -/
def takeBreak (cursor : Cursor) : List Char × Cursor :=
  let c := cursor.peek
  if c.toNat == 0x2028 || c.toNat == 0x2029 then ([c], cursor.step)
  else if isBreak c then
    (['\n'], cursor.advance (if c == '\r' && cursor.peek 1 == '\n' then 2 else 1))
  else ([], cursor)

/-- Skip a comment. -/
def skipComment (cursor : Cursor) : Cursor :=
  if cursor.peek == '#' then cursor.skipWhile fun c => !isBreak c else cursor

/-- Does a line that separates documents start here? -/
def atSeparator (cursor : Cursor) : Bool :=
  ("---".toList.isPrefixOf cursor.rest || "...".toList.isPrefixOf cursor.rest) &&
    isBlankOrEnd (cursor.peek 3)

end Cursor

/-! ## Scanning -/

/-- A token that turns out to be a key if a colon follows on its line. -/
structure KeyCandidate where
  flow : Nat
  position : Nat
  required : Bool
  index : Nat
  line : Nat
  column : Nat

structure Scanner where
  cursor : Cursor
  tokens : Array Token := #[]
  /-- How many flow collections are open. -/
  flow : Nat := 0
  indent : Int := -1
  outer : List Int := []
  keyAllowed : Bool := true
  candidates : List KeyCandidate := []

abbrev Scan (α : Type) := StateT Scanner (Except Fault) α

namespace Scan

def fail {α : Type} : Scan α :=
  throw .malformed

def cursor : Scan Cursor :=
  return (← get).cursor

def moveTo (cursor : Cursor) : Scan Unit :=
  modify fun s => { s with cursor }

def peek (offset : Nat := 0) : Scan Char :=
  return (← cursor).peek offset

def advance (count : Nat) : Scan Unit := do
  moveTo ((← cursor).advance count)

def takeWhile (fits : Char → Bool) : Scan (List Char) := do
  let (taken, next) := (← cursor).takeWhile fits
  moveTo next
  return taken

def skipSpaces : Scan Unit := do
  let _ ← takeWhile (· == ' ')

def takeBreak : Scan (List Char) := do
  let (taken, next) := (← cursor).takeBreak
  moveTo next
  return taken

def emit (token : Token) : Scan Unit :=
  modify fun s => { s with tokens := s.tokens.push token }

def allowKey (allowed : Bool) : Scan Unit :=
  modify fun s => { s with keyAllowed := allowed }

/-- Go on only if the next character fits. -/
def require (fits : Char → Bool) : Scan Unit := do
  if fits (← peek) then return else fail

/-! ### Indentation and keys -/

/-- Close the blocks that are further right than a column. -/
def unwindFrom : Nat → Int → Scan Unit
  | 0, _ => return
  | fuel + 1, column => do
      let s ← get
      if s.flow == 0 && column < s.indent then
        set { s with
          indent := s.outer.headD (-1)
          outer := s.outer.drop 1
          tokens := s.tokens.push .blockEnd }
        unwindFrom fuel column

def unwind (column : Int) : Scan Unit := do
  unwindFrom ((← get).outer.length + 1) column

/-- Open a block in a column unless one is open there. -/
def openBlock (column : Nat) : Scan Bool := do
  let s ← get
  if s.indent < column then
    set { s with outer := s.indent :: s.outer, indent := column }
    return true
  else return false

/-- Forget the candidate of the open flow level. -/
def dropCandidate : Scan Unit := do
  let s ← get
  if s.candidates.any fun key => key.flow == s.flow && key.required then fail
  else set { s with candidates := s.candidates.filter fun key => key.flow != s.flow }

/-- Forget candidates of other lines and those too far away. -/
def dropStale : Scan Unit := do
  let s ← get
  let stale := fun (key : KeyCandidate) =>
    key.line != s.cursor.line || key.index + 1024 < s.cursor.index
  if s.candidates.any fun key => stale key && key.required then fail
  else set { s with candidates := s.candidates.filter fun key => !stale key }

/-- The next token may be a key. -/
def saveCandidate : Scan Unit := do
  let s ← get
  if s.keyAllowed then
    dropCandidate
    let c := s.cursor
    let key : KeyCandidate :=
      { flow := s.flow, position := s.tokens.size
        required := s.flow == 0 && s.indent == (c.column : Int)
        index := c.index, line := c.line, column := c.column }
    modify fun s => { s with candidates := key :: s.candidates }

/-- Skip spaces, comments and line breaks. -/
def skipToToken : Nat → Scan Unit
  | 0 => return
  | fuel + 1 => do
      skipSpaces
      moveTo (← cursor).skipComment
      let taken ← takeBreak
      if !taken.isEmpty then
        if (← get).flow == 0 then allowKey true
        skipToToken fuel

/-! ### Directives, anchors and tags -/

/-- The rest of a line may only have a comment. -/
def endLine : Scan Unit := do
  skipSpaces
  moveTo (← cursor).skipComment
  require isBreakOrEnd
  let _ ← takeBreak

def number : Scan Nat := do
  let digits ← takeWhile Char.isDigit
  if digits.isEmpty then fail
  return digits.foldl (fun n c => 10 * n + (c.toNat - 48)) 0

/-- A handle of tags: `!`, `!!` or `!name!`. -/
def tagHandle : Scan String := do
  require (· == '!')
  advance 1
  if (← peek) == ' ' then return "!"
  let name ← takeWhile isWordChar
  if (← peek) == '!' then
    advance 1
    return String.ofList ('!' :: name ++ ['!'])
  else fail

/-- The bytes of escapes `%xx`. -/
def escapedBytes : Nat → Scan (List UInt8)
  | 0 => return []
  | fuel + 1 => do
      if (← peek) != '%' then return []
      match Text.hexDigit? (← peek 1), Text.hexDigit? (← peek 2) with
      | some high, some low =>
          advance 3
          return UInt8.ofNat (16 * high + low) :: (← escapedBytes fuel)
      | _, _ => fail

/-- The text of a tag, escapes resolved. -/
def tagText : Nat → Scan (List Char)
  | 0 => return []
  | fuel + 1 => do
      let plain ← takeWhile fun c => isTagChar c && c != '%'
      if (← peek) != '%' then return plain
      let bytes ← escapedBytes (fuel + 1)
      match String.fromUTF8? ⟨bytes.toArray⟩ with
      | some text => return plain ++ text.toList ++ (← tagText fuel)
      | none => fail

def tagUri : Scan String := do
  let text ← tagText ((← cursor).rest.length + 1)
  if text.isEmpty then fail
  return String.ofList text

def directive : Scan Token := do
  advance 1
  let name ← takeWhile isWordChar
  if name.isEmpty then fail
  require isSpaceOrEnd
  let token ←
    if name == "YAML".toList then do
      skipSpaces
      let major ← number
      require (· == '.')
      advance 1
      let _ ← number
      require isSpaceOrEnd
      pure (Token.version major)
    else if name == "TAG".toList then do
      skipSpaces
      let handle ← tagHandle
      require (· == ' ')
      skipSpaces
      let meaning ← tagUri
      require isSpaceOrEnd
      pure (Token.handle handle meaning)
    else do
      let _ ← takeWhile fun c => !isBreak c
      pure Token.otherDirective
  endLine
  return token

/-- The name of an anchor or an alias. -/
def anchorName : Scan String := do
  advance 1
  let name ← takeWhile isWordChar
  if name.isEmpty then fail
  require fun c => isBlankOrEnd c || "?:,]\x7d%@\x60".toList.contains c
  return String.ofList name

def tag : Scan Token := do
  let next ← peek 1
  let token ←
    if next == '<' then do
      advance 2
      let uri ← tagUri
      require (· == '>')
      advance 1
      pure (Token.tag none uri)
    else if isBlankOrEnd next then do
      advance 1
      pure (Token.tag none "!")
    else do
      let word := ((← cursor).rest.drop 1).takeWhile fun c => !isSpaceOrEnd c
      let handle ← if word.contains '!' then tagHandle else do
        advance 1
        pure "!"
      let rest ← tagUri
      pure (Token.tag (some handle) rest)
  require isSpaceOrEnd
  return token

/-! ### Block scalars -/

/-- What happens to the line breaks at the end of a block scalar. -/
inductive Chomping where
  | clip
  | strip
  | keep
  deriving BEq

def chomping? : Scan (Option Chomping) := do
  match ← peek with
  | '+' => advance 1; return some .keep
  | '-' => advance 1; return some .strip
  | _ => return none

/-- The digit that gives the indentation of a block scalar. -/
def increment? : Scan (Option Nat) := do
  let c ← peek
  if c.isDigit then
    if c == '0' then fail
    advance 1
    return some (c.toNat - 48)
  else return none

/-- The two marks behind the opening of a block scalar, in either order. -/
def blockHeader : Scan (Chomping × Option Nat) := do
  match ← chomping? with
  | some chomping => do
      let increment ← increment?
      require isSpaceOrEnd
      return (chomping, increment)
  | none => do
      match ← increment? with
      | some increment => do
          let chomping ← chomping?
          require isSpaceOrEnd
          return (chomping.getD .clip, some increment)
      | none => do
          require isSpaceOrEnd
          return (.clip, none)

/-- Skip blank lines at the start; the greatest column of their spaces gives the
indentation. -/
def leadingBreaks : Nat → List Char → Nat → Scan (List Char × Nat)
  | 0, breaks, column => return (breaks, column)
  | fuel + 1, breaks, column => do
      let c ← peek
      if c == ' ' then
        advance 1
        leadingBreaks fuel breaks (max column (← cursor).column)
      else if isBreak c then
        leadingBreaks fuel (breaks ++ (← takeBreak)) column
      else return (breaks, column)

def skipIndent : Nat → Nat → Scan Unit
  | 0, _ => return
  | fuel + 1, indent => do
      if (← cursor).column < indent && (← peek) == ' ' then
        advance 1
        skipIndent fuel indent

/-- The line breaks up to the next line with text. -/
def blockBreaks : Nat → Nat → Scan (List Char)
  | 0, _ => return []
  | fuel + 1, indent => do
      skipIndent indent indent
      let taken ← takeBreak
      if taken.isEmpty then return []
      return taken ++ (← blockBreaks fuel indent)

/-- Is there another line of the block scalar? -/
def inBlock (indent : Nat) : Scan Bool := do
  return (← cursor).column == indent && (← peek).toNat != 0

/-- The lines of a block scalar: the text, its last line break, and the breaks
behind that. -/
def blockLines (folded : Bool) (indent : Nat) : Nat → List Char → List Char →
    Scan (List Char × List Char × List Char)
  | 0, text, breaks => return (text, [], breaks)
  | fuel + 1, text, breaks => do
      let first ← peek
      let line ← takeWhile fun c => !isBreak c
      let ending ← takeBreak
      let text := text ++ breaks ++ line
      let breaks ← blockBreaks fuel indent
      if ← inBlock indent then
        let next ← peek
        let joined :=
          if folded && ending == ['\n'] && !isBlank first && !isBlank next then
            if breaks.isEmpty then [' '] else []
          else ending
        blockLines folded indent fuel (text ++ joined) breaks
      else return (text, ending, breaks)

def blockScalar (folded : Bool) : Scan Token := do
  advance 1
  let (chomping, increment) ← blockHeader
  endLine
  let fuel := (← cursor).rest.length + 1
  let least := (max ((← get).indent + 1) 1).toNat
  let (breaks, indent) ← match increment with
    | none => do
        let (breaks, column) ← leadingBreaks fuel [] 0
        pure (breaks, max least column)
    | some increment => do
        let indent := least + increment - 1
        pure (← blockBreaks fuel indent, indent)
  let (text, ending, breaks) ←
    if ← inBlock indent then blockLines folded indent fuel [] breaks
    else pure ([], [], breaks)
  let tail := match chomping with
    | .clip => ending
    | .strip => []
    | .keep => ending ++ breaks
  return .scalar (String.ofList (text ++ tail)) false

/-! ### Quoted and plain scalars -/

/-- The characters that stand behind a backslash, with their meanings. -/
def escapes : List (Char × Nat) :=
  [('0', 0), ('a', 7), ('b', 8), ('t', 9), ('\t', 9), ('n', 10), ('v', 11), ('f', 12), ('r', 13),
    ('e', 27), (' ', 32), ('\x22', 34), ('\\', 92), ('/', 47), ('N', 0x85), ('_', 0xa0),
    ('L', 0x2028), ('P', 0x2029)]

/-- How many hexadecimal digits follow an escape. -/
def escapeWidth? (c : Char) : Option Nat :=
  if c == 'x' then some 2 else if c == 'u' then some 4 else if c == 'U' then some 8 else none

/-- Line breaks inside quotes. -/
def quotedBreaks : Nat → Scan (List Char)
  | 0 => return []
  | fuel + 1 => do
      if (← cursor).atSeparator then fail
      let _ ← takeWhile isBlank
      let taken ← takeBreak
      if taken.isEmpty then return []
      return taken ++ (← quotedBreaks fuel)

/-- Blanks inside quotes; a single line break becomes a space. -/
def quotedSpaces : Scan (List Char) := do
  let blanks ← takeWhile isBlank
  if (← peek).toNat == 0 then fail
  let ending ← takeBreak
  if ending.isEmpty then return blanks
  let breaks ← quotedBreaks ((← cursor).rest.length + 1)
  if ending != ['\n'] then return ending ++ breaks
  else if breaks.isEmpty then return [' ']
  else return breaks

/-- What a backslash in double quotes stands for. -/
def escape : Scan (List Char) := do
  advance 1
  let c ← peek
  match escapes.find? fun entry => entry.1 == c with
  | some (_, code) => advance 1; return [Char.ofNat code]
  | none =>
      match escapeWidth? c with
      | some width => do
          advance 1
          let digits := (← cursor).rest.take width
          if digits.length != width || digits.any fun c => (Text.hexDigit? c).isNone then fail
          let code := Text.hexValue digits
          if 0x10ffff < code then throw (.noCharacter code)
          advance width
          return [Char.ofNat code]
      | none =>
          if isBreak c then do
            let _ ← takeBreak
            quotedBreaks ((← cursor).rest.length + 1)
          else fail

/-- The text of a quoted scalar up to the closing quote. -/
def quotedText (double : Bool) : Nat → Scan (List Char)
  | 0 => fail
  | fuel + 1 => do
      let quote := if double then '\x22' else '\x27'
      let c ← peek
      if c == quote then
        advance 1
        if !double && (← peek) == quote then
          advance 1
          return quote :: (← quotedText double fuel)
        else return []
      else if isBlankOrEnd c then
        let spaces ← quotedSpaces
        return spaces ++ (← quotedText double fuel)
      else if double && c == '\\' then
        let chars ← escape
        return chars ++ (← quotedText double fuel)
      else
        advance 1
        return c :: (← quotedText double fuel)

def quotedScalar (double : Bool) : Scan Token := do
  advance 1
  let text ← quotedText double ((← cursor).rest.length + 1)
  return .scalar (String.ofList text) false

/-- Characters that end a plain scalar inside of brackets. -/
def isFlowMark (c : Char) : Bool :=
  c == ',' || c == '[' || c == ']' || c == '\x7b' || c == '\x7d'

/-- The characters of a plain scalar up to a blank. -/
def plainWord (inFlow : Bool) : List Char → List Char
  | [] => []
  | c :: rest =>
      let next := rest.headD '\x00'
      if isBlankOrEnd c || (c == ':' && (isBlankOrEnd next || (inFlow && isFlowMark next))) ||
          (inFlow && (c == '?' || isFlowMark c)) then []
      else c :: plainWord inFlow rest

/-- Spaces and line breaks behind a line of a plain scalar; none if a document
ends there. -/
def plainBreaks : Nat → List Char → Scan (Option (List Char))
  | 0, breaks => return some breaks
  | fuel + 1, breaks => do
      if (← peek) == ' ' then
        advance 1
        plainBreaks fuel breaks
      else
        let taken ← takeBreak
        if taken.isEmpty then return some breaks
        if (← cursor).atSeparator then return none
        plainBreaks fuel (breaks ++ taken)

/-- What stands between two words of a plain scalar. -/
def plainSpaces : Scan (List Char) := do
  let spaces ← takeWhile (· == ' ')
  let ending ← takeBreak
  if ending.isEmpty then return spaces
  allowKey true
  if (← cursor).atSeparator then return []
  match ← plainBreaks ((← cursor).rest.length + 1) [] with
  | none => return []
  | some breaks =>
      if ending != ['\n'] then return ending ++ breaks
      else if breaks.isEmpty then return [' ']
      else return breaks

def plainText (indent : Int) : Nat → List Char → Scan (List Char)
  | 0, _ => return []
  | fuel + 1, spaces => do
      if (← peek) == '#' then return []
      let inFlow := (← get).flow != 0
      let word := plainWord inFlow (← cursor).rest
      if word.isEmpty then return []
      allowKey false
      advance word.length
      let text := spaces ++ word
      let spaces ← plainSpaces
      if spaces.isEmpty || (← peek) == '#' || (!inFlow && (← cursor).column < indent) then
        return text
      return text ++ (← plainText indent fuel spaces)

def plainScalar : Scan Token := do
  let text ← plainText ((← get).indent + 1) ((← cursor).rest.length + 1) []
  return .scalar (String.ofList text) true

/-- Can a plain scalar start here? -/
def startsPlain : Scan Bool := do
  let c ← peek
  let inFlow := (← get).flow != 0
  return !(isBlankOrEnd c || "-?:,[]\x7b\x7d#&*!|>'\x22%@\x60".toList.contains c) ||
    (!isBlankOrEnd (← peek 1) && (c == '-' || (!inFlow && (c == '?' || c == ':'))))

/-! ### Tokens -/

/-- A token that may be a key, and behind which no key can start. -/
def content (read : Scan Token) : Scan Unit := do
  saveCandidate
  allowKey false
  emit (← read)

def documentMark (token : Token) : Scan Unit := do
  unwind (-1)
  dropCandidate
  allowKey false
  advance 3
  emit token

def openFlow (token : Token) : Scan Unit := do
  saveCandidate
  modify fun s => { s with flow := s.flow + 1 }
  allowKey true
  advance 1
  emit token

def closeFlow (token : Token) : Scan Unit := do
  dropCandidate
  if (← get).flow == 0 then fail
  modify fun s => { s with flow := s.flow - 1 }
  allowKey false
  advance 1
  emit token

def flowEntry : Scan Unit := do
  allowKey true
  dropCandidate
  advance 1
  emit .flowEntry

/-- A mark that is an entry or a key of its own; in a block it may open one. -/
def blockMark (token opening : Token) (keyAfter : Bool) : Scan Unit := do
  let s ← get
  if s.flow == 0 then
    if !s.keyAllowed then fail
    if ← openBlock s.cursor.column then emit opening
  allowKey keyAfter
  dropCandidate
  advance 1
  emit token

/-- Put tokens in front of a key. -/
def insertAt (position : Nat) (token : Token) : Scan Unit :=
  modify fun s => { s with tokens := s.tokens.insertIdxIfInBounds position token }

/-- The colon behind a key. -/
def valueMark : Scan Unit := do
  let s ← get
  match s.candidates.find? fun key => key.flow == s.flow with
  | some key => do
      set { s with candidates := s.candidates.filter fun key => key.flow != s.flow }
      insertAt key.position .key
      if s.flow == 0 then
        if ← openBlock key.column then insertAt key.position .blockMappingStart
      allowKey false
      advance 1
      emit .value
  | none => blockMark .value .blockMappingStart (s.flow == 0)

def streamEnd : Scan Unit := do
  unwind (-1)
  dropCandidate
  emit .streamEnd

/-- Read one token, with those that indentation makes.  False at the end. -/
def token : Scan Bool := do
  skipToToken ((← cursor).rest.length + 1)
  dropStale
  let s ← get
  let inFlow := s.flow != 0
  unwind s.cursor.column
  let c ← peek
  let blankNext := isBlankOrEnd (← peek 1)
  let atStart := s.cursor.column == 0
  if c.toNat == 0 then streamEnd; return false
  else if c == '%' && atStart then
    unwind (-1)
    dropCandidate
    allowKey false
    emit (← directive)
  else if atStart && s.cursor.atSeparator then
    documentMark (if c == '-' then .documentStart else .documentEnd)
  else if c == '[' then openFlow .flowSequenceStart
  else if c == '\x7b' then openFlow .flowMappingStart
  else if c == ']' then closeFlow .flowSequenceEnd
  else if c == '\x7d' then closeFlow .flowMappingEnd
  else if c == ',' then flowEntry
  else if c == '-' && blankNext then blockMark .blockEntry .blockSequenceStart true
  else if c == '?' && (inFlow || blankNext) then blockMark .key .blockMappingStart (!inFlow)
  else if c == ':' && (inFlow || blankNext) then valueMark
  else if c == '*' then content (return .reference (← anchorName))
  else if c == '&' then content (return .anchor (← anchorName))
  else if c == '!' then content tag
  else if (c == '|' || c == '>') && !inFlow then
    allowKey true
    dropCandidate
    emit (← blockScalar (c == '>'))
  else if c == '\x27' then content (quotedScalar false)
  else if c == '\x22' then content (quotedScalar true)
  else if ← startsPlain then content plainScalar
  else fail
  return true

def all : Nat → Scan Unit
  | 0 => fail
  | fuel + 1 => do
      if ← token then all fuel

end Scan

/-- The tokens of a text.  A mark in front of it that tells its encoding is
skipped. -/
def tokens (text : String) : Except Fault (List Token) := do
  if !text.toList.all isPermitted then throw .malformed
  let start : Cursor := ⟨text.toList, 0, 0, 0⟩
  let start := if start.peek.toNat == 0xfeff then start.step else start
  let ((), final) ← (Scan.all (text.length + 2)).run ⟨start, #[], 0, -1, [], true, []⟩
  return final.tokens.toList

end CommitLens.Yaml
