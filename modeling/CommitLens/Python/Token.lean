import CommitLens.Text.Identifier
import CommitLens.Text.Printable
import CommitLens.Text.Ranges

/-!
# Tokens of Python modules

A text is cut into tokens in one pass, whatever its syntax: names, numbers,
strings, marks, the ends of logical lines, and marks for where indentation
grows and shrinks.  Where this cannot go on there is a fault, and the tokens
before it remain.
-/

namespace CommitLens.Python

inductive TokenKind where
  | name
  | number
  | string
  | mark
  | newline
  | indent
  | dedent
  | finish
  deriving Repr, BEq, DecidableEq, Inhabited

structure Token where
  kind : TokenKind
  text : String
  /-- The line on which the token starts. -/
  line : Nat
  /-- How many brackets are open after the token. -/
  depth : Nat
  deriving Repr, Inhabited

/-- Why a text cannot be cut into tokens any further. -/
structure Fault where
  line : Nat
  /-- A misspelled token is reported even if the syntax goes wrong before it. -/
  misspelled : Bool
  /-- The line of the innermost open bracket. -/
  openLine : Option Nat
  deriving Repr, Inhabited

structure Lexed where
  tokens : Array Token
  fault : Option Fault
  deriving Inhabited

/-! ## Parts of tokens -/

def isWordChar (c : Char) : Bool :=
  c.isAlphanum || c == '_' || 128 ≤ c.toNat

/-- Is a word made of the characters that names may have? -/
def isName (word : List Char) : Bool :=
  match word with
  | [] => false
  | c :: rest =>
      (c == '_' || Text.isIdentifierStart c) && rest.all Text.isIdentifierContinue

/-- What follows digits, after the first of them; `none` for an underscore
without a digit after it. -/
def digitsEnd (isDigit : Char → Bool) : List Char → Option (List Char)
  | [] => some []
  | '_' :: [] => none
  | '_' :: c :: rest => if isDigit c then digitsEnd isDigit rest else none
  | c :: rest => if isDigit c then digitsEnd isDigit rest else some (c :: rest)

/-- A number may be followed at once by a keyword, not by any other word. -/
def endsNumber (rest : List Char) : Bool :=
  match rest with
  | [] => true
  | c :: _ =>
      ["and", "else", "for", "if", "in", "is", "or", "not"].any
        (fun word => word.toList.isPrefixOf rest) || !isWordChar c

def checkedEnd (rest : List Char) : Option (List Char) :=
  if endsNumber rest then some rest else none

def imaginaryEnd (rest : List Char) : Option (List Char) :=
  match rest with
  | 'j' :: more | 'J' :: more => checkedEnd more
  | _ => checkedEnd rest

def exponentEnd (rest : List Char) : Option (List Char) :=
  match rest with
  | e :: sign :: more =>
      if e != 'e' && e != 'E' then imaginaryEnd rest
      else if sign == '+' || sign == '-' then
        match more with
        | c :: more => if c.isDigit then (digitsEnd Char.isDigit more).bind imaginaryEnd else none
        | [] => none
      else if sign.isDigit then (digitsEnd Char.isDigit more).bind imaginaryEnd
      else checkedEnd rest
  | _ => imaginaryEnd rest

def fractionEnd (rest : List Char) : Option (List Char) :=
  match rest with
  | c :: more =>
      if c.isDigit then (digitsEnd Char.isDigit more).bind exponentEnd else exponentEnd rest
  | [] => some []

/-- The end of a number with a letter for its base. -/
def basedEnd (isDigit : Char → Bool) : List Char → Option (List Char)
  | '_' :: c :: rest | c :: rest =>
      if isDigit c then
        (digitsEnd isDigit rest).bind fun rest =>
          if (rest.head?.map Char.isDigit).getD false then none else checkedEnd rest
      else none
  | [] => none

/-- What follows the number at the front of a text that starts with a digit;
`none` if it is no number. -/
def numberEnd (cs : List Char) : Option (List Char) :=
  match cs with
  | '0' :: c :: rest =>
      match c.toLower with
      | 'x' => basedEnd (fun c => (Text.hexDigit? c).isSome) rest
      | 'o' => basedEnd (fun c => '0' ≤ c && c ≤ '7') rest
      | 'b' => basedEnd (fun c => c == '0' || c == '1') rest
      | _ =>
          (digitsEnd Char.isDigit (c :: rest)).bind fun more =>
            let digits := cs.take (cs.length - more.length)
            match more with
            | '.' :: after => fractionEnd after
            | e :: _ =>
                if "eEjJ".toList.contains e then exponentEnd more
                else if digits.all fun c => c == '0' || c == '_' then checkedEnd more
                else none
            | [] => if digits.all fun c => c == '0' || c == '_' then some [] else none
  | _ :: rest =>
      (digitsEnd Char.isDigit rest).bind fun more =>
        match more with
        | '.' :: after => fractionEnd after
        | _ => exponentEnd more
  | [] => none

/-- The body of a string and what follows it; `none` if the string has no end.
The count is that of the closing quotes so far. -/
def stringEnd (quote : Char) (size : Nat) : Nat → List Char → Option (List Char)
  | closed, cs =>
      if closed == size then some cs
      else match cs with
        | [] => none
        | '\\' :: _ :: rest => stringEnd quote size 0 rest
        | c :: rest =>
            if c == '\n' && size == 1 then none
            else if c == quote then stringEnd quote size (closed + 1) rest
            else stringEnd quote size 0 rest
termination_by _ cs => cs.length

/-- What follows the string whose opening quote is at the front. -/
def quotedEnd (cs : List Char) : Option (List Char) :=
  match cs with
  | a :: b :: c :: rest =>
      if a == b && b == c then stringEnd a 3 0 rest
      else if a == b then some (c :: rest)
      else stringEnd a 1 0 (b :: c :: rest)
  | [a, b] => if a == b then some [] else stringEnd a 1 0 [b]
  | _ => none

def stringMarks : List String :=
  ["b", "u", "r", "f", "br", "rb", "fr", "rf"]

def marks : List String :=
  ["**=", "//=", ">>=", "<<=", "...", "!=", "->", ":=", "<>", "==", "<=", ">=", "**", "//", ">>",
    "<<", "+=", "-=", "*=", "/=", "%=", "&=", "|=", "^=", "@="]

/-- The mark at the front of a text, one character long unless it is listed. -/
def markLength (cs : List Char) : Nat :=
  ((marks.find? fun mark => mark.toList.isPrefixOf cs).map String.length).getD 1

def closingFor (c : Char) : Option Char :=
  match c with
  | '(' => some ')'
  | '[' => some ']'
  | '\x7b' => some '\x7d'
  | _ => none

/-! ## The pass over a text -/

/-- Nesting of brackets and of indentation has limits. -/
def bracketLimit : Nat := 200

def indentLimit : Nat := 100

structure Lexer where
  line : Nat := 1
  /-- Widths of indentation, innermost first, with tabs as steps of eight and
  with tabs as single characters. -/
  indents : List (Nat × Nat) := []
  /-- Closing brackets that are awaited, innermost first, with the lines of
  their opening ones. -/
  brackets : List (Char × Nat) := []
  /-- The tokens so far, the last one first. -/
  done : List Token := []

namespace Lexer

def push (lx : Lexer) (kind : TokenKind) (text : String) : Lexer :=
  { lx with done := ⟨kind, text, lx.line, lx.brackets.length⟩ :: lx.done }

def stop (lx : Lexer) (fault : Option Fault) : Lexed :=
  ⟨lx.done.reverse.toArray, fault⟩

def misspelled (lx : Lexer) : Lexed :=
  lx.stop (some ⟨lx.line, true, none⟩)

/-- A fault of layout, which counts only where it is met. -/
def misplaced (lx : Lexer) : Lexed :=
  lx.stop (some ⟨lx.line, false, (lx.brackets.head?.map (·.2))⟩)

/-- The text ends too early. -/
def unfinished (lx : Lexer) : Lexed :=
  let openLine := lx.brackets.head?.map (·.2)
  lx.stop (some ⟨openLine.getD lx.line, false, openLine⟩)

end Lexer

/-- The width of the blanks at the start of a line. -/
structure Margin where
  width : Nat := 0
  tabs : Nat := 0
  /-- The width before the first backslash that continues the line. -/
  fixed : Nat := 0
  /-- Lines that were continued. -/
  lines : Nat := 0

/-- Measure the blanks at the start of a line; `none` is a backslash that
continues nothing. -/
def measure (margin : Margin) : List Char → Option Margin × List Char
  | ' ' :: rest => measure { margin with width := margin.width + 1, tabs := margin.tabs + 1 } rest
  | '\t' :: rest =>
      measure { margin with width := (margin.width / 8 + 1) * 8, tabs := margin.tabs + 1 } rest
  | '\x0c' :: rest => measure { margin with width := 0, tabs := 0 } rest
  | '\\' :: '\n' :: rest =>
      let fixed := if margin.fixed == 0 then margin.width else margin.fixed
      measure { margin with fixed := fixed, lines := margin.lines + 1 } rest
  | '\\' :: rest => (none, '\\' :: rest)
  | rest => (some margin, rest)

/-- Tokens for the indentation of a line, or a fault. -/
def indentTo (lx : Lexer) (width tabs : Nat) : Except Lexed Lexer :=
  let (top, topTabs) := lx.indents.headD (0, 0)
  if width == top then
    if tabs == topTabs then .ok lx else .error lx.misplaced
  else if top < width then
    if indentLimit ≤ lx.indents.length + 1 || tabs ≤ topTabs then .error lx.misplaced
    else .ok { lx.push .indent "" with indents := (width, tabs) :: lx.indents }
  else
    let kept := lx.indents.dropWhile fun entry => width < entry.1
    let (level, levelTabs) := kept.headD (0, 0)
    if level != width || levelTabs != tabs then .error lx.misplaced
    else
      let closed := lx.indents.length - kept.length
      .ok ((List.range closed).foldl (fun lx _ => lx.push .dedent "") { lx with indents := kept })

/-- The tokens at the end of a text. -/
def finished (lx : Lexer) : Lexed :=
  if !lx.brackets.isEmpty then lx.unfinished
  else
    -- the last line end opens no line of its own
    let lx := { lx with line := max 1 (lx.line - 1) }
    let closed := lx.indents.foldl (fun lx _ => lx.push .dedent "") { lx with indents := [] }
    (closed.push .finish "").stop none

/-- Read a string whose quote comes after `mark`. -/
def readString (lx : Lexer) (mark quoted : List Char) : Except Lexed (Lexer × List Char) :=
  match quotedEnd quoted with
  | none => .error lx.misspelled
  | some rest =>
      let body := quoted.take (quoted.length - rest.length)
      let lx := lx.push .string (String.ofList (mark ++ body))
      .ok ({ lx with line := lx.line + body.count '\n' }, rest)

def readBracket (lx : Lexer) (c : Char) : Except Lexed Lexer :=
  match closingFor c with
  | some closing =>
      if bracketLimit ≤ lx.brackets.length then .error lx.misspelled
      else .ok ({ lx with brackets := (closing, lx.line) :: lx.brackets }.push .mark (String.ofList [c]))
  | none =>
      match lx.brackets with
      | (closing, _) :: rest =>
          if closing == c then .ok ({ lx with brackets := rest }.push .mark (String.ofList [c]))
          else .error lx.misspelled
      | [] => .error lx.misspelled

/-- Read one token that does not start a line. -/
def readToken (lx : Lexer) (cs : List Char) : Except Lexed (Lexer × List Char) :=
  match cs with
  | [] => .ok (lx, [])
  | c :: rest =>
      if c.isDigit || (c == '.' && (rest.head?.map Char.isDigit).getD false) then
        match if c == '.' then fractionEnd rest else numberEnd cs with
        | none => .error lx.misspelled
        | some more =>
            .ok (lx.push .number (String.ofList (cs.take (cs.length - more.length))), more)
      else if c == '\x22' || c == '\x27' then readString lx [] cs
      else if isWordChar c then
        let word := cs.takeWhile isWordChar
        let more := cs.dropWhile isWordChar
        let quote := more.head?.getD ' '
        if (quote == '\x22' || quote == '\x27') &&
            stringMarks.contains (String.ofList (word.map Char.toLower)) then
          readString lx word more
        else if isName word then .ok (lx.push .name (String.ofList word), more)
        else .error lx.misspelled
      else if "([\x7b\x7d])".toList.contains c then (readBracket lx c).map fun lx => (lx, rest)
      else if !Text.isPrintable c then .error lx.misspelled
      else
        let length := markLength cs
        .ok (lx.push .mark (String.ofList (cs.take length)), cs.drop length)

/-- The pass itself: at the start of a line, or within one. -/
def scan : Nat → Bool → Lexer → List Char → Lexed
  | 0, _, lx, _ => lx.misplaced
  | fuel + 1, true, lx, cs =>
      match measure {} cs with
      | (none, _) => lx.misplaced
      | (some margin, rest) =>
          let lx := { lx with line := lx.line + margin.lines }
          match rest with
          | [] => if margin.lines == 0 then finished lx else ({ lx with line := lx.line - 1 }).unfinished
          | '\n' :: rest => scan fuel true { lx with line := lx.line + 1 } rest
          | '#' :: rest => scan fuel true lx (rest.dropWhile (· != '\n'))
          | _ =>
              let fixed := margin.fixed != 0
              let width := if fixed then margin.fixed else margin.width
              let tabs := if fixed then margin.fixed else margin.tabs
              match indentTo lx width tabs with
              | .error lexed => lexed
              | .ok lx => scan fuel false lx rest
  | fuel + 1, false, lx, cs =>
      match cs with
      | [] => finished lx
      | ' ' :: rest | '\t' :: rest | '\x0c' :: rest => scan fuel false lx rest
      | '#' :: rest => scan fuel false lx (rest.dropWhile (· != '\n'))
      | '\n' :: rest =>
          if lx.brackets.isEmpty then
            let lx := lx.push .newline ""
            scan fuel true { lx with line := lx.line + 1 } rest
          else scan fuel false { lx with line := lx.line + 1 } rest
      | '\\' :: '\n' :: [] => lx.unfinished
      | '\\' :: '\n' :: rest => scan fuel false { lx with line := lx.line + 1 } rest
      | '\\' :: _ => lx.misplaced
      | _ =>
          match readToken lx cs with
          | .error lexed => lexed
          | .ok (lx, rest) => scan fuel false lx rest

/-- Cut a text into tokens; its line ends are line feeds. -/
def lexFrom (line : Nat) (cs : List Char) : Lexed :=
  let whole := if cs.isEmpty || cs.getLast? == some '\n' then cs else cs ++ ['\n']
  scan (2 * whole.length + 2) true { line := line } whole

end CommitLens.Python
