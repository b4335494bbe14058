import CommitLens.Script.Tree
import CommitLens.Text.Ranges

/-!
# Script texts and their tokens

A token reader gets a text and a position and answers with the position after
the token.  Between two tokens stands a gap of blanks and comments; a cursor
keeps where the token before the gap ends and where the next token starts,
because a line end in the gap may end a statement.
-/

namespace CommitLens.Script

/-- The three grammars: without types, with types, and with types and markup.
The first one has markup too. -/
inductive Dialect where
  | untyped
  | typed
  | typedMarkup
  deriving Repr, BEq, DecidableEq, Inhabited

def Dialect.hasTypes : Dialect → Bool
  | untyped => false
  | typed | typedMarkup => true

def Dialect.hasMarkup : Dialect → Bool
  | typed => false
  | untyped | typedMarkup => true

structure Source where
  chars : Array Char
  dialect : Dialect

def Source.ofText (dialect : Dialect) (text : String) : Source :=
  ⟨text.toList.toArray, dialect⟩

namespace Source

/-- The character at a position; NUL after the end. -/
def char (src : Source) (i : Nat) : Char :=
  src.chars.getD i '\x00'

def isEnd (src : Source) (i : Nat) : Bool :=
  src.chars.size ≤ i

/-- What is left to read from a position, plus one: enough steps for any loop
that reads a character a step. -/
def left (src : Source) (i : Nat) : Nat :=
  src.chars.size - i + 1

def slice (src : Source) (start stop : Nat) : String :=
  String.ofList (src.chars.extract start stop).toList

def text (src : Source) (tree : Tree) : String :=
  src.slice tree.start tree.stop

def has (src : Source) (i : Nat) (word : String) : Bool :=
  go i word.toList
where
  go (i : Nat) : List Char → Bool
    | [] => true
    | c :: rest => !src.isEnd i && src.char i == c && go (i + 1) rest

/-- The first position from `i` on whose character fails the test. -/
def skipWhile (src : Source) (test : Char → Bool) (i : Nat) : Nat :=
  go (src.left i) i
where
  go : Nat → Nat → Nat
    | 0, i => i
    | fuel + 1, i => if !src.isEnd i && test (src.char i) then go fuel (i + 1) else i

/-- The position after the first occurrence of a word, if there is one. -/
def after? (src : Source) (word : String) (i : Nat) : Option Nat :=
  go (src.left i) i
where
  go : Nat → Nat → Option Nat
    | 0, _ => none
    | fuel + 1, i =>
        if src.has i word then some (i + word.length)
        else if src.isEnd i then none
        else go fuel (i + 1)

/-- How many lines start before a position, the first one included. -/
def lineOf (src : Source) (i : Nat) : Nat :=
  (src.chars.extract 0 i).foldl (fun n c => if c == '\n' then n + 1 else n) 1

end Source

/-! ## Gaps -/

def isSpaceMark (c : Char) : Bool :=
  let code := c.toNat
  (9 ≤ code && code ≤ 13) || code == 32 || code == 0x85 || code == 0xa0 || code == 0x1680 ||
    (0x2000 ≤ code && code ≤ 0x200b) || code == 0x2028 || code == 0x2029 || code == 0x202f ||
    code == 0x205f || code == 0x2060 || code == 0x3000 || code == 0xfeff

/-- Characters that end a line comment, a string or a regular expression. -/
def isLineStop (c : Char) : Bool :=
  c == '\n' || c == '\r' || c.toNat == 0x2028 || c.toNat == 0x2029

/-- The end of the comment at a position. -/
def comment? (src : Source) (i : Nat) : Option Nat :=
  if src.has i "//" then some (src.skipWhile (!isLineStop ·) (i + 2))
  else if src.has i "/*" then src.after? "*/" (i + 2)
  else none

/-- The end of a line comment in the style of markup, which is one only where
no operator may stand. -/
def markupComment? (src : Source) (i : Nat) : Option Nat :=
  if src.has i "<!--" || src.has i "-->" then
    some (src.skipWhile (!isLineStop ·) (i + 2))
  else none

/-- The end of the gap that starts at a position. -/
def skipGap (src : Source) (i : Nat) : Nat :=
  go (src.left i) i
where
  go : Nat → Nat → Nat
    | 0, i => i
    | fuel + 1, i =>
        let next := src.skipWhile isSpaceMark i
        match comment? src next with
        | some stop => go fuel stop
        | none => next

/-- The comments of a gap. -/
def commentsOfGap (src : Source) (start stop : Nat) : List Tree :=
  go (src.left start) start
where
  go : Nat → Nat → List Tree
    | 0, _ => []
    | fuel + 1, i =>
        let next := src.skipWhile isSpaceMark i
        if stop ≤ next then []
        else match (comment? src next).orElse fun _ => markupComment? src next with
          | some past => Tree.leaf .comment next past :: go fuel past
          | none => []

/-- Does a gap hold a line end outside block comments? -/
def breaksLine (src : Source) (start stop : Nat) : Bool :=
  go (src.left start) start
where
  isBreak (c : Char) : Bool :=
    c == '\n' || (!src.dialect.hasTypes && (c.toNat == 0x2028 || c.toNat == 0x2029))
  go : Nat → Nat → Bool
    | 0, _ => false
    | fuel + 1, i =>
        if stop ≤ i then false
        else match (comment? src i).orElse fun _ => markupComment? src i with
          | some past => go fuel past
          | none => isBreak (src.char i) || go fuel (i + 1)

/-! ## Names, numbers, strings, patterns -/

def isNameMark (c : Char) : Bool :=
  32 < c.toNat && !isSpaceMark c && !":;\x60\x22\x27@#.,|^&<=>+-*/\\%?!~()[]\x7b\x7d".toList.contains c

/-- The end of an escape `\uXXXX` or `\u{…}`. -/
def unicodeEscape? (src : Source) (i : Nat) : Option Nat :=
  if !src.has i "\\u" then none
  else if src.char (i + 2) == '{' then
    let stop := src.skipWhile isHex (i + 3)
    if i + 3 < stop && src.char stop == '}' then some (stop + 1) else none
  else if (List.range 4).all fun k => isHex (src.char (i + 2 + k)) then some (i + 6)
  else none
where
  isHex (c : Char) : Bool :=
    (Text.hexDigit? c).isSome

def nameRest (src : Source) (i : Nat) : Nat :=
  go (src.left i) i
where
  go : Nat → Nat → Nat
    | 0, i => i
    | fuel + 1, i =>
        if src.isEnd i then i
        else if isNameMark (src.char i) then go fuel (i + 1)
        else match unicodeEscape? src i with
          | some next => go fuel next
          | none => i

/-- The end of the name at a position; digits may not open it. -/
def name? (src : Source) (i : Nat) : Option Nat :=
  if src.isEnd i || (src.char i).isDigit then none
  else
    let stop := nameRest src i
    if i < stop then some stop else none

/-- Digits of one kind with single underscores between them. -/
def digits? (src : Source) (test : Char → Bool) (i : Nat) : Option Nat :=
  if !src.isEnd i && test (src.char i) then some (go (src.left i) (i + 1)) else none
where
  go : Nat → Nat → Nat
    | 0, i => i
    | fuel + 1, i =>
        if test (src.char i) then go fuel (i + 1)
        else if src.char i == '_' && test (src.char (i + 1)) then go fuel (i + 2)
        else i

def exponentEnd (src : Source) (i : Nat) : Nat :=
  if src.char i == 'e' || src.char i == 'E' then
    let sign := src.char (i + 1)
    let first := if sign == '+' || sign == '-' then i + 2 else i + 1
    (digits? src Char.isDigit first).getD i
  else i

def radixNumber? (src : Source) (i : Nat) : Option Nat :=
  let read (test : Char → Bool) : Option Nat :=
    (digits? src test (i + 2)).map fun stop => if src.char stop == 'n' then stop + 1 else stop
  if src.char i != '0' then none
  else match (src.char (i + 1)).toLower with
    | 'x' => read fun c => (Text.hexDigit? c).isSome
    | 'b' => read fun c => c == '0' || c == '1'
    | 'o' => read fun c => '0' ≤ c && c ≤ '7'
    | _ => none

/-- The end of a number.  After a leading zero the number has no fraction,
unless the zero is its only digit. -/
def number? (src : Source) (i : Nat) : Option Nat :=
  (radixNumber? src i).orElse fun _ =>
    if src.char i == '.' then
      (digits? src Char.isDigit (i + 1)).map (exponentEnd src)
    else
      (digits? src Char.isDigit i).map fun stop =>
        if src.char stop == 'n' then stop + 1
        else if src.char i == '0' && i + 1 < stop then stop
        else if src.char stop == '.' then
          exponentEnd src ((digits? src Char.isDigit (stop + 1)).getD (stop + 1))
        else exponentEnd src stop

/-- The end of a backslash escape. -/
def escape? (src : Source) (i : Nat) : Option Nat :=
  let c := src.char (i + 1)
  if src.isEnd (i + 1) then none
  else if c == 'x' then
    if isHex (src.char (i + 2)) && isHex (src.char (i + 3)) then some (i + 4) else none
  else if c == 'u' then unicodeEscape? src i
  else if c == '\r' && src.char (i + 2) == '\n' then some (i + 3)
  else some (i + 2)
where
  isHex (c : Char) : Bool :=
    (Text.hexDigit? c).isSome

/-- The end of a string in quotes, on one line. -/
def string? (src : Source) (i : Nat) : Option Nat :=
  let quote := src.char i
  if !src.isEnd i && (quote == '\x22' || quote == '\x27') then
    go quote (src.left i) (i + 1)
  else none
where
  go (quote : Char) : Nat → Nat → Option Nat
    | 0, _ => none
    | fuel + 1, i =>
        let c := src.char i
        if src.isEnd i then none
        else if c == quote then some (i + 1)
        else if c == '\\' then (escape? src i).bind (go quote fuel)
        else if c == '\n' || c == '\r' then none
        else go quote fuel (i + 1)

/-- The end of a piece of template text: it stops before the closing mark or
the next substitution. -/
def templateText? (src : Source) (i : Nat) : Option Nat :=
  go (src.left i) i
where
  go : Nat → Nat → Option Nat
    | 0, _ => none
    | fuel + 1, i =>
        if src.isEnd i then none
        else if src.char i == '\x60' || src.has i "$\x7b" then some i
        else if src.char i == '\\' then (escape? src i).bind (go fuel)
        else go fuel (i + 1)

/-- The end of a regular expression with its flags. -/
def regex? (src : Source) (i : Nat) : Option Nat :=
  if src.char i == '/' && src.char (i + 1) != '/' && src.char (i + 1) != '*' then
    go false (src.left i) (i + 1)
  else none
where
  go (inClass : Bool) : Nat → Nat → Option Nat
    | 0, _ => none
    | fuel + 1, i =>
        let c := src.char i
        if src.isEnd i || c == '\n' then none
        else if c == '\\' then
          if src.isEnd (i + 1) || src.char (i + 1) == '\n' then none else go inClass fuel (i + 2)
        else if c == '[' then go true fuel (i + 1)
        else if c == ']' then go false fuel (i + 1)
        else if c == '/' && !inClass then some (src.skipWhile Char.isLower (i + 1))
        else go inClass fuel (i + 1)

/-- Text between the elements of markup: anything but braces, angle brackets
and ampersands, with more than indentation in it. -/
def markupText? (src : Source) (i : Nat) : Option Nat :=
  let stop := src.skipWhile (fun c => !"<>\x7b\x7d&".toList.contains c) i
  if stop == i || src.isEnd stop then none else some stop

/-- A character reference such as `&nbsp;` or `&#10;`. -/
def characterReference? (src : Source) (i : Nat) : Option Nat :=
  if src.char i != '&' then none
  else
    let read (test : Char → Bool) (first most : Nat) : Option Nat :=
      let stop := src.skipWhile test first
      if first < stop && stop ≤ first + most && src.char stop == ';' then some (stop + 1) else none
    if src.char (i + 1) == '#' then
      if (src.char (i + 2)).toLower == 'x' then
        read (fun c => (Text.hexDigit? c).isSome) (i + 3) 6
      else read Char.isDigit (i + 2) 5
    else read Char.isAlpha (i + 1) 30

/-! ## Cursors -/

/-- A place between two tokens: `past` is the end of the one before, `here` the
start of the one after. -/
structure Cursor where
  past : Nat
  here : Nat
  deriving Repr, Inhabited

/-- The cursor after a token that ends at a position. -/
def Cursor.afterToken (src : Source) (stop : Nat) : Cursor :=
  ⟨stop, skipGap src stop⟩

def Cursor.breaksLine (src : Source) (c : Cursor) : Bool :=
  Script.breaksLine src c.past c.here

/-- Marks that continue the statement before a line end, so that the line end
does not close it. -/
def continuesLine (src : Source) (i : Nat) (afterExpression : Bool) : Bool :=
  let typed := src.dialect.hasTypes
  match src.char i with
  | '\x60' | ',' | ':' | ';' | '*' | '%' | '>' | '<' | '=' | '?' | '^' | '|' | '&' | '/' => true
  | '[' | '(' => !typed || afterExpression
  | '.' => typed || !(src.char (i + 1)).isDigit
  | '+' => src.char (i + 1) != '+'
  | '-' => src.char (i + 1) != '-'
  | '!' => src.char (i + 1) == '='
  | 'i' =>
      (src.has i "in" && !(src.char (i + 2)).isAlpha) ||
        (src.has i "instanceof" && !(src.char (i + 10)).isAlpha)
  | _ => false

/-- May the statement end here without a semicolon? -/
def closesStatement (src : Source) (c : Cursor) (afterExpression : Bool) : Bool :=
  src.isEnd c.here || src.char c.here == '}' ||
    (c.breaksLine src && !continuesLine src c.here afterExpression)

end CommitLens.Script
