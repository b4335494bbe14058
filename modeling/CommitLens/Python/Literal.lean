import CommitLens.Python.Token
import CommitLens.Text.CharacterNames

/-!
# String literals

A string token has letters in front that tell how it is read, quotes, and a
body.  Escapes in the body stand for characters or bytes; some texts have no
meaning as escapes, which is an error only for those that promise digits or a
name.
-/

namespace CommitLens.Python

structure Literal where
  isBytes : Bool
  isRaw : Bool
  isFormatted : Bool
  body : List Char
  deriving Repr, Inhabited

def Literal.ofToken (text : String) : Literal :=
  let cs := text.toList
  let isQuote (c : Char) : Bool := c == '\x22' || c == '\x27'
  let letters := (cs.takeWhile fun c => !isQuote c).map Char.toLower
  let rest := cs.dropWhile fun c => !isQuote c
  let size :=
    match rest with
    | a :: b :: c :: _ :: _ => if a == b && b == c then 3 else 1
    | _ => 1
  let size := if rest.length < 2 * size then 1 else size
  ⟨letters.contains 'b', letters.contains 'r', letters.contains 'f',
    (rest.drop size).take (rest.length - 2 * size)⟩

/-! ## Escapes -/

/-- Exactly so many hexadecimal digits, and what follows. -/
def takeHex (count : Nat) (cs : List Char) : Option (Nat × List Char) :=
  let digits := cs.take count
  if digits.length == count && digits.all fun c => (Text.hexDigit? c).isSome then
    some (Text.hexValue digits, cs.drop count)
  else none

def octalValue (digits : List Char) : Nat :=
  digits.foldl (fun value c => 8 * value + (c.toNat - 48)) 0

/-- One to three octal digits. -/
def octalDigits (cs : List Char) : List Char :=
  (cs.take 3).takeWhile fun c => '0' ≤ c && c ≤ '7'

/-- The character of a simple escape. -/
def simpleEscape? (c : Char) : Option Nat :=
  match c with
  | '\\' => some 92
  | '\x27' => some 39
  | '\x22' => some 34
  | 'a' => some 7
  | 'b' => some 8
  | 'f' => some 12
  | 'n' => some 10
  | 'r' => some 13
  | 't' => some 9
  | 'v' => some 11
  | _ => none

/-- The code of the escape after a backslash, and what follows; `some none` is
no escape at all. -/
def escapeCode? (isBytes : Bool) (c : Char) (rest : List Char) :
    Option (Option (Nat × List Char)) :=
  match simpleEscape? c with
  | some code => some (some (code, rest))
  | none =>
      if '0' ≤ c && c ≤ '7' then
        let digits := octalDigits (c :: rest)
        some (some (octalValue digits, (c :: rest).drop digits.length))
      else if c == 'x' then (takeHex 2 rest).map some
      else if isBytes then some none
      else if c == 'u' then (takeHex 4 rest).map some
      else if c == 'U' then
        (takeHex 8 rest).bind fun (code, more) =>
          if code ≤ 0x10ffff then some (some (code, more)) else none
      else if c == 'N' then
        match rest with
        | '\x7b' :: more =>
            let name := more.takeWhile (· != '\x7d')
            match more.drop name.length with
            | _ :: after =>
                (Text.characterNamed? (String.ofList name)).map fun code => some (code, after)
            | [] => none
        | _ => none
      else some none

/-- The codes of a body; `none` if an escape is broken.  Each step reads at
least a character. -/
def decodeFrom (isBytes : Bool) : Nat → List Char → Option (List Nat)
  | 0, _ => some []
  | _ + 1, [] => some []
  | fuel + 1, '\\' :: '\n' :: rest => decodeFrom isBytes fuel rest
  | fuel + 1, '\\' :: c :: rest =>
      match escapeCode? isBytes c rest with
      | none => none
      | some none => (decodeFrom isBytes fuel (c :: rest)).map (92 :: ·)
      | some (some (code, more)) => (decodeFrom isBytes fuel more).map (code :: ·)
  | fuel + 1, c :: rest => (decodeFrom isBytes fuel rest).map (c.toNat :: ·)

/-- Says that the next character stands for a surrogate or, if it is the mark again, for the
mark. -/
def surrogateMark : Char :=
  Char.ofNat 0x10ffff

/-- The characters for a code.  A surrogate is no character by itself, but an escape may give
one; it is spelled as a private character behind the mark, so that no two codes are confused. -/
def spellCode (code : Nat) : List Char :=
  if 0xd800 ≤ code && code < 0xe000 then [surrogateMark, Char.ofNat (0x100000 + code)]
  else if code == 0x10ffff then [surrogateMark, surrogateMark]
  else [Char.ofNat code]

def textOfCodes (codes : List Nat) : String :=
  String.ofList (codes.flatMap spellCode)

/-- The text of a body. -/
def decodeText (isRaw : Bool) (body : List Char) : Option String :=
  if isRaw then some (textOfCodes (body.map Char.toNat))
  else (decodeFrom false (body.length + 1) body).map textOfCodes

/-- The bytes of a body, which is written in ASCII. -/
def decodeBytes (isRaw : Bool) (body : List Char) : Option (List Nat) :=
  if body.any fun c => 128 ≤ c.toNat then none
  else if isRaw then some (body.map Char.toNat)
  else (decodeFrom true (body.length + 1) body).map fun codes => codes.map (· % 256)

/-! ## Formatted strings -/

/-- The literal text up to the next brace that is not doubled, and what
follows; within a format braces are never doubled, and the braces around the
name of a character count as text.  `none` is a closing brace that closes
nothing. -/
def literalPart (isRaw inFormat inName : Bool) : List Char → Option (List Char × List Char)
  | [] => some ([], [])
  | '\\' :: 'N' :: '\x7b' :: rest =>
      if isRaw then some (['\\', 'N'], '\x7b' :: rest)
      else
        (literalPart isRaw inFormat true rest).map fun (text, more) =>
          ('\\' :: 'N' :: '\x7b' :: text, more)
  | '\x7b' :: rest =>
      if inFormat && !inName then some ([], '\x7b' :: rest)
      else match rest with
        | '\x7b' :: rest =>
            (literalPart isRaw inFormat inName rest).map fun (text, more) => ('\x7b' :: text, more)
        | _ => some ([], '\x7b' :: rest)
  | '\x7d' :: rest =>
      if inName then
        (literalPart isRaw inFormat false rest).map fun (text, more) => ('\x7d' :: text, more)
      else if inFormat then some ([], '\x7d' :: rest)
      else match rest with
        | '\x7d' :: rest =>
            (literalPart isRaw inFormat inName rest).map fun (text, more) => ('\x7d' :: text, more)
        | _ => none
  | c :: rest =>
      (literalPart isRaw inFormat inName rest).map fun (text, more) => (c :: text, more)

/-- Where a scan of a value in a formatted string stands. -/
structure ValueScan where
  quote : Option Char := none
  isTriple : Bool := false
  /-- Closing brackets that are awaited, innermost first. -/
  awaited : List Char := []

/-- The source of a value in a formatted string, and what follows it. -/
def valuePart (scan : ValueScan) : List Char → Option (List Char × List Char)
  | [] => none
  | c :: rest =>
      let keep (scan : ValueScan) :=
        (valuePart scan rest).map fun (source, more) => (c :: source, more)
      if c == '\\' then none
      else match scan.quote with
        | some quote =>
            if c != quote then keep scan
            else if !scan.isTriple then keep { scan with quote := none }
            else match rest with
              | a :: b :: after =>
                  if a == quote && b == quote then
                    (valuePart { scan with quote := none, isTriple := false } after).map
                      fun (source, more) => (c :: a :: b :: source, more)
                  else keep scan
              | _ => keep scan
        | none =>
            if c == '\x22' || c == '\x27' then
              match rest with
              | a :: b :: after =>
                  if a == c && b == c then
                    (valuePart { scan with quote := some c, isTriple := true } after).map
                      fun (source, more) => (c :: a :: b :: source, more)
                  else keep { scan with quote := some c }
              | _ => keep { scan with quote := some c }
            else match closingFor c with
              | some closing => keep { scan with awaited := closing :: scan.awaited }
              | none =>
                  if c == '#' then none
                  else if scan.awaited.isEmpty && "!:\x7d=<>".toList.contains c then
                    match rest with
                    | '=' :: after =>
                        if "!=<>".toList.contains c then
                          (valuePart scan after).map fun (source, more) =>
                            (c :: '=' :: source, more)
                        else some ([], c :: rest)
                    | _ => if c == '<' || c == '>' then keep scan else some ([], c :: rest)
                  else if ")]\x7d".toList.contains c then
                    match scan.awaited with
                    | closing :: more => if closing == c then keep { scan with awaited := more } else none
                    | [] => none
                  else keep scan
termination_by cs => cs.length

end CommitLens.Python
