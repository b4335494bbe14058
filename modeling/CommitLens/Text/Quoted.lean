import CommitLens.Text.Printable

/-!
# Quoted texts

A text in quotes as it stands in messages: single quotes, unless the text has
single quotes and no double ones; characters that cannot be shown are written
as escapes.
-/

namespace CommitLens.Text

/-- The last hexadecimal digits of a number. -/
def hexDigits : Nat → Nat → List Char
  | 0, _ => []
  | width + 1, n => hexDigits width (n / 16) ++ ["0123456789abcdef".toList.getD (n % 16) '0']

def escapedChar (quote c : Char) : List Char :=
  let code := c.toNat
  if c == quote || c == '\\' then ['\\', c]
  else if c == '\n' then ['\\', 'n']
  else if c == '\r' then ['\\', 'r']
  else if c == '\t' then ['\\', 't']
  else if isPrintable c then [c]
  else if code < 0x100 then '\\' :: 'x' :: hexDigits 2 code
  else if code < 0x10000 then '\\' :: 'u' :: hexDigits 4 code
  else '\\' :: 'U' :: hexDigits 8 code

def quoteFor (cs : List Char) : Char :=
  if cs.contains '\x27' && !cs.contains '\x22' then '\x22' else '\x27'

def quoted (text : String) : String :=
  let cs := text.toList
  let quote := quoteFor cs
  String.ofList ([quote] ++ cs.flatMap (escapedChar quote) ++ [quote])

/-- Bytes in quotes: every byte outside of ASCII is written as an escape. -/
def quotedBytes (bytes : List Nat) : String :=
  let cs := bytes.map Char.ofNat
  let quote := quoteFor cs
  let body := cs.flatMap fun c =>
    if c.toNat < 0x80 then escapedChar quote c else '\\' :: 'x' :: hexDigits 2 c.toNat
  String.ofList (['b', quote] ++ body ++ [quote])

end CommitLens.Text
