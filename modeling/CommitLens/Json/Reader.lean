import CommitLens.Decimal.Reading
import CommitLens.Json.Value
import CommitLens.Text.Ranges

/-!
# Reading JSON text

A recursive descent over the characters.  The fuel is the length of the text,
which no nesting exceeds.
-/

namespace CommitLens.Json

abbrev Reader (α : Type) := List Char → Option (α × List Char)

def isSpace (c : Char) : Bool :=
  c = ' ' || c = '\n' || c = '\r' || c = '\t'

def skipSpace (cs : List Char) : List Char :=
  cs.dropWhile isSpace

/-- Pairs of surrogate units become one code. -/
def joinUnits : List Nat → List Nat
  | high :: low :: rest =>
      if 0xd800 ≤ high ∧ high < 0xdc00 ∧ 0xdc00 ≤ low ∧ low < 0xe000 then
        (0x10000 + (high - 0xd800) * 1024 + (low - 0xdc00)) :: joinUnits rest
      else high :: joinUnits (low :: rest)
  | rest => rest

def escapedCode? (c : Char) : Option Nat :=
  if c = '\x22' then some 0x22
  else if c = '\\' then some 0x5c
  else if c = '/' then some 0x2f
  else if c = 'b' then some 8
  else if c = 'f' then some 12
  else if c = 'n' then some 10
  else if c = 'r' then some 13
  else if c = 't' then some 9
  else none

/-- The codes up to the closing quote; `codes` holds those read, last one
first. -/
def readCodes (codes : List Nat) : Reader (List Nat)
  | [] => none
  | c :: rest =>
      if c = '\x22' then some (codes.reverse, rest)
      else if c = '\\' then
        match rest with
        | 'u' :: a :: b :: d :: e :: more =>
            if [a, b, d, e].all fun x => (Text.hexDigit? x).isSome then
              readCodes (Text.hexValue [a, b, d, e] :: codes) more
            else none
        | x :: more =>
            match escapedCode? x with
            | some code => readCodes (code :: codes) more
            | none => none
        | [] => none
      else if c.toNat < 32 then none
      else readCodes (c.toNat :: codes) rest

/-- A string behind its opening quote. -/
def readString : Reader String := fun cs => do
  let (codes, rest) ← readCodes [] cs
  some (String.ofList ((joinUnits codes).map Char.ofNat), rest)

def isNumberChar (c : Char) : Bool :=
  c.isDigit || c = '-' || c = '+' || c = '.' || c = 'e' || c = 'E'

/-- A number; it is whole when it has neither point nor exponent. -/
def readNumber : Reader Value := fun cs =>
  let word := cs.takeWhile isNumberChar
  let rest := cs.drop word.length
  if word.any fun c => c = '.' || c = 'e' || c = 'E' then
    (Decimal.readFloat? (String.ofList word)).map fun x => (.real x, rest)
  else (Decimal.readInt? (String.ofList word)).map fun n => (.whole n, rest)

def expect (word : String) (value : Value) : Reader Value := fun cs =>
  if word.toList.isPrefixOf cs then some (value, cs.drop word.length) else none

mutual

def readValue : Nat → Reader Value
  | 0, _ => none
  | fuel + 1, cs =>
      match skipSpace cs with
      | '[' :: rest =>
          match skipSpace rest with
          | ']' :: more => some (.array [], more)
          | more => readItems fuel [] more
      | '\x7b' :: rest =>
          match skipSpace rest with
          | '\x7d' :: more => some (.object [], more)
          | more => readMembers fuel [] more
      | '\x22' :: rest => (readString rest).map fun (s, more) => (.text s, more)
      | 'n' :: rest => expect "null" .null ('n' :: rest)
      | 't' :: rest => expect "true" (.bool true) ('t' :: rest)
      | 'f' :: rest => expect "false" (.bool false) ('f' :: rest)
      | rest => readNumber rest

/-- The items from here on; `items` holds those read, last one first. -/
def readItems : Nat → List Value → Reader Value
  | 0, _, _ => none
  | fuel + 1, items, cs =>
      match readValue fuel cs with
      | none => none
      | some (item, rest) =>
          match skipSpace rest with
          | ',' :: more => readItems fuel (item :: items) more
          | ']' :: more => some (.array (item :: items).reverse, more)
          | _ => none

def readMembers : Nat → List (String × Value) → Reader Value
  | 0, _, _ => none
  | fuel + 1, members, cs =>
      match skipSpace cs with
      | '\x22' :: rest =>
          match readString rest with
          | none => none
          | some (name, more) =>
              match skipSpace more with
              | ':' :: more =>
                  match readValue fuel more with
                  | none => none
                  | some (value, more) =>
                      match skipSpace more with
                      | ',' :: more => readMembers fuel ((name, value) :: members) more
                      | '\x7d' :: more => some (.object ((name, value) :: members).reverse, more)
                      | _ => none
              | _ => none
      | _ => none

end

/-- A whole text that is one value. -/
def parse? (text : String) : Option Value :=
  match readValue (text.length + 1) text.toList with
  | some (value, rest) => if (skipSpace rest).isEmpty then some value else none
  | none => none

end CommitLens.Json
