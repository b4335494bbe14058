import CommitLens.Decimal.Layout
import CommitLens.Json.Value

/-!
# JSON text

Only printable ASCII is written as it is; other characters are escaped, those
above `ffff` as a pair of units.  A text is written on one line, or over
several with every member on a line of its own.
-/

namespace CommitLens.Json

/-- A lower case hexadecimal digit. -/
def hexChar (n : Nat) : Char :=
  if n < 10 then Char.ofNat (48 + n) else Char.ofNat (87 + n)

/-- A 16 bit unit as an escape. -/
def unitEscape (unit : Nat) : List Char :=
  ['\\', 'u', hexChar (unit / 4096 % 16), hexChar (unit / 256 % 16), hexChar (unit / 16 % 16),
    hexChar (unit % 16)]

/-- A character above `ffff` as its two units. -/
def surrogatePair (code : Nat) : Nat × Nat :=
  (0xd800 + (code - 0x10000) / 1024, 0xdc00 + (code - 0x10000) % 1024)

def escapeChar (c : Char) : List Char :=
  if c = '\x22' then ['\\', '\x22']
  else if c = '\\' then ['\\', '\\']
  else if c = '\n' then ['\\', 'n']
  else if c = '\r' then ['\\', 'r']
  else if c = '\t' then ['\\', 't']
  else if c = '\x08' then ['\\', 'b']
  else if c = '\x0c' then ['\\', 'f']
  else if 32 ≤ c.toNat ∧ c.toNat < 127 then [c]
  else if c.toNat < 0x10000 then unitEscape c.toNat
  else
    let pair := surrogatePair c.toNat
    unitEscape pair.1 ++ unitEscape pair.2

def quoted (s : String) : String :=
  String.ofList ('\x22' :: (s.toList.flatMap escapeChar ++ ['\x22']))

/-- Numbers in JSON text. -/
def numberLayout : Decimal.Layout :=
  { Decimal.Layout.record with
    infinity := "Infinity", minusInfinity := "-Infinity", notANumber := "NaN" }

def numberText : Number Float → String
  | .whole n => toString n
  | .real x => Decimal.shortestText numberLayout x

/-- Where line breaks go: `indent` blanks per level, or everything on one
line. -/
structure Spacing where
  indent : Option Nat

def Spacing.oneLine : Spacing := ⟨none⟩

def Spacing.perMember : Spacing := ⟨some 2⟩

/-- A line break and the indentation of a level. -/
def Spacing.break (spacing : Spacing) (level : Nat) : String :=
  match spacing.indent with
  | none => ""
  | some width => "\n" ++ String.ofList (List.replicate (width * level) ' ')

def Spacing.colon (spacing : Spacing) : String :=
  if spacing.indent.isSome then ": " else ":"

/-- Items between brackets, separated by commas. -/
def bracketed (spacing : Spacing) (level : Nat) (opening closing : String) (items : List String) :
    String :=
  if items.isEmpty then opening ++ closing
  else
    opening ++ spacing.break (level + 1) ++
      String.intercalate ("," ++ spacing.break (level + 1)) items ++
      spacing.break level ++ closing

mutual

def write (spacing : Spacing) (level : Nat) : Value → String
  | .null => "null"
  | .bool b => if b then "true" else "false"
  | .number n => numberText n
  | .text s => quoted s
  | .array items => bracketed spacing level "[" "]" (writeItems spacing (level + 1) items)
  | .object members =>
      bracketed spacing level "\x7b" "\x7d" (writeMembers spacing (level + 1) members)

def writeItems (spacing : Spacing) (level : Nat) : List Value → List String
  | [] => []
  | item :: rest => write spacing level item :: writeItems spacing level rest

def writeMembers (spacing : Spacing) (level : Nat) : List (String × Value) → List String
  | [] => []
  | (name, value) :: rest =>
      (quoted name ++ spacing.colon ++ write spacing level value) :: writeMembers spacing level rest

end

def Value.compact (value : Value) : String :=
  write .oneLine 0 value

def Value.pretty (value : Value) : String :=
  write .perMember 0 value

end CommitLens.Json
