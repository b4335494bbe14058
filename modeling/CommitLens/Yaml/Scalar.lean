import CommitLens.Decimal.Reading
import CommitLens.Yaml.Token
import CommitLens.Yaml.Value

/-!
# YAML scalars

The type of a plain scalar by its form, and the values of scalars of each type.
-/

namespace CommitLens.Yaml

/-- The types that scalars and collections can have. -/
inductive Kind where
  | null
  | bool
  | int
  | float
  | text
  | bytes
  | timestamp
  | merge
  | defaultValue
  | list
  | mapping
  | set
  | orderedMap
  | pairs
  | unknown
  deriving Repr, BEq, DecidableEq

def Kind.ofTag (tag : String) : Kind :=
  let known : List (String × Kind) :=
    [("null", null), ("bool", bool), ("int", int), ("float", float), ("str", text),
      ("binary", bytes), ("timestamp", timestamp), ("seq", list), ("map", mapping),
      ("set", set), ("omap", orderedMap), ("pairs", pairs), ("merge", merge),
      ("value", defaultValue)]
  match known.find? fun entry => "tag:yaml.org,2002:" ++ entry.1 == tag with
  | some (_, kind) => kind
  | none => unknown

/-! ## Forms of plain scalars -/

/-- Drop one sign. -/
def unsigned : List Char → List Char
  | '-' :: cs => cs
  | '+' :: cs => cs
  | cs => cs

/-- A digit of a number that is grouped by underscores. -/
def isGroupedDigit (c : Char) : Bool :=
  c.isDigit || c == '_'

/-- `:` and a number below sixty, once or more often. -/
def isSexagesimalTail : List Char → Bool
  | [':', a] => a.isDigit
  | [':', a, b] => ('0' ≤ a && a ≤ '5') && b.isDigit
  | ':' :: a :: ':' :: rest => a.isDigit && isSexagesimalTail (':' :: rest)
  | ':' :: a :: b :: rest => ('0' ≤ a && a ≤ '5') && b.isDigit && isSexagesimalTail rest
  | _ => false

/-- A number with parts below sixty behind it; it begins with a digit. -/
def isSexagesimal (cs : List Char) : Bool :=
  let head := cs.takeWhile isGroupedDigit
  (head.headD ' ').isDigit && isSexagesimalTail (cs.drop head.length)

def isInt (cs : List Char) : Bool :=
  let body := unsigned cs
  let all := fun (fits : Char → Bool) (digits : List Char) => !digits.isEmpty && digits.all fits
  match body with
  | ['0'] => true
  | '0' :: 'b' :: digits => all (fun c => c == '0' || c == '1' || c == '_') digits
  | '0' :: 'x' :: digits => all (fun c => (Text.hexDigit? c).isSome || c == '_') digits
  | '0' :: digits => all (fun c => ('0' ≤ c && c ≤ '7') || c == '_') digits
  | c :: digits => c.isDigit && (digits.all isGroupedDigit || isSexagesimal body)
  | [] => false

/-- Nothing, or an exponent with its sign. -/
def isExponent : List Char → Bool
  | [] => true
  | e :: sign :: digits =>
      (e == 'e' || e == 'E') && (sign == '-' || sign == '+') && !digits.isEmpty &&
        digits.all Char.isDigit
  | _ => false

/-- A word in lower case, in upper case or capitalized. -/
def isWord (word : String) (cs : List Char) : Bool :=
  let lower := word.toList
  cs == lower || cs == lower.map Char.toUpper ||
    cs == (lower.take 1).map Char.toUpper ++ lower.drop 1

def isFloat (cs : List Char) : Bool :=
  let body := unsigned cs
  let whole := body.takeWhile isGroupedDigit
  let rest := body.drop whole.length
  match whole, rest with
  | [], '.' :: more =>
      let part := more.takeWhile isGroupedDigit
      (body.length == cs.length && (part.headD ' ').isDigit &&
          isExponent (more.drop part.length)) ||
        isWord "inf" more ||
        (body.length == cs.length && (more == "nan".toList || more == "NaN".toList ||
          more == "NAN".toList))
  | first :: _, '.' :: more =>
      first.isDigit && isExponent (more.dropWhile isGroupedDigit)
  | first :: _, ':' :: _ =>
      let parts := rest.takeWhile (· != '.')
      let tail := rest.drop parts.length
      first.isDigit && isSexagesimalTail parts && !tail.isEmpty &&
        (tail.drop 1).all isGroupedDigit
  | _, _ => false

/-- A date or a time in its parts, as digits. -/
structure TimeText where
  year : List Char
  month : List Char
  day : List Char
  /-- Hour, minute, second and the fraction of a second. -/
  clock : Option (List Char × List Char × List Char × List Char)
  /-- The sign, the hours and the minutes of an offset. -/
  zone : Option (Char × List Char × List Char)

/-- Take between `least` and `most` digits. -/
def takeDigits? (least most : Nat) (cs : List Char) : Option (List Char × List Char) :=
  let digits := (cs.take most).takeWhile Char.isDigit
  if least ≤ digits.length then some (digits, cs.drop digits.length) else none

def takeChar? (c : Char) : List Char → Option (List Char)
  | d :: rest => if c == d then some rest else none
  | [] => none

/-- An offset at the end of a time. -/
def readZone? (cs : List Char) : Option (Option (Char × List Char × List Char)) :=
  if cs.isEmpty then some none
  else match cs.dropWhile isBlank with
    | ['Z'] => some (some ('Z', [], []))
    | sign :: rest =>
        if sign == '+' || sign == '-' then do
          let (hours, rest) ← takeDigits? 1 2 rest
          match rest with
          | [] => some (some (sign, hours, []))
          | _ =>
              let (minutes, rest) ← takeDigits? 2 2 (← takeChar? ':' rest)
              if rest.isEmpty then some (some (sign, hours, minutes)) else none
        else none
    | [] => none

/-- Read a date, or a date with a time. -/
def readTime? (cs : List Char) : Option TimeText := do
  let (year, rest) ← takeDigits? 4 4 cs
  let (month, rest) ← takeDigits? 1 2 (← takeChar? '-' rest)
  let (day, rest) ← takeDigits? 1 2 (← takeChar? '-' rest)
  if rest.isEmpty then some ⟨year, month, day, none, none⟩
  else
    let rest ← match rest with
      | c :: more =>
          if c == 'T' || c == 't' then some more
          else if isBlank c then some (rest.dropWhile isBlank)
          else none
      | [] => none
    let (hour, rest) ← takeDigits? 1 2 rest
    let (minute, rest) ← takeDigits? 2 2 (← takeChar? ':' rest)
    let (second, rest) ← takeDigits? 2 2 (← takeChar? ':' rest)
    let (fraction, rest) := match rest with
      | '.' :: more => (more.takeWhile Char.isDigit, more.dropWhile Char.isDigit)
      | _ => ([], rest)
    let zone ← readZone? rest
    some ⟨year, month, day, some (hour, minute, second, fraction), zone⟩

/-- A date alone needs two digits for month and day. -/
def isTimestamp (cs : List Char) : Bool :=
  match readTime? cs with
  | some found => found.clock.isSome || (found.month.length == 2 && found.day.length == 2)
  | none => false

/-- The type of a plain scalar. -/
def Kind.ofPlain (text : String) : Kind :=
  let cs := text.toList
  let cs := if cs.getLast? == some '\n' then cs.dropLast else cs
  if ["yes", "no", "true", "false", "on", "off"].any fun word => isWord word cs then bool
  else if isFloat cs then float
  else if isInt cs then int
  else if cs == ['<', '<'] then merge
  else if cs.isEmpty || cs == ['~'] || isWord "null" cs then null
  else if isTimestamp cs then timestamp
  else if cs == ['='] then defaultValue
  else Kind.text

/-! ## Values of scalars -/

def withoutUnderscores (cs : List Char) : List Char :=
  cs.filter (· != '_')

/-- The value of digits in a base, if all of them are digits. -/
def digitsIn? (base : Nat) (cs : List Char) : Option Nat :=
  if cs.isEmpty then none
  else cs.foldlM (fun n c => do
    let d ← Text.hexDigit? c
    if d < base then some (base * n + d) else none) 0

/-- How many digits a decimal number may have. -/
def digitLimit : Nat := 4300

def decimalInt (cs : List Char) : Except Fault Int :=
  if digitLimit < cs.length && cs.all Char.isDigit then .error (.tooManyDigits cs.length)
  else match Decimal.readInt? (String.ofList cs) with
    | some n => .ok n
    | none => .error (.noInteger 10 (String.ofList cs))

def baseInt (base : Nat) (cs : List Char) : Except Fault Int :=
  match digitsIn? base cs with
  | some n => .ok n
  | none => .error (.noInteger base (String.ofList cs))

/-- Parts below sixty, the last one first. -/
def sexagesimalInt (parts : List Int) : Int :=
  parts.foldl (fun value part => 60 * value + part) 0

def readInt (text : String) : Except Fault Int := do
  let cs := withoutUnderscores text.toList
  let sign : Int := if cs.head? == some '-' then -1 else 1
  match cs, unsigned cs with
  | [], _ => throw .emptyNumber
  | _, [] => throw .emptyNumber
  | _, ['0'] => return 0
  | _, '0' :: 'b' :: digits => return sign * (← baseInt 2 digits)
  | _, '0' :: 'x' :: digits => return sign * (← baseInt 16 digits)
  | _, '0' :: digits =>
      let digits := match digits with
        | 'o' :: more => more
        | more => '0' :: more
      return sign * (← baseInt 8 digits)
  | _, body =>
      if body.contains ':' then
        return sign * sexagesimalInt (← (Text.splitOnChar ':' body).mapM decimalInt)
      else return sign * (← decimalInt body)

def decimalFloat (cs : List Char) : Except Fault Float :=
  match Decimal.readFloat? (String.ofList cs) with
  | some x => .ok x
  | none => .error (.noDecimal (String.ofList cs))

/-- The sum of parts that are worth sixty times as much from right to left. -/
def sexagesimalFloat (parts : List Float) : Float :=
  (parts.reverse.foldl (fun (value, base) part => (value + part * base, base * 60.0))
    ((0.0 : Float), (1.0 : Float))).1

def readFloat (text : String) : Except Fault Float := do
  let cs := withoutUnderscores (text.toList.map Char.toLower)
  let sign : Float := if cs.head? == some '-' then -1.0 else 1.0
  match cs, unsigned cs with
  | [], _ => throw .emptyNumber
  | _, body =>
      if body == ".inf".toList then return sign * (1.0 / 0.0)
      else if body == ".nan".toList then return 0.0 / 0.0
      else if body.contains ':' then
        return sign * sexagesimalFloat (← (Text.splitOnChar ':' body).mapM decimalFloat)
      else return sign * (← decimalFloat body)

def readBool (text : String) : Except Fault Bool :=
  let word := text.toLower
  if ["yes", "true", "on"].contains word then .ok true
  else if ["no", "false", "off"].contains word then .ok false
  else .error (.noTruthValue word)

def isLeapYear (year : Nat) : Bool :=
  year % 4 == 0 && (year % 100 != 0 || year % 400 == 0)

def daysIn (year month : Nat) : Nat :=
  if month == 2 then (if isLeapYear year then 29 else 28)
  else if [4, 6, 9, 11].contains month then 30
  else 31

def checkDate (date : Date) : Except Fault Date :=
  if date.year == 0 then .error (.badDate "year 0 is out of range")
  else if date.month == 0 || 12 < date.month then .error (.badDate "month must be in 1..12")
  else if date.day == 0 || daysIn date.year date.month < date.day then
    .error (.badDate "day is out of range for month")
  else .ok date

/-- A stretch of whole minutes, in days and seconds. -/
def durationText (minutes : Int) : String :=
  let days := Int.fdiv minutes 1440
  let seconds := 60 * Int.fmod minutes 1440
  "datetime.timedelta(days=" ++ toString days ++
    (if seconds == 0 then "" else ", seconds=" ++ toString seconds) ++ ")"

def checkOffset (minutes : Int) : Except Fault Int :=
  if minutes.natAbs < 1440 then .ok minutes
  else .error (.badDate ("offset must be a timedelta strictly between " ++
    "-timedelta(hours=24) and timedelta(hours=24), not " ++ durationText minutes ++ "."))

def checkTime (time : Time) : Except Fault Time := do
  let _ ← checkDate time.date
  if 23 < time.hour then throw (.badDate "hour must be in 0..23")
  if 59 < time.minute then throw (.badDate "minute must be in 0..59")
  if 59 < time.second then throw (.badDate "second must be in 0..59")
  return time

def digitsValue (cs : List Char) : Nat :=
  cs.foldl (fun n c => 10 * n + (c.toNat - 48)) 0

def readTimestamp (text : String) : Except Fault Value := do
  let cs := text.toList
  let cs := if cs.getLast? == some '\n' then cs.dropLast else cs
  match readTime? cs with
  | none => throw .noTimestamp
  | some found => do
      let date : Date := ⟨digitsValue found.year, digitsValue found.month, digitsValue found.day⟩
      match found.clock with
      | none => return .date (← checkDate date)
      | some (hour, minute, second, fraction) => do
          let offset ← match found.zone with
            | none => pure none
            | some (sign, hours, minutes) => do
                let size : Int := 60 * digitsValue hours + digitsValue minutes
                pure (some (← checkOffset (if sign == '-' then -size else size)))
          let microsecond := digitsValue ((fraction ++ List.replicate 6 '0').take 6)
          return .time (← checkTime ⟨date, digitsValue hour, digitsValue minute,
            digitsValue second, microsecond, offset⟩)

/-- The value of a character in base 64. -/
def base64Digit? (c : Char) : Option Nat :=
  if 'A' ≤ c && c ≤ 'Z' then some (c.toNat - 65)
  else if 'a' ≤ c && c ≤ 'z' then some (c.toNat - 71)
  else if c.isDigit then some (c.toNat + 4)
  else if c == '+' then some 62
  else if c == '/' then some 63
  else none

/-- Decode base 64; `held` is the digit that is not used up, `place` counts the
digits of a group and `pads` the marks that fill it. -/
def base64From (held place pads : Nat) : List Char → Option (List Nat)
  | [] => if place == 0 then some [] else none
  | c :: rest =>
      if c == '=' then
        if 2 ≤ place && 4 ≤ place + (pads + 1) then some []
        else base64From held place (if 2 ≤ place then pads + 1 else pads) rest
      else match base64Digit? c with
        | none => base64From held place pads rest
        | some d =>
            match place with
            | 0 => base64From d 1 0 rest
            | 1 => (base64From (d % 16) 2 0 rest).map ((held * 4 + d / 16) :: ·)
            | 2 => (base64From (d % 4) 3 0 rest).map ((held * 16 + d / 4) :: ·)
            | _ => (base64From 0 0 0 rest).map ((held * 64 + d) :: ·)

def readBytes (text : String) : Except Fault (List Nat) :=
  if !Text.isAscii text then .error .malformed
  else match base64From 0 0 0 text.toList with
    | some data => .ok data
    | none => .error .malformed

/-- The value of a scalar of a kind.  Not every kind has scalars. -/
def scalarValue (kind : Kind) (text : String) : Except Fault Value :=
  match kind with
  | .null => .ok .null
  | .bool => (readBool text).map .bool
  | .int => (readInt text).map fun n => .number (.whole n)
  | .float => (readFloat text).map fun x => .number (.real x)
  | .text => .ok (.text text)
  | .bytes => (readBytes text).map .bytes
  | .timestamp => readTimestamp text
  | _ => .error .malformed

end CommitLens.Yaml
