import CommitLens.Decimal.Layout
import CommitLens.Text.Printable

/-!
# Reading decimals

Whole numbers and decimals from text, digits of any script and single
underscores between digits admitted, blanks around them ignored.
-/

namespace CommitLens.Decimal

/-- The double nearest to `digits * 10 ^ exponent`.  Exponents far outside the
range of a double are cut off first. -/
def nearestFloat (negative : Bool) (digits : Nat) (exponent : Int) : Float :=
  let length : Int := (digitText digits).length
  let magnitude : Float :=
    if digits = 0 ∨ exponent + length < -400 then 0.0
    else if 400 < exponent + length then 1.0 / 0.0
    else if 0 ≤ exponent then Float.ofScientific digits false exponent.toNat
    else Float.ofScientific digits true (-exponent).toNat
  if negative then -magnitude else magnitude

/-- The least whole number that rounds beyond all doubles: half a unit above the
greatest one. -/
def wholeLimit : Nat := Nat.pow 2 1024 - Nat.pow 2 970

/-- The double nearest to a whole number, unless that is beyond all doubles. -/
def floatOfInt? (n : Int) : Option Float :=
  if wholeLimit ≤ n.natAbs then none else some (nearestFloat (n < 0) n.natAbs 0)

/-- Digits with single underscores between them: the value, how many digits,
and what follows. -/
def readDigits (cs : List Char) : Option (Nat × Nat × List Char) :=
  go cs 0 0
where
  go : List Char → Nat → Nat → Option (Nat × Nat × List Char)
    | [], value, count => if count = 0 then none else some (value, count, [])
    | '_' :: c :: rest, value, count =>
        match Text.decimalDigit? c with
        | some d => if count = 0 then none else go rest (10 * value + d) (count + 1)
        | none => if count = 0 then none else some (value, count, '_' :: c :: rest)
    | c :: rest, value, count =>
        match Text.decimalDigit? c with
        | some d => go rest (10 * value + d) (count + 1)
        | none => if count = 0 then none else some (value, count, c :: rest)

def readSign : List Char → Bool × List Char
  | '-' :: rest => (true, rest)
  | '+' :: rest => (false, rest)
  | rest => (false, rest)

/-- A whole number in base ten, the whole text. -/
def readInt? (text : String) : Option Int :=
  let (negative, rest) := readSign (Text.trim text).toList
  match readDigits rest with
  | some (value, _, []) => some (if negative then -value else value)
  | _ => none

/-- The exponent part of a decimal, if there is one. -/
def readExponent : List Char → Option (Int × List Char)
  | c :: rest =>
      if c = 'e' ∨ c = 'E' then
        let (negative, more) := readSign rest
        match readDigits more with
        | some (value, _, tail) => some (if negative then -value else value, tail)
        | none => none
      else some (0, c :: rest)
  | [] => some (0, [])

/-- An unsigned decimal, the whole list. -/
def readMagnitude? (negative : Bool) (cs : List Char) : Option Float := do
  let (whole, wholeCount, rest) :=
    match readDigits cs with
    | some found => found
    | none => (0, 0, cs)
  let (part, partCount, rest) ←
    match rest with
    | '.' :: more =>
        match readDigits more with
        | some found => some found
        | none => some (0, 0, more)
    | _ => some (0, 0, rest)
  if wholeCount + partCount = 0 then none
  else
    let (exponent, rest) ← readExponent rest
    if rest.isEmpty then
      some (nearestFloat negative (whole * Nat.pow 10 partCount + part) (exponent - partCount))
    else none

/-- A decimal, an infinity or not-a-number word in any case, the whole text. -/
def readFloat? (text : String) : Option Float :=
  let (negative, rest) := readSign (Text.trim text).toList
  let word := (String.ofList rest).map Char.toLower
  let signed := fun (x : Float) => if negative then -x else x
  if word = "inf" ∨ word = "infinity" then some (signed (1.0 / 0.0))
  else if word = "nan" then some (0.0 / 0.0)
  else readMagnitude? negative rest

end CommitLens.Decimal
