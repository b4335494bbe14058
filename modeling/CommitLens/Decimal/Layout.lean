import CommitLens.Decimal.Shortest
import CommitLens.Text.Blank

/-!
# Decimal notations

A double is written with its shortest digits (`shortestText`), with a fixed
number of places (`fixedText`), or with a number of significant digits
(`generalText`).  `Notation` holds the decisions a shortest text leaves open.
-/

namespace CommitLens.Decimal

def zeros (count : Nat) : String :=
  String.ofList (List.replicate count '0')

def digitText (n : Nat) : String :=
  toString n

def signText (negative : Bool) : String :=
  if negative then "-" else ""

/-- Digits with a point behind the first `point` of them, zeros filled in. -/
def positional (digits : String) (point : Int) : String :=
  if point ≤ 0 then "0." ++ zeros (-point).toNat ++ digits
  else
    let before := point.toNat
    if digits.length ≤ before then digits ++ zeros (before - digits.length)
    else
      String.ofList (digits.toList.take before) ++ "." ++
        String.ofList (digits.toList.drop before)

/-- A sign and at least two digits. -/
def exponentText (exponent : Int) : String :=
  let size := digitText exponent.natAbs
  (if exponent < 0 then "-" else "+") ++ (if size.length < 2 then "0" ++ size else size)

/-- One digit, a point if more follow, and the exponent. -/
def scientific (digits : String) (exponent : Int) : String :=
  let rest := String.ofList (digits.toList.drop 1)
  String.ofList (digits.toList.take 1) ++ (if rest.isEmpty then "" else "." ++ rest) ++ "e" ++
    exponentText exponent

/-- What a shortest text leaves open: which decimal points are written by
position, whether a point is kept without digits behind it, and the words for
what is not a number. -/
structure Layout where
  /-- The least and the greatest position of the point written by position. -/
  lowestPoint : Int
  highestPoint : Int
  /-- Written behind digits without a point, in either notation. -/
  wholeMark : String
  scientificMark : String
  infinity : String
  minusInfinity : String
  notANumber : String

/-- Numbers in records and reports: positional from `0.0001` to below
`10 ^ 16`, whole numbers with `.0`. -/
def Layout.record : Layout :=
  { lowestPoint := -3, highestPoint := 16, wholeMark := ".0", scientificMark := "",
    infinity := "inf", minusInfinity := "-inf", notANumber := "nan" }

/-- A shortest text in a layout. -/
def shortestText (layout : Layout) (x : Float) : String :=
  match Binary.ofFloat x with
  | .notANumber => layout.notANumber
  | .infinite negative => if negative then layout.minusInfinity else layout.infinity
  | .finite negative mantissa exponent =>
      let found := shortest mantissa exponent
      let digits := digitText found.digits
      let point : Int := if mantissa = 0 then 1 else digits.length + found.exponent
      let body :=
        if layout.lowestPoint ≤ point ∧ point ≤ layout.highestPoint then
          positional digits point ++
            (if (digits.length : Int) ≤ point then layout.wholeMark else "")
        else
          let text := scientific digits (point - 1)
          if digits.length = 1 then
            digits ++ layout.scientificMark ++ String.ofList (text.toList.drop 1)
          else text
      signText negative ++ body

/-- Digits of a whole number with the last `places` behind a point. -/
def withPlaces (n places : Nat) : String :=
  let digits := digitText n
  let padded := zeros (places + 1 - digits.length) ++ digits
  if places = 0 then padded
  else
    let cut := padded.length - places
    String.ofList (padded.toList.take cut) ++ "." ++ String.ofList (padded.toList.drop cut)

/-- A fraction with `places` decimal places; a half goes to the even digit. -/
def fixedMagnitude (value : Fraction) (places : Nat) : String :=
  withPlaces (value.mul ⟨Nat.pow 10 places, 1⟩).roundHalfEven places

def fixedText (places : Nat) (x : Float) : String :=
  match Binary.ofFloat x with
  | .notANumber => "nan"
  | .infinite negative => signText negative ++ "inf"
  | .finite negative mantissa exponent =>
      signText negative ++ fixedMagnitude (.scaled mantissa 2 exponent) places

/-- A positive fraction rounded to `count` significant digits: the digits and
the position of the point. -/
def significant (mantissa : Nat) (exponent : Int) (count : Nat) : Nat × Int :=
  let point := decimalPoint mantissa exponent
  let rounded :=
    ((Fraction.scaled mantissa 2 exponent).mul (.scaled 1 10 (count - point))).roundHalfEven
  if rounded = Nat.pow 10 count then (rounded / 10, point + 1) else (rounded, point)

/-- Drop the zeros at the end of the digits. -/
def dropLastZeros (digits : String) : String :=
  String.ofList (digits.toList.reverse.dropWhile (· == '0')).reverse

/-- At most `count` significant digits, in the shorter of the two notations. -/
def generalText (count : Nat) (x : Float) : String :=
  match Binary.ofFloat x with
  | .notANumber => "nan"
  | .infinite negative => signText negative ++ "inf"
  | .finite negative mantissa exponent =>
      if mantissa = 0 then signText negative ++ "0"
      else
        let (rounded, point) := significant mantissa exponent count
        let digits := dropLastZeros (digitText rounded)
        signText negative ++
          (if -4 < point ∧ point ≤ count then positional digits point
          else scientific digits (point - 1))

/-- The double nearest to the decimal with `places` places that is nearest to
`x`. -/
def roundPlaces (places : Nat) (x : Float) : Float :=
  match Binary.ofFloat x with
  | .notANumber | .infinite _ => x
  | .finite negative mantissa exponent =>
      let n := ((Fraction.scaled mantissa 2 exponent).mul ⟨Nat.pow 10 places, 1⟩).roundHalfEven
      let magnitude := Float.ofScientific n true places
      if negative then -magnitude else magnitude

end CommitLens.Decimal
