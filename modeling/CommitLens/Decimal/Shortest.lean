import CommitLens.Decimal.Binary

/-!
# The shortest decimal that reads back

Among the decimals that are nearer to a double than to any other, those with
the fewest digits are shortest, and of these the one nearest to the double is
chosen.  For each number of digits only the two neighbours of the exact value
on that decimal grid can be meant.
-/

namespace CommitLens.Decimal

/-- `digits * 10 ^ exponent`. -/
structure Digits where
  digits : Nat
  exponent : Int
  deriving Repr, DecidableEq

/-- The reals that round to `mantissa * 2 ^ exponent`, scaled by four: from
`4 * mantissa - below` to `4 * mantissa + 2` in units of `2 ^ (exponent - 2)`;
the ends belong to it when the mantissa is even. -/
structure RoundingInterval where
  low : Fraction
  high : Fraction
  closed : Bool

def RoundingInterval.of (mantissa : Nat) (exponent : Int) : RoundingInterval :=
  let below := if mantissa = Nat.pow 2 52 ∧ -1074 < exponent then 1 else 2
  { low := .scaled (4 * mantissa - below) 2 (exponent - 2)
    high := .scaled (4 * mantissa + 2) 2 (exponent - 2)
    closed := mantissa % 2 = 0 }

def RoundingInterval.holds (interval : RoundingInterval) (x : Fraction) : Bool :=
  if interval.closed then interval.low.le x && x.le interval.high
  else interval.low.lt x && x.lt interval.high

/-- The neighbour of `value` on the grid `10 ^ grid` that reads back, if one
does; of two the nearer, of two equally near the even one. -/
def onGrid? (interval : RoundingInterval) (value : Fraction) (grid : Int) : Option Nat :=
  let scaled := value.mul (.scaled 1 10 (-grid))
  let down := scaled.floor
  let reads := fun n => interval.holds (.scaled n 10 grid)
  match reads down, reads (down + 1) with
  | true, true => some scaled.roundHalfEven
  | true, false => some down
  | false, true => some (down + 1)
  | false, false => none

/-- Try grids with more and more digits. -/
def shortestFrom (interval : RoundingInterval) (value : Fraction) (point : Int) :
    Nat → Nat → Digits
  | 0, count => ⟨(value.mul (.scaled 1 10 (count - point))).roundHalfEven, point - count⟩
  | fuel + 1, count =>
      match onGrid? interval value (point - count) with
      | some digits => ⟨digits, point - count⟩
      | none => shortestFrom interval value point fuel (count + 1)

/-- Move zeros from the end of the digits into the exponent. -/
def Digits.trimmed (d : Digits) : Nat → Digits
  | 0 => d
  | fuel + 1 =>
      if d.digits ≠ 0 ∧ d.digits % 10 = 0 then
        (Digits.mk (d.digits / 10) (d.exponent + 1)).trimmed fuel
      else d

/-- The shortest decimal that reads back as `mantissa * 2 ^ exponent`. -/
def shortest (mantissa : Nat) (exponent : Int) : Digits :=
  if mantissa = 0 then ⟨0, 0⟩
  else
    let value := Fraction.scaled mantissa 2 exponent
    let found := shortestFrom (.of mantissa exponent) value (decimalPoint mantissa exponent) 16 1
    found.trimmed 20

end CommitLens.Decimal
