/-!
# Binary floating point numbers as exact fractions

A finite double is `mantissa * 2 ^ exponent`.  The exact value is what the
decimal texts of the other modules are computed from.
-/

namespace CommitLens.Decimal

/-- What the bits of a double stand for. -/
inductive Binary where
  | finite (negative : Bool) (mantissa : Nat) (exponent : Int)
  | infinite (negative : Bool)
  | notANumber
  deriving Repr, DecidableEq

/-- Read the three fields of a double. -/
def Binary.ofFloat (x : Float) : Binary :=
  let bits := x.toBits.toNat
  let negative := decide (Nat.pow 2 63 ≤ bits)
  let biased : Nat := bits / Nat.pow 2 52 % Nat.pow 2 11
  let fraction := bits % Nat.pow 2 52
  if biased = 2047 then
    if fraction = 0 then .infinite negative else .notANumber
  else if biased = 0 then .finite negative fraction (-1074)
  else .finite negative (fraction + Nat.pow 2 52) ((biased : Int) - 1075)

/-- A fraction of two natural numbers; the denominator is not zero. -/
structure Fraction where
  num : Nat
  den : Nat

/-- `mantissa * base ^ exponent`. -/
def Fraction.scaled (mantissa base : Nat) (exponent : Int) : Fraction :=
  if 0 ≤ exponent then ⟨mantissa * Nat.pow base exponent.toNat, 1⟩
  else ⟨mantissa, Nat.pow base (-exponent).toNat⟩

namespace Fraction

def mul (a b : Fraction) : Fraction :=
  ⟨a.num * b.num, a.den * b.den⟩

def le (a b : Fraction) : Bool :=
  a.num * b.den ≤ b.num * a.den

def lt (a b : Fraction) : Bool :=
  a.num * b.den < b.num * a.den

/-- The greatest natural number not above the fraction. -/
def floor (a : Fraction) : Nat :=
  a.num / a.den

/-- The nearest natural number; a half goes to the even neighbour. -/
def roundHalfEven (a : Fraction) : Nat :=
  let whole := a.num / a.den
  let rest := 2 * (a.num % a.den)
  if rest < a.den then whole
  else if a.den < rest then whole + 1
  else whole + whole % 2

theorem roundHalfEven_of_exact (n : Nat) : roundHalfEven ⟨n, 1⟩ = n := by
  simp [roundHalfEven, Nat.mod_one]

/-- The result is within half a unit of the fraction. -/
theorem roundHalfEven_within (a : Fraction) (h : 0 < a.den) :
    2 * a.num ≤ 2 * a.roundHalfEven * a.den + a.den ∧
      2 * a.roundHalfEven * a.den ≤ 2 * a.num + a.den := by
  have split := Nat.div_add_mod a.num a.den
  have below := Nat.mod_lt a.num h
  have bit : a.num / a.den % 2 < 2 := Nat.mod_lt _ (by decide)
  simp only [roundHalfEven]
  generalize a.num / a.den = q at *
  generalize a.num % a.den = r at *
  have grow : 2 * (q + 1) * a.den = 2 * (a.den * q) + 2 * a.den := by
    rw [Nat.mul_assoc, Nat.add_mul, Nat.mul_comm q, Nat.one_mul, Nat.mul_add]
  have same : 2 * q * a.den = 2 * (a.den * q) := by
    rw [Nat.mul_assoc, Nat.mul_comm q]
  split
  · omega
  · split
    · omega
    · rcases Nat.lt_succ_iff_lt_or_eq.mp bit with zero | one
      · have : q % 2 = 0 := by omega
        rw [this, Nat.add_zero]
        omega
      · rw [one]
        omega

end Fraction

/-- How many decimal digits come before the point of a positive fraction, or
minus the number of zeros behind it: the least `k` with `a < 10 ^ k`, looked
for from `start` on in at most `fuel` steps. -/
def decimalPointFrom (a : Fraction) : Nat → Int → Int
  | 0, start => start
  | fuel + 1, start =>
      if a.lt (.scaled 1 10 start) then start else decimalPointFrom a fuel (start + 1)

/-- The decimal point of `mantissa * 2 ^ exponent`; the binary length gives an
estimate that is at most three too low. -/
def decimalPoint (mantissa : Nat) (exponent : Int) : Int :=
  let length : Int := Nat.log2 mantissa + exponent
  decimalPointFrom (.scaled mantissa 2 exponent) 5 (Int.fdiv (length * 30103) 100000 - 1)

end CommitLens.Decimal
