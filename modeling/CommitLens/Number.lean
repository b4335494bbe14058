/-!
# Numbers that remember how they were written

Counts stay whole numbers in records and reports, weights and scores are real.
`α` is the type of the real numbers: doubles when the program runs, exact
numbers where its arithmetic is reasoned about.
-/

namespace CommitLens

inductive Number (α : Type) where
  | whole (n : Int)
  | real (x : α)
  deriving Repr, BEq, Inhabited

/-- The operations that scores are computed with. -/
class Scalar (α : Type) where
  ofInt : Int → α
  /-- `mantissa / 10 ^ places`. -/
  decimal : Nat → Nat → α
  add : α → α → α
  mul : α → α → α
  div : α → α → α
  less : α → α → Bool

instance : Scalar Float where
  ofInt := Float.ofInt
  decimal mantissa places := Float.ofScientific mantissa true places
  add := Float.add
  mul := Float.mul
  div := Float.div
  less a b := a < b

variable {α : Type} [Scalar α]

/-- A number as a real one. -/
def Number.toReal : Number α → α
  | .whole n => Scalar.ofInt n
  | .real x => x

/-- A product stays whole if both factors are. -/
def Number.mul : Number α → Number α → Number α
  | .whole a, .whole b => .whole (a * b)
  | a, b => .real (Scalar.mul a.toReal b.toReal)

/-- The greater of two numbers; the first one if they cannot be ordered. -/
def Scalar.max (a b : α) : α :=
  if Scalar.less a b then b else a

/-- The smaller of two numbers; the first one if they cannot be ordered. -/
def Scalar.min (a b : α) : α :=
  if Scalar.less b a then b else a

end CommitLens
