import CommitLens.Proofs.Score.Double
import Mathlib.Algebra.Order.Field.Basic

/-!
# Numbers without rounding

Scores are reasoned about with exact numbers, two infinities and what is not a
number.  Main statements: which sums and which products are not a number, told from
what is added and multiplied.
-/

namespace CommitLens

/-- A number, an infinity, or what comes of an operation that has no result.  There is
one zero only. -/
inductive Extended (K : Type) where
  | finite (x : K)
  | infinite (negative : Bool)
  | notANumber
  deriving DecidableEq

namespace Extended

def IsFinite {K : Type} (a : Extended K) : Prop :=
  ∃ x, a = finite x

theorem not_isFinite_notANumber {K : Type} : ¬(notANumber : Extended K).IsFinite := by
  rintro ⟨x, h⟩
  cases h

theorem not_isFinite_infinite {K : Type} {s : Bool} : ¬(infinite s : Extended K).IsFinite := by
  rintro ⟨x, h⟩
  cases h

variable {K : Type} {a b : Extended K} {terms factors : List (Extended K)}

/-! ## Order -/

section Order

variable [LinearOrder K]

/-- What is not a number is not less than anything, and nothing is less than it. -/
def less : Extended K → Extended K → Bool
  | finite x, finite y => x < y
  | infinite true, finite _ | infinite true, infinite false | finite _, infinite false => true
  | _, _ => false

theorem less_notANumber_left : less notANumber a = false := by
  cases a <;> rfl

theorem less_notANumber_right : less a notANumber = false := by
  cases a with
  | finite => rfl
  | infinite s => cases s <;> rfl
  | notANumber => rfl

/-- What is neither below a range nor above it is in the range if it is a number at all. -/
theorem exists_of_less_eq_false {low high : K} (hn : a ≠ notANumber)
    (hl : less a (finite low) = false) (hh : less (finite high) a = false) :
    ∃ x, a = finite x ∧ low ≤ x ∧ x ≤ high := by
  cases a with
  | notANumber => contradiction
  | infinite s => cases s <;> contradiction
  | finite x =>
      exact ⟨x, rfl, not_lt.mp (of_decide_eq_false hl), not_lt.mp (of_decide_eq_false hh)⟩

end Order

/-! ## Sums -/

/-- Terms with a sum: each one is a number or infinite, and no two are opposite. -/
def Summable (terms : List (Extended K)) : Prop :=
  notANumber ∉ terms ∧ ¬(infinite true ∈ terms ∧ infinite false ∈ terms)

theorem summable_finite_cons {x : K} : Summable (finite x :: terms) ↔ Summable terms := by
  simp [Summable]

section Sums

variable [Field K]

def add : Extended K → Extended K → Extended K
  | finite x, finite y => finite (x + y)
  | infinite s, infinite t => if s = t then infinite s else notANumber
  | infinite s, finite _ | finite _, infinite s => infinite s
  | _, _ => notANumber

theorem summable_add_cons : Summable (add a b :: terms) ↔ Summable (a :: b :: terms) := by
  unfold Summable
  cases a <;> cases b <;> simp [add]
  case infinite.infinite s t => cases s <;> cases t <;> simp

theorem foldl_add_eq_notANumber_iff :
    terms.foldl add a = notANumber ↔ ¬Summable (a :: terms) := by
  induction terms generalizing a with
  | nil => cases a <;> simp [Summable]
  | cons term rest ih => rw [List.foldl_cons, ih, summable_add_cons]

theorem isFinite_foldl_add (ha : a.IsFinite) (h : ∀ term ∈ terms, term.IsFinite) :
    (terms.foldl add a).IsFinite := by
  induction terms generalizing a with
  | nil => exact ha
  | cons term rest ih =>
      obtain ⟨x, rfl⟩ := ha
      obtain ⟨y, rfl⟩ := h term List.mem_cons_self
      exact ih ⟨x + y, rfl⟩ fun other ho => h other (List.mem_cons_of_mem _ ho)

end Sums

/-! ## Products -/

section Products

variable [Field K]

/-- Factors with a product: each one is a number or infinite, and if one is infinite then
none is zero. -/
def Multipliable (factors : List (Extended K)) : Prop :=
  notANumber ∉ factors ∧ ∀ s, infinite s ∈ factors → finite 0 ∉ factors

theorem multipliable_infinite_cons {s : Bool} :
    Multipliable (infinite s :: factors) ↔ notANumber ∉ factors ∧ finite 0 ∉ factors := by
  simp only [Multipliable, List.mem_cons, reduceCtorEq, false_or, infinite.injEq]
  constructor
  · rintro ⟨hn, hz⟩
    exact ⟨hn, hz s (.inl rfl)⟩
  · rintro ⟨hn, hz⟩
    exact ⟨hn, fun _ _ => hz⟩

theorem multipliable_cons_swap :
    Multipliable (a :: b :: factors) ↔ Multipliable (b :: a :: factors) := by
  simp only [Multipliable, (List.Perm.swap a b factors).mem_iff]

variable [LinearOrder K]

def mul : Extended K → Extended K → Extended K
  | finite x, finite y => finite (x * y)
  | infinite s, infinite t => infinite (s != t)
  | infinite s, finite x | finite x, infinite s =>
      if x = 0 then notANumber else infinite (s != decide (x < 0))
  | _, _ => notANumber

/-- A product has a zero if one of its numbers has, and an infinity stays one next to what
is not zero. -/
theorem multipliable_mul_cons :
    Multipliable (mul a b :: factors) ↔ Multipliable (a :: b :: factors) := by
  have mixed (s : Bool) (x : K) : Multipliable (mul (infinite s) (finite x) :: factors) ↔
      Multipliable (infinite s :: finite x :: factors) := by
    rw [multipliable_infinite_cons]
    by_cases h : x = 0
    · simp [mul, h, Multipliable]
    · simp [mul, h, multipliable_infinite_cons, Ne.symm h]
  cases a with
  | notANumber => simp [mul, Multipliable]
  | infinite s =>
      cases b with
      | notANumber => simp [mul, Multipliable]
      | infinite t => simp [mul, multipliable_infinite_cons]
      | finite x => exact mixed s x
  | finite x =>
      cases b with
      | notANumber => simp [mul, Multipliable]
      | infinite s => exact (mixed s x).trans multipliable_cons_swap
      | finite y =>
          have zero : finite 0 = finite (x * y) ↔ finite 0 = finite x ∨ finite 0 = finite y := by
            simp only [finite.injEq, eq_comm (a := (0 : K)), mul_eq_zero]
          simp only [mul, Multipliable, List.mem_cons, reduceCtorEq, false_or, zero, or_assoc]

theorem IsFinite.mul (ha : a.IsFinite) (hb : b.IsFinite) : (mul a b).IsFinite := by
  obtain ⟨x, rfl⟩ := ha
  obtain ⟨y, rfl⟩ := hb
  exact ⟨x * y, rfl⟩

theorem foldl_mul_eq_notANumber_iff :
    factors.foldl mul a = notANumber ↔ ¬Multipliable (a :: factors) := by
  induction factors generalizing a with
  | nil => cases a <;> simp [Multipliable]
  | cons factor rest ih => rw [List.foldl_cons, ih, multipliable_mul_cons]

/-- Nothing is divided by zero: for that its sign would have to be known. -/
def inverse : Extended K → Extended K
  | finite x => if x = 0 then notANumber else finite x⁻¹
  | infinite _ => finite 0
  | notANumber => notANumber

/-- A quotient by a number is not a number only if what is divided is not. -/
theorem mul_inverse_eq_notANumber_iff {x : K} (hx : x ≠ 0) :
    mul a (inverse (finite x)) = notANumber ↔ a = notANumber := by
  cases a <;> simp [mul, inverse, hx]

/-! A positive number changes nothing in what kind of number a factor is. -/

theorem mul_pos_eq_notANumber_iff {x : K} (hx : 0 < x) :
    mul (finite x) a = notANumber ↔ a = notANumber := by
  cases a <;> simp [mul, hx.ne']

theorem mul_pos_eq_infinite_iff {x : K} (hx : 0 < x) {s : Bool} :
    mul (finite x) a = infinite s ↔ a = infinite s := by
  cases a <;> simp [mul, hx.ne', not_lt.mpr hx.le]

theorem summable_mul_pos {ι : Type} {items : List ι} {f g : ι → Extended K}
    (h : ∀ item ∈ items, ∃ x, 0 < x ∧ f item = finite x) :
    Summable (items.map fun item => mul (f item) (g item)) ↔ Summable (items.map g) := by
  have nan : notANumber ∈ (items.map fun item => mul (f item) (g item)) ↔
      notANumber ∈ items.map g := by
    simp only [List.mem_map]
    refine exists_congr fun item => and_congr_right fun hm => ?_
    obtain ⟨x, hx, he⟩ := h item hm
    rw [he, mul_pos_eq_notANumber_iff hx]
  have infinity (s : Bool) : infinite s ∈ (items.map fun item => mul (f item) (g item)) ↔
      infinite s ∈ items.map g := by
    simp only [List.mem_map]
    refine exists_congr fun item => and_congr_right fun hm => ?_
    obtain ⟨x, hx, he⟩ := h item hm
    rw [he, mul_pos_eq_infinite_iff hx]
  rw [Summable, Summable, nan, infinity, infinity]

end Products

/-! ## Scores -/

section Scores

variable [Field K]

/-- What a double stands for. -/
def ofFloat (x : Float) : Extended K :=
  match Decimal.Binary.ofFloat x with
  | .finite negative mantissa exponent =>
      finite ((if negative then -1 else 1) * mantissa * 2 ^ exponent)
  | .infinite negative => infinite negative
  | .notANumber => notANumber

theorem isFinite_ofFloat {x : Float} (h : x.isFinite = true) :
    (ofFloat x : Extended K).IsFinite := by
  obtain ⟨negative, mantissa, exponent, he⟩ := Decimal.Binary.ofFloat_eq_finite_iff.mpr h
  unfold ofFloat
  rw [he]
  exact ⟨_, rfl⟩

theorem ofFloat_eq_notANumber_iff {x : Float} :
    (ofFloat x : Extended K) = notANumber ↔ x.isNaN = true := by
  rw [← Decimal.Binary.ofFloat_eq_notANumber_iff]
  unfold ofFloat
  cases Decimal.Binary.ofFloat x <;> simp

variable [LinearOrder K]

instance : Scalar (Extended K) where
  ofInt n := finite n
  decimal mantissa places := finite (mantissa / 10 ^ places)
  add := add
  mul := mul
  div a b := mul a (inverse b)
  less := less

theorem decimal_whole (n : Nat) : (Scalar.decimal n 0 : Extended K) = finite (n : K) := by
  show finite ((n : K) / 10 ^ 0) = finite (n : K)
  rw [pow_zero, div_one]

theorem decimal_zero : (Scalar.decimal 0 0 : Extended K) = finite 0 := by
  rw [decimal_whole, Nat.cast_zero]

theorem decimal_ten : (Scalar.decimal 10 0 : Extended K) = finite 10 := by
  rw [decimal_whole, Nat.cast_ofNat]

end Scores

end Extended

end CommitLens
