import CommitLens.Decimal.Shortest
import CommitLens.Proofs.Score.Double
import Mathlib.Algebra.Order.Field.Power
import Mathlib.Algebra.Order.Field.Rat
import Mathlib.Tactic.Linarith
import Mathlib.Tactic.Ring

/-!
# Values of fractions and of doubles

A double is read off its fields as a canonical pair of mantissa and exponent.  Main
statements: the tests on fractions are those on rational numbers, the intervals that the
shortest digits are looked for in are those of the numbers nearest to a double, doubles are
in the order of their values, and a finite double is determined by its parts.
-/

namespace CommitLens.Decimal

open Float.Model (Format UnpackedFloat)
open Float.Model.UnpackedFloat (Sign packComponents unpackExponent unpackMantissa unpackSign)

/-! ## Fractions -/

namespace Fraction

/-- The rational number. -/
def value (a : Fraction) : ℚ :=
  a.num / a.den

variable {a b : Fraction}

@[simp] theorem value_mul (a b : Fraction) : (a.mul b).value = a.value * b.value := by
  simp [mul, value, div_mul_div_comm]

theorem den_scaled_pos {mantissa base : Nat} {exponent : Int} (h : 0 < base) :
    0 < (scaled mantissa base exponent).den := by
  unfold scaled
  split
  · exact Nat.one_pos
  · exact Nat.pow_pos h

theorem value_scaled (mantissa base : Nat) (exponent : Int) :
    (scaled mantissa base exponent).value = mantissa * (base : ℚ) ^ exponent := by
  unfold scaled
  split
  · rename_i nonneg
    obtain ⟨n, rfl⟩ := Int.eq_ofNat_of_zero_le nonneg
    simp [value]
  · rename_i negative
    obtain ⟨n, rfl⟩ : ∃ n : Nat, exponent = -n := ⟨exponent.natAbs, by omega⟩
    simp [value, div_eq_mul_inv]

theorem value_lt_iff (ha : 0 < a.den) (hb : 0 < b.den) : a.lt b = true ↔ a.value < b.value := by
  rw [value, value, div_lt_div_iff₀ (by positivity) (by positivity), lt, decide_eq_true_iff]
  norm_cast

theorem value_le_iff (ha : 0 < a.den) (hb : 0 < b.den) : a.le b = true ↔ a.value ≤ b.value := by
  rw [value, value, div_le_div_iff₀ (by positivity) (by positivity), le, decide_eq_true_iff]
  norm_cast

/-- Rounding a fraction moves it by half a unit at most. -/
theorem abs_value_sub_roundHalfEven (h : 0 < a.den) : |a.value - a.roundHalfEven| ≤ 1 / 2 := by
  obtain ⟨low, high⟩ := roundHalfEven_within a h
  have den : (0 : ℚ) < a.den := Nat.cast_pos.mpr h
  have lowQ : (2 : ℚ) * a.num ≤ 2 * a.roundHalfEven * a.den + a.den := by exact_mod_cast low
  have highQ : (2 : ℚ) * a.roundHalfEven * a.den ≤ 2 * a.num + a.den := by exact_mod_cast high
  rw [abs_le, value]
  constructor
  · rw [le_sub_iff_add_le, le_div_iff₀ den]
    linarith
  · rw [sub_le_iff_le_add, div_le_iff₀ den]
    linarith

theorem roundHalfEven_eq_floor (a : Fraction) :
    a.roundHalfEven = a.floor ∨ a.roundHalfEven = a.floor + 1 := by
  unfold roundHalfEven floor
  dsimp only
  split
  · exact .inl rfl
  · split
    · exact .inr rfl
    · rcases Nat.mod_two_eq_zero_or_one (a.num / a.den) with even | odd
      · exact .inl (by rw [even, Nat.add_zero])
      · exact .inr (by rw [odd])

end Fraction

/-! ## Rounding intervals -/

/-- Mantissa and exponent as the fields of a double have them: 53 bits, less only with the
least exponent. -/
structure Canonical (mantissa : Nat) (exponent : Int) : Prop where
  bits : mantissa < 2 ^ 53
  least : -1074 ≤ exponent
  full : exponent = -1074 ∨ 2 ^ 52 ≤ mantissa

/-- How far below a mantissa, in units of its last place, the numbers reach that round to
it.  Below a power of two the doubles are closer together. -/
def reach (mantissa : Nat) (exponent : Int) : ℚ :=
  if mantissa = 2 ^ 52 ∧ -1074 < exponent then 1 / 4 else 1 / 2

/-- The number is nearest to `mantissa * 2 ^ exponent`, or halfway to another double and the
mantissa is even. -/
structure Reads (mantissa : Nat) (exponent : Int) (number : ℚ) : Prop where
  low : (mantissa - reach mantissa exponent) * 2 ^ exponent ≤ number
  high : number ≤ (mantissa + 1 / 2) * 2 ^ exponent
  inside : mantissa % 2 = 1 →
    (mantissa - reach mantissa exponent) * 2 ^ exponent < number ∧
      number < (mantissa + 1 / 2) * 2 ^ exponent

section Intervals

variable {mantissa : Nat} {exponent : Int} {number : ℚ}

theorem reach_pos (mantissa : Nat) (exponent : Int) : 0 < reach mantissa exponent := by
  unfold reach
  split <;> norm_num

theorem reach_le (mantissa : Nat) (exponent : Int) : reach mantissa exponent ≤ 1 / 2 := by
  unfold reach
  split <;> norm_num

/-- A double reads back from its own value. -/
theorem reads_self (mantissa : Nat) (exponent : Int) :
    Reads mantissa exponent (mantissa * 2 ^ exponent) := by
  have unit : (0 : ℚ) < 2 ^ exponent := by positivity
  have pos := reach_pos mantissa exponent
  have low : (mantissa - reach mantissa exponent) * 2 ^ exponent < (mantissa : ℚ) * 2 ^ exponent :=
    mul_lt_mul_of_pos_right (by linarith) unit
  have high : (mantissa : ℚ) * 2 ^ exponent < (mantissa + 1 / 2) * 2 ^ exponent :=
    mul_lt_mul_of_pos_right (by linarith) unit
  exact ⟨low.le, high.le, fun _ => ⟨low, high⟩⟩

theorem value_low (h : mantissa ≠ 0) :
    (RoundingInterval.of mantissa exponent).low.value =
      (mantissa - reach mantissa exponent) * 2 ^ exponent := by
  have quarter : (2 : ℚ) ^ (exponent - 2) = 2 ^ exponent / 4 := by
    rw [zpow_sub₀ two_ne_zero]
    norm_num
  unfold RoundingInterval.of reach
  dsimp only
  rw [Fraction.value_scaled, Nat.cast_sub (by split <;> omega), Nat.cast_ofNat, quarter]
  have powers : Nat.pow 2 52 = 2 ^ 52 := rfl
  rw [powers]
  split <;> push_cast <;> ring

theorem value_high :
    (RoundingInterval.of mantissa exponent).high.value = (mantissa + 1 / 2) * 2 ^ exponent := by
  have quarter : (2 : ℚ) ^ (exponent - 2) = 2 ^ exponent / 4 := by
    rw [zpow_sub₀ two_ne_zero]
    norm_num
  unfold RoundingInterval.of
  dsimp only
  rw [Fraction.value_scaled, Nat.cast_ofNat, quarter]
  push_cast
  ring

/-- What the test says that the shortest digits have to pass. -/
theorem holds_iff_reads (h : mantissa ≠ 0) {x : Fraction} (hx : 0 < x.den) :
    (RoundingInterval.of mantissa exponent).holds x = true ↔ Reads mantissa exponent x.value := by
  have lowDen : 0 < (RoundingInterval.of mantissa exponent).low.den :=
    Fraction.den_scaled_pos two_pos
  have highDen : 0 < (RoundingInterval.of mantissa exponent).high.den :=
    Fraction.den_scaled_pos two_pos
  have parity : (RoundingInterval.of mantissa exponent).closed = true ↔ mantissa % 2 = 0 :=
    decide_eq_true_iff
  unfold RoundingInterval.holds
  split
  · rename_i even
    rw [Bool.and_eq_true, Fraction.value_le_iff lowDen hx, Fraction.value_le_iff hx highDen,
      value_low h, value_high]
    refine ⟨fun both => ⟨both.1, both.2, fun odd => ?_⟩, fun reads => ⟨reads.low, reads.high⟩⟩
    have := parity.mp even
    omega
  · rename_i odd
    rw [Bool.and_eq_true, Fraction.value_lt_iff lowDen hx, Fraction.value_lt_iff hx highDen,
      value_low h, value_high]
    refine ⟨fun both => ⟨both.1.le, both.2.le, fun _ => both⟩, fun reads => reads.inside ?_⟩
    have := mt parity.mpr odd
    omega

end Intervals

/-! ## Fields -/

def signOf (negative : Bool) : Sign :=
  if negative then .negative else .positive

/-- The parts of a number in unpacked form. -/
def unpacked (sign : Sign) (mantissa : Nat) (exponent : Int) : UnpackedFloat :=
  if h : mantissa = 0 then .zero sign
  else .finite sign mantissa exponent (Nat.pos_of_ne_zero h)

theorem unpacked_zero (sign : Sign) (exponent : Int) : unpacked sign 0 exponent = .zero sign :=
  dif_pos rfl

theorem unpacked_of_ne {mantissa : Nat} (ne : mantissa ≠ 0) (sign : Sign) (exponent : Int) :
    unpacked sign mantissa exponent = .finite sign mantissa exponent (Nat.pos_of_ne_zero ne) :=
  dif_neg ne

section Fields

variable {x y : Float} {negative : Bool} {mantissa : Nat} {exponent : Int}

theorem ofBitVec_unpackSign (x : Float) :
    Sign.ofBitVec (@unpackSign Format.binary64 x.toModel.toBits.toBitVec) =
      signOf (decide (Nat.pow 2 63 ≤ x.toBits.toNat)) := by
  have bound : x.toBits.toNat < 2 ^ 64 := x.toBits.toNat_lt
  have bit : (@unpackSign Format.binary64 x.toModel.toBits.toBitVec).toNat =
      x.toBits.toNat / 2 ^ 63 := by
    unfold unpackSign
    rw [BitVec.toNat_cast]
    show (BitVec.extractLsb 63 63 x.toModel.toBits.toBitVec).toNat = _
    rw [BitVec.extractLsb_toNat, Nat.shiftRight_eq_div_pow]
    exact Nat.mod_eq_of_lt (by omega)
  have powers : Nat.pow 2 63 = 2 ^ 63 := rfl
  have zero : @unpackSign Format.binary64 x.toModel.toBits.toBitVec = 0#1 ↔
      ¬Nat.pow 2 63 ≤ x.toBits.toNat := by
    rw [← BitVec.toNat_inj, bit, powers]
    simp only [BitVec.toNat_ofNat, Nat.zero_mod]
    omega
  by_cases negative : Nat.pow 2 63 ≤ x.toBits.toNat
  · rw [Sign.ofBitVec, if_neg (fun h => zero.mp h negative), decide_eq_true negative]
    rfl
  · rw [Sign.ofBitVec, if_pos (zero.mpr negative), decide_eq_false negative]
    rfl

theorem toNat_withImplicit {bits : Nat} (b : BitVec bits) :
    (1#1 ++ b).toNat = b.toNat + 2 ^ bits := by
  rw [BitVec.toNat_append, ← Nat.shiftLeft_add_eq_or_of_lt b.isLt]
  simp [Nat.shiftLeft_eq, Nat.add_comm]

/-- The fields of a finite double, in range and canonical. -/
theorem canonical_of_ofFloat (h : Binary.ofFloat x = .finite negative mantissa exponent) :
    Canonical mantissa exponent ∧ exponent ≤ 971 := by
  unfold Binary.ofFloat at h
  dsimp only at h
  have fraction : x.toBits.toNat % Nat.pow 2 52 < 2 ^ 52 := Nat.mod_lt _ (by decide)
  have biased : x.toBits.toNat / Nat.pow 2 52 % Nat.pow 2 11 < 2048 := Nat.mod_lt _ (by decide)
  have powers : Nat.pow 2 52 = 2 ^ 52 := rfl
  split at h
  · split at h <;> contradiction
  · split at h
    · cases h
      exact ⟨⟨by omega, by omega, .inl rfl⟩, by omega⟩
    · cases h
      exact ⟨⟨by omega, by omega, .inr (by omega)⟩, by omega⟩

/-- The unpacked form of a finite double. -/
theorem unpack_of_ofFloat (h : Binary.ofFloat x = .finite negative mantissa exponent) :
    x.toModel.unpack = unpacked (signOf negative) mantissa exponent := by
  have exponentField := toNat_unpackExponent x
  have mantissaField := toNat_unpackMantissa x
  have fraction : x.toBits.toNat % Nat.pow 2 52 < 2 ^ 52 := Nat.mod_lt _ (by decide)
  have full : @unpackExponent Format.binary64 x.toModel.toBits.toBitVec = -1#_ ↔
      x.toBits.toNat / Nat.pow 2 52 % Nat.pow 2 11 = 2047 := by
    rw [← exponentField, ← BitVec.toNat_inj]
    rfl
  have least : @unpackExponent Format.binary64 x.toModel.toBits.toBitVec = 0#_ ↔
      x.toBits.toNat / Nat.pow 2 52 % Nat.pow 2 11 = 0 := by
    rw [← exponentField, ← BitVec.toNat_inj]
    rfl
  have none : @unpackMantissa Format.binary64 x.toModel.toBits.toBitVec = 0#_ ↔
      x.toBits.toNat % Nat.pow 2 52 = 0 := by
    rw [← mantissaField, ← BitVec.toNat_inj]
    rfl
  have bias : ((Format.binary64.exponentBias : Int) +
      (Format.binary64.mantissaBitsWithoutImplicit : Int)) = 1075 := rfl
  unfold Binary.ofFloat at h
  dsimp only at h
  show UnpackedFloat.unpack Format.binary64 x.toModel.toBits.toBitVec = _
  unfold UnpackedFloat.unpack
  dsimp only
  rw [ofBitVec_unpackSign, bias]
  split at h
  · split at h <;> contradiction
  · rename_i notFull
    rw [if_neg (mt full.mp notFull)]
    split at h
    · rename_i isLeast
      rw [if_pos (least.mpr isLeast), exponentField, isLeast]
      cases h
      by_cases zero : x.toBits.toNat % Nat.pow 2 52 = 0
      · rw [dif_pos (none.mpr zero), zero, unpacked_zero]
      · rw [dif_neg (mt none.mp zero), unpacked_of_ne zero]
        congr
    · rename_i notLeast
      rw [if_neg (mt least.mp notLeast)]
      cases h
      rw [unpacked_of_ne (by have : Nat.pow 2 52 = 2 ^ 52 := rfl; omega)]
      congr 1
      · rw [toNat_withImplicit, mantissaField]
        rfl
      · rw [exponentField]

end Fields

/-! ## Order -/

/-- The number that the parts stand for; zero if they do not stand for one. -/
def Binary.value : Binary → ℚ
  | .finite negative mantissa exponent =>
      (if negative then -1 else 1) * (mantissa * 2 ^ exponent)
  | _ => 0

def valueOf (x : Float) : ℚ :=
  (Binary.ofFloat x).value

section Order

variable {m n : Nat} {e f : Int}

/-- Canonical numbers are in the order of their exponents first. -/
theorem value_lt_of_exponent_lt (hm : Canonical m e) (hn : Canonical n f) (h : e < f) :
    (m : ℚ) * 2 ^ e < n * 2 ^ f := by
  have small : (m : ℚ) < 2 ^ 53 := by exact_mod_cast hm.bits
  have large : (2 : ℚ) ^ 52 ≤ n := by
    have full := hn.full.resolve_left (by have := hm.least; omega)
    exact_mod_cast full
  have step : (2 : ℚ) * 2 ^ e ≤ 2 ^ f := by
    rw [mul_comm, ← zpow_add_one₀ two_ne_zero]
    exact zpow_le_zpow_right₀ one_le_two (by omega)
  calc (m : ℚ) * 2 ^ e < 2 ^ 53 * 2 ^ e := mul_lt_mul_of_pos_right small (by positivity)
    _ = 2 ^ 52 * (2 * 2 ^ e) := by ring
    _ ≤ n * 2 ^ f := mul_le_mul large step (by positivity) (by positivity)

/-- Comparing exponents first and mantissas then is comparing values. -/
theorem compare_eq_lt_iff (hm : Canonical m e) (hn : Canonical n f) :
    (compare e f).then (compare m n) = .lt ↔ (m : ℚ) * 2 ^ e < n * 2 ^ f := by
  rcases lt_trichotomy e f with below | rfl | above
  · simp [compare_lt_iff_lt.mpr below, value_lt_of_exponent_lt hm hn below]
  · have unit : (0 : ℚ) < 2 ^ e := by positivity
    rw [compare_eq_iff_eq.mpr rfl, mul_lt_mul_iff_left₀ unit, Nat.cast_lt, ← compare_lt_iff_lt]
    rfl
  · have other := (value_lt_of_exponent_lt hn hm above).not_gt
    simp [compare_gt_iff_gt.mpr above, other]

theorem compare_unpacked_eq_lt_iff (hm : Canonical m e) (hn : Canonical n f) (s t : Bool) :
    (unpacked (signOf s) m e).compare (unpacked (signOf t) n f) = some .lt ↔
      (Binary.finite s m e).value < (Binary.finite t n f).value := by
  have pos {k : Nat} (hk : k ≠ 0) (g : Int) : (0 : ℚ) < k * 2 ^ g :=
    mul_pos (by exact_mod_cast Nat.pos_of_ne_zero hk) (by positivity)
  have swapped {o : Ordering} : o.swap = .lt ↔ o = .gt := by cases o <;> simp
  have gt_iff : (compare e f).then (compare m n) = .gt ↔ (n : ℚ) * 2 ^ f < m * 2 ^ e := by
    rw [← compare_eq_lt_iff hn hm, Std.OrientedOrd.eq_swap (a := f), Std.OrientedOrd.eq_swap (a := n),
      ← Ordering.swap_then, swapped]
  unfold Binary.value
  by_cases m0 : m = 0 <;> by_cases n0 : n = 0
  · subst m0 n0
    rw [unpacked_zero, unpacked_zero]
    show some Ordering.eq = some .lt ↔ _
    simp
  · subst m0
    have := pos n0 f
    rw [unpacked_zero, unpacked_of_ne n0]
    cases t
    · show some Ordering.lt = some .lt ↔ _
      simpa using this
    · show some Ordering.gt = some .lt ↔ _
      simpa using this.le
  · subst n0
    have := pos m0 e
    rw [unpacked_zero, unpacked_of_ne m0]
    cases s
    · show some Ordering.gt = some .lt ↔ _
      simpa using this.le
    · show some Ordering.lt = some .lt ↔ _
      simpa using this
  · have hm0 := pos m0 e
    have hn0 := pos n0 f
    rw [unpacked_of_ne m0, unpacked_of_ne n0]
    cases s <;> cases t
    · show some ((compare e f).then (compare m n)) = some .lt ↔ _
      simpa using compare_eq_lt_iff hm hn
    · show some Ordering.gt = some .lt ↔ _
      simp
      linarith
    · show some Ordering.lt = some .lt ↔ _
      simp
      linarith
    · show some ((compare e f).then (compare m n)).swap = some .lt ↔ _
      simpa [swapped] using gt_iff

variable {x y : Float}

/-- Finite doubles are in the order of their values. -/
theorem lt_iff_valueOf_lt (hx : x.isFinite = true) (hy : y.isFinite = true) :
    x < y ↔ valueOf x < valueOf y := by
  obtain ⟨s, m, e, hx⟩ := Binary.ofFloat_eq_finite_iff.mpr hx
  obtain ⟨t, n, f, hy⟩ := Binary.ofFloat_eq_finite_iff.mpr hy
  have hm := (canonical_of_ofFloat hx).1
  have hn := (canonical_of_ofFloat hy).1
  rw [lt_iff_compare, unpack_of_ofFloat hx, unpack_of_ofFloat hy, valueOf, valueOf, hx, hy]
  exact compare_unpacked_eq_lt_iff hm hn s t

end Order

/-! ## Bits -/

/-- The double with the parts. -/
def double (negative : Bool) (mantissa : Nat) (exponent : Int) : Float :=
  .ofModel (.pack (unpacked (signOf negative) mantissa exponent))

section Bits

variable {negative : Bool} {m : Nat} {e : Int}

theorem toNat_packComponents (negative : Bool) (e : BitVec 11) (m : BitVec 52) :
    (packComponents Format.binary64 (signOf negative) e m).toNat =
      (if negative then 2 ^ 63 else 0) + e.toNat * 2 ^ 52 + m.toNat := by
  have step {a b : Nat} (x : BitVec a) (y : BitVec b) :
      (x ++ y).toNat = x.toNat * 2 ^ b + y.toNat := by
    rw [BitVec.toNat_append, ← Nat.shiftLeft_add_eq_or_of_lt y.isLt, Nat.shiftLeft_eq]
  show ((signOf negative).toBitVec ++ e ++ m : BitVec (1 + 11 + 52)).toNat = _
  rw [step, step, Nat.add_mul, Nat.mul_assoc]
  cases negative <;> rfl

theorem toNat_toBits_double (h : Canonical m e) (he : e ≤ 971) :
    (double negative m e).toBits.toNat = (if negative then 2 ^ 63 else 0) +
      if m < 2 ^ 52 then m else (e + 1075).toNat * 2 ^ 52 + (m - 2 ^ 52) := by
  have bits : m < 2 ^ 53 := h.bits
  have least : -1074 ≤ e := h.least
  show (UnpackedFloat.pack Format.binary64 (unpacked (signOf negative) m e)).toNat = _
  by_cases zero : m = 0
  · subst zero
    show (packComponents Format.binary64 (signOf negative) 0 0).toNat = _
    rw [toNat_packComponents]
    simp
  rw [unpacked_of_ne zero]
  have bias : e + (Format.binary64.exponentBias : Int) +
      (Format.binary64.mantissaBitsWithoutImplicit : Int) = e + 1075 := by
    rw [add_assoc]
    rfl
  have width : Format.binary64.mantissaBits = 53 := rfl
  unfold UnpackedFloat.pack
  dsimp only
  rw [bias, width, if_neg (show ¬2 ^ 11 ≤ (e + 1075).toNat + 1 by omega)]
  by_cases small : m < 2 ^ 52
  · have log : m.log2 < 52 := (Nat.log2_lt zero).mpr small
    rw [if_neg (by omega), toNat_packComponents, if_pos small, BitVec.toNat_ofNat,
      BitVec.toNat_ofNat, Nat.mod_eq_of_lt small]
    simp
  · have log : m.log2 = 52 :=
      (Nat.log2_eq_iff zero).mpr ⟨Nat.le_of_not_lt small, bits⟩
    rw [if_pos (by omega), toNat_packComponents, if_neg small, BitVec.toNat_ofNat,
      BitVec.toNat_ofNat, Nat.mod_eq_of_lt (show (e + 1075).toNat < 2 ^ 11 by omega), Nat.add_assoc]
    have rest : m % 2 ^ 52 = m - 2 ^ 52 := by omega
    rw [rest]

theorem ofFloat_double (h : Canonical m e) (he : e ≤ 971) :
    Binary.ofFloat (double negative m e) = .finite negative m e := by
  have bits : m < 2 ^ 53 := h.bits
  have least : -1074 ≤ e := h.least
  have powers : Nat.pow 2 52 = 2 ^ 52 ∧ Nat.pow 2 63 = 2 ^ 63 ∧ Nat.pow 2 11 = 2 ^ 11 :=
    ⟨rfl, rfl, rfl⟩
  unfold Binary.ofFloat
  dsimp only
  rw [toNat_toBits_double h he, powers.1, powers.2.1, powers.2.2]
  have sign : (if negative then 2 ^ 63 else 0) = 2 ^ 63 ∧ negative = true ∨
      (if negative then 2 ^ 63 else 0) = 0 ∧ negative = false := by
    cases negative <;> simp
  generalize (if negative then 2 ^ 63 else 0) = signBits at sign ⊢
  by_cases small : m < 2 ^ 52
  · rw [if_pos small]
    have exponentBits : (signBits + m) / 2 ^ 52 % 2 ^ 11 = 0 := by omega
    have rest : (signBits + m) % 2 ^ 52 = m := by omega
    have top : decide (2 ^ 63 ≤ signBits + m) = negative := by
      rcases sign with ⟨_, rfl⟩ | ⟨_, rfl⟩ <;> simp <;> omega
    have full := h.full.resolve_right (by omega)
    rw [exponentBits, rest, top, if_neg (by decide), if_pos rfl, full]
  · rw [if_neg small]
    obtain ⟨k, hk⟩ : ∃ k : Nat, (e + 1075).toNat = k := ⟨_, rfl⟩
    have exponentBits : (signBits + (k * 2 ^ 52 + (m - 2 ^ 52))) / 2 ^ 52 % 2 ^ 11 = k := by omega
    have rest : (signBits + (k * 2 ^ 52 + (m - 2 ^ 52))) % 2 ^ 52 = m - 2 ^ 52 := by omega
    have top : decide (2 ^ 63 ≤ signBits + (k * 2 ^ 52 + (m - 2 ^ 52))) = negative := by
      rcases sign with ⟨_, rfl⟩ | ⟨_, rfl⟩ <;> simp <;> omega
    have unbiased : (k : Int) - 1075 = e := by omega
    rw [hk, exponentBits, rest, top, if_neg (by omega), if_neg (by omega),
      Nat.sub_add_cancel (Nat.le_of_not_lt small), unbiased]

theorem eq_of_toBits {x y : Float} (h : x.toBits = y.toBits) : x = y := by
  obtain ⟨⟨a, va⟩⟩ := x
  obtain ⟨⟨b, vb⟩⟩ := y
  obtain rfl : a = b := h
  rfl

/-- A finite double is determined by its parts. -/
theorem eq_double_of_ofFloat {x : Float} (h : Binary.ofFloat x = .finite negative m e) :
    x = double negative m e := by
  obtain ⟨canonical, bounded⟩ := canonical_of_ofFloat h
  refine eq_of_toBits (UInt64.toNat_inj.mp ?_)
  rw [toNat_toBits_double canonical bounded]
  have bound : x.toBits.toNat < 2 ^ 64 := x.toBits.toNat_lt
  have powers : Nat.pow 2 52 = 2 ^ 52 ∧ Nat.pow 2 63 = 2 ^ 63 ∧ Nat.pow 2 11 = 2 ^ 11 :=
    ⟨rfl, rfl, rfl⟩
  unfold Binary.ofFloat at h
  dsimp only at h
  rw [powers.1, powers.2.1, powers.2.2] at h
  generalize x.toBits.toNat = bits at h bound ⊢
  have sign : (if decide (2 ^ 63 ≤ bits) = true then 2 ^ 63 else 0) = bits / 2 ^ 63 * 2 ^ 63 := by
    by_cases top : 2 ^ 63 ≤ bits
    · rw [if_pos (decide_eq_true top)]
      omega
    · rw [if_neg (by simpa using top)]
      omega
  split at h
  · split at h <;> contradiction
  · split at h
    · cases h
      rw [sign, if_pos (by omega)]
      omega
    · cases h
      rw [sign, if_neg (by omega)]
      omega

theorem neg_double (h : Canonical m e) (he : e ≤ 971) :
    -double false m e = double true m e := by
  show Float.ofModel (.pack (double false m e).toModel.unpack.neg) = _
  rw [unpack_of_ofFloat (ofFloat_double h he), double]
  by_cases zero : m = 0
  · subst zero
    rw [unpacked_zero, unpacked_zero]
    rfl
  · rw [unpacked_of_ne zero, unpacked_of_ne zero]
    rfl

end Bits

end CommitLens.Decimal
