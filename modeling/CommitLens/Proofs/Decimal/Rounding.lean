import CommitLens.Proofs.Decimal.Value
import Mathlib.Algebra.Order.Field.Basic
import Mathlib.Tactic.FieldSimp

/-!
# Rounding of products and quotients

Arithmetic on doubles keeps a mantissa with two more bits: whether at least half a unit is
left over, and whether what is left over is neither nothing nor half a unit.  Main statement:
what a product or a quotient is rounded to is the double in whose rounding interval it is.
-/

namespace CommitLens.Decimal

open Float.Model (Format UnpackedFloat totalExponent)
open Float.Model.UnpackedFloat

/-! ## Mantissas with two more bits -/

/-- What a mantissa with its two more bits says about a number. -/
structure Represents (kept : ExtendedMantissa) (number : ℚ) : Prop where
  low : (kept.mantissa : ℚ) ≤ number
  high : number < kept.mantissa + 1
  roundBit : kept.roundBit = true ↔ (kept.mantissa : ℚ) + 1 / 2 ≤ number
  stickyBit : kept.stickyBit = false ↔ number = kept.mantissa ∨ number = kept.mantissa + 1 / 2

/-- The integer is nearest to the number; of two it is the even one. -/
structure Nearest (n : Nat) (number : ℚ) : Prop where
  within : |number - n| ≤ 1 / 2
  even : |number - n| = 1 / 2 → n % 2 = 0

section Mantissas

variable {kept : ExtendedMantissa} {number : ℚ} {m n : Nat}

theorem Nearest.eq (hm : Nearest m number) (hn : Nearest n number) : m = n := by
  obtain ⟨hm1, hm2⟩ := abs_le.mp hm.within
  obtain ⟨hn1, hn2⟩ := abs_le.mp hn.within
  have apart : (m : ℚ) ≤ n + 1 ∧ (n : ℚ) ≤ m + 1 := ⟨by linarith, by linarith⟩
  have apartNat : m ≤ n + 1 ∧ n ≤ m + 1 := by exact_mod_cast apart
  rcases Nat.lt_trichotomy m n with below | same | above
  · obtain rfl : n = m + 1 := by omega
    push_cast at hn1 hn2
    have half : number - m = 1 / 2 := by linarith
    have me := hm.even (by rw [half]; norm_num)
    have ne := hn.even (by push_cast; rw [show number - (m + 1 : ℚ) = -(1 / 2) by linarith]; norm_num)
    omega
  · exact same
  · obtain rfl : m = n + 1 := by omega
    push_cast at hm1 hm2
    have half : number - n = 1 / 2 := by linarith
    have ne := hn.even (by rw [half]; norm_num)
    have me := hm.even (by push_cast; rw [show number - (n + 1 : ℚ) = -(1 / 2) by linarith]; norm_num)
    omega

theorem represents_exact (m : Nat) : Represents (.ofMantissaAndAccuracy m .exact) m := by
  constructor <;> simp [ExtendedMantissa.ofMantissaAndAccuracy]

/-- Halving moves the last bit of the mantissa behind it. -/
theorem Represents.shiftRightOne (h : Represents kept number) :
    Represents kept.shiftRightOne (number / 2) := by
  obtain ⟨low, high, round, sticky⟩ := h
  obtain ⟨m, r, s⟩ := kept
  dsimp only at low high round sticky
  have parts : (m : ℚ) = 2 * (m / 2 : Nat) + (m % 2 : Nat) := by
    exact_mod_cast (Nat.div_add_mod m 2).symm
  have exact : (r || s) = false ↔ number = m := by
    rw [Bool.or_eq_false_iff, sticky, ← Bool.not_eq_true, round]
    constructor
    · rintro ⟨below, rfl | rfl⟩
      · rfl
      · exact absurd le_rfl below
    · rintro rfl
      exact ⟨by linarith, .inl rfl⟩
  show Represents ⟨m / 2, m % 2 != 0, r || s⟩ _
  -- the last bit is what decides about half a unit of the shorter mantissa
  rcases Nat.mod_two_eq_zero_or_one m with bit | bit
  · rw [bit, Nat.cast_zero, add_zero] at parts
    refine ⟨?_, ?_, ?_, ?_⟩
    · dsimp only
      linarith
    · dsimp only
      linarith
    · simp only [bit, bne_self_eq_false, Bool.false_eq_true, false_iff, not_le]
      linarith
    · rw [exact]
      constructor
      · rintro rfl
        exact .inl (by linarith)
      · rintro (same | half)
        · linarith
        · linarith
  · rw [bit, Nat.cast_one] at parts
    refine ⟨?_, ?_, ?_, ?_⟩
    · dsimp only
      linarith
    · dsimp only
      linarith
    · simp only [bit, bne_iff_ne, ne_eq, one_ne_zero, not_false_eq_true, true_iff]
      linarith
    · rw [exact]
      constructor
      · rintro rfl
        exact .inr (by linarith)
      · rintro (same | half)
        · linarith
        · linarith

theorem Represents.shiftRight (h : Represents kept number) (k : Nat) :
    Represents (kept >>> k) (number / 2 ^ k) := by
  show Represents (k.repeat ExtendedMantissa.shiftRightOne kept) _
  induction k with
  | zero => simpa [Nat.repeat] using h
  | succ k ih => simpa only [Nat.repeat, pow_succ, div_mul_eq_div_div] using ih.shiftRightOne

theorem Represents.nearest (h : Represents kept number) : Nearest kept.roundedMantissa number := by
  obtain ⟨low, high, round, sticky⟩ := h
  obtain ⟨m, r, s⟩ := kept
  dsimp only at low high round sticky
  have near {k : Nat} (lower : -(1 / 2) < number - k) (upper : number - k < 1 / 2) :
      Nearest k number := by
    have within : |number - k| < 1 / 2 := abs_lt.mpr ⟨lower, upper⟩
    exact ⟨within.le, fun half => absurd half within.ne⟩
  cases r with
  | false =>
      have below : number < m + 1 / 2 := by simpa using round
      have down : Nearest m number := near (by linarith) (by linarith)
      cases s <;> exact down
  | true =>
      have above : (m : ℚ) + 1 / 2 ≤ number := by simpa using round
      cases s with
      | false =>
          have half : number = m + 1 / 2 := (sticky.mp rfl).resolve_left (by linarith)
          subst half
          show Nearest (m + m % 2) _
          rcases Nat.mod_two_eq_zero_or_one m with bit | bit
          · rw [bit, Nat.add_zero]
            exact ⟨by norm_num, fun _ => bit⟩
          · rw [bit]
            refine ⟨?_, fun _ => by omega⟩
            rw [Nat.cast_add, Nat.cast_one, show (m : ℚ) + 1 / 2 - (m + 1) = -(1 / 2) by ring]
            norm_num
      | true =>
          have ne : number ≠ m + 1 / 2 := fun half => by simpa using sticky.mpr (.inr half)
          have more : (m : ℚ) + 1 / 2 < number := lt_of_le_of_ne above ne.symm
          show Nearest (m + 1) _
          refine near ?_ ?_ <;> push_cast <;> linarith

end Mantissas

/-! ## Rounding -/

theorem targetExponent_binary64 (t : Int) :
    Format.binary64.targetExponent t = max (t - 53) (-1074) := rfl

section Rounding

variable {m M : Nat} {e t E : Int} {accuracy : Accuracy} {number : ℚ}

theorem shiftToExponent_snd (h : e ≤ t) : (shiftToExponent m e accuracy t).2 = t := by
  show e + ((t - e).toNat : Int) = t
  omega

theorem represents_shiftToExponent (h : Represents (.ofMantissaAndAccuracy m accuracy) number)
    (he : e ≤ t) :
    Represents (shiftToExponent m e accuracy t).1 (number * 2 ^ e / 2 ^ t) := by
  obtain ⟨k, rfl⟩ : ∃ k : Nat, t = e + k := ⟨(t - e).toNat, by omega⟩
  have amount : (e + k - e).toNat = k := by omega
  have unit : number * 2 ^ e / 2 ^ (e + k : Int) = number / 2 ^ k := by
    rw [zpow_add₀ two_ne_zero, zpow_natCast, mul_comm number, mul_div_mul_left _ _ (by positivity)]
  show Represents (ExtendedMantissa.ofMantissaAndAccuracy m accuracy >>> (e + k - e).toNat) _
  rw [amount, unit]
  exact h.shiftRight k

/-- A number with enough bits fills those of a double, unless it is too small. -/
theorem bounds_of_represents (h : Represents (.ofMantissaAndAccuracy m accuracy) number)
    (ht : t = max (totalExponent m e - 53) (-1074)) (he : e ≤ t) :
    number * 2 ^ e < 2 ^ (t + 53) ∧ (t = -1074 ∨ 2 ^ (t + 52) ≤ number * 2 ^ e) := by
  have mantissa : (ExtendedMantissa.ofMantissaAndAccuracy m accuracy).mantissa = m := by
    unfold ExtendedMantissa.ofMantissaAndAccuracy
    split <;> rfl
  obtain ⟨low, high, -, -⟩ := h
  rw [mantissa] at low high
  have total : totalExponent m e = m.log2 + 1 + e := rfl
  rw [total] at ht
  constructor
  · have fits : (m : ℚ) + 1 ≤ 2 ^ (m.log2 + 1) := by exact_mod_cast Nat.lt_log2_self (n := m)
    calc number * 2 ^ e < (2 : ℚ) ^ (m.log2 + 1) * 2 ^ e :=
          mul_lt_mul_of_pos_right (by linarith) (by positivity)
      _ = 2 ^ ((m.log2 + 1 : Nat) + e : Int) := by rw [zpow_add₀ two_ne_zero, zpow_natCast]
      _ ≤ 2 ^ (t + 53) := zpow_le_zpow_right₀ one_le_two (by push_cast; omega)
  · by_cases least : t = -1074
    · exact .inl least
    · right
      have pos : m ≠ 0 := by
        rintro rfl
        simp at ht
        omega
      have fills : (2 : ℚ) ^ m.log2 ≤ m := by exact_mod_cast Nat.log2_self_le pos
      calc (2 : ℚ) ^ (t + 52) = 2 ^ ((m.log2 : Int) + e) := by congr 1; omega
        _ = 2 ^ m.log2 * 2 ^ e := by rw [zpow_add₀ two_ne_zero, zpow_natCast]
        _ ≤ number * 2 ^ e := mul_le_mul_of_nonneg_right (by linarith) (by positivity)

theorem two_zpow_add_natCast (a : Int) (b : Nat) : (2 : ℚ) ^ (a + b) = 2 ^ b * 2 ^ a := by
  rw [zpow_add₀ two_ne_zero, zpow_natCast, mul_comm]

/-- In the unit of the double it reads as, a number rounds to its mantissa. -/
theorem nearest_of_reads_unit (hR : Reads M t number) : Nearest M (number / 2 ^ t) := by
  have reach := reach_le M t
  have unit : (0 : ℚ) < 2 ^ t := by positivity
  have low : (M : ℚ) - Decimal.reach M t ≤ number / 2 ^ t := (le_div_iff₀ unit).mpr hR.low
  have high : number / 2 ^ t ≤ M + 1 / 2 := (div_le_iff₀ unit).mpr hR.high
  refine ⟨abs_le.mpr ⟨by linarith, by linarith⟩, fun tie => ?_⟩
  by_contra odd
  obtain ⟨inLow, inHigh⟩ := hR.inside (by omega)
  rw [← lt_div_iff₀ unit] at inLow
  rw [← div_lt_iff₀ unit] at inHigh
  have strict : |number / 2 ^ t - M| < 1 / 2 := abs_lt.mpr ⟨by linarith, by linarith⟩
  exact strict.ne tie

/-- In a smaller unit, a number rounds to the next power of two: the unit is half as great, and
the mantissa of the double is the least. -/
theorem nearest_of_reads_lower (hC : Canonical M E) (hR : Reads M E number)
    (least : -1074 ≤ t) (below : number < 2 ^ (t + 53)) (lower : t < E) :
    t + 1 = E ∧ M = 2 ^ 52 ∧ Nearest (2 ^ 53) (number / 2 ^ t) := by
  have reach := reach_le M E
  have unit : (0 : ℚ) < 2 ^ E := by positivity
  have full : 2 ^ 52 ≤ M := hC.full.resolve_left (by omega)
  have limit : number < 2 ^ 52 * 2 ^ E := by
    refine below.trans_le ?_
    rw [← two_zpow_add_natCast E 52]
    exact zpow_le_zpow_right₀ one_le_two (by push_cast; omega)
  have atMost : (M : ℚ) - 1 / 2 < 2 ^ 52 :=
    lt_of_mul_lt_mul_right (by nlinarith [hR.low]) unit.le
  obtain rfl : M = 2 ^ 52 := by
    have : (M : ℚ) < 2 ^ 52 + 1 := by linarith
    have : M < 2 ^ 52 + 1 := by exact_mod_cast this
    omega
  have quarter : Decimal.reach (2 ^ 52) E = 1 / 4 := if_pos ⟨rfl, by omega⟩
  have low := hR.low
  rw [quarter] at low
  obtain rfl : t + 1 = E := by
    by_contra ne
    have small : number < 2 ^ 51 * 2 ^ E := by
      refine below.trans_le ?_
      rw [← two_zpow_add_natCast E 51]
      exact zpow_le_zpow_right₀ one_le_two (by push_cast; omega)
    have : ((2 ^ 52 : Nat) : ℚ) - 1 / 4 < 2 ^ 51 :=
      lt_of_mul_lt_mul_right (low.trans_lt small) unit.le
    norm_num at this
  have half : (0 : ℚ) < 2 ^ t := by positivity
  refine ⟨rfl, rfl, ?_, fun _ => by norm_num⟩
  rw [zpow_add_one₀ two_ne_zero] at low
  have limit : number < 2 ^ 53 * 2 ^ t := below.trans_eq (two_zpow_add_natCast t 53)
  have lowUnit : (2 : ℚ) ^ 53 - 1 / 2 ≤ number / 2 ^ t := by
    rw [le_div_iff₀ half]
    push_cast at low
    linarith
  have highUnit : number / 2 ^ t < 2 ^ 53 := (div_lt_iff₀ half).mpr limit
  rw [abs_le]
  push_cast
  constructor <;> linarith

/-- A number that fills the bits of a unit reads as no double of a smaller one. -/
theorem le_of_reads_of_filled (hC : Canonical M E) (hR : Reads M E number)
    (above : t = -1074 ∨ 2 ^ (t + 52) ≤ number) : t ≤ E := by
  by_contra! higher
  have unit : (0 : ℚ) < 2 ^ E := by positivity
  have large := above.resolve_left (by have := hC.least; omega)
  have bits : (M : ℚ) + 1 ≤ 2 ^ 53 := by exact_mod_cast hC.bits
  have : (2 : ℚ) ^ 53 * 2 ^ E ≤ (M + 1 / 2) * 2 ^ E := by
    refine le_trans ?_ (large.trans hR.high)
    rw [← two_zpow_add_natCast E 53]
    exact zpow_le_zpow_right₀ one_le_two (by push_cast; omega)
  have := le_of_mul_le_mul_right this unit
  linarith

/-- In its own unit a number rounds to the mantissa of the double it reads as; just below a
power of two the unit is half as great. -/
theorem nearest_of_reads (hC : Canonical M E) (hR : Reads M E number)
    (least : -1074 ≤ t) (below : number < 2 ^ (t + 53))
    (above : t = -1074 ∨ 2 ^ (t + 52) ≤ number) :
    (t = E ∧ Nearest M (number / 2 ^ t)) ∨
      (t + 1 = E ∧ M = 2 ^ 52 ∧ Nearest (2 ^ 53) (number / 2 ^ t)) := by
  rcases (le_of_reads_of_filled hC hR above).eq_or_lt with rfl | lower
  · exact .inl ⟨rfl, nearest_of_reads_unit hR⟩
  · exact .inr (nearest_of_reads_lower hC hR least below lower)

theorem shiftToTargetExponent_of_lt (hm : m < 2 ^ 53) (he : -1074 ≤ e) :
    shiftToTargetExponent Format.binary64 m e .exact = (⟨m, false, false⟩, e) := by
  have log : m.log2 ≤ 52 := by
    by_cases zero : m = 0
    · subst zero
      decide
    · exact Nat.lt_succ_iff.mp ((Nat.log2_lt zero).mpr hm)
  have amount : (Format.binary64.targetExponent (totalExponent m e) - e).toNat = 0 := by
    rw [targetExponent_binary64, totalExponent]
    omega
  unfold shiftToTargetExponent shiftToExponent
  dsimp only
  rw [amount]
  simp [ExtendedMantissa.ofMantissaAndAccuracy, HShiftRight.hShiftRight, Nat.repeat]

theorem shiftToTargetExponent_of_carry (he : -1074 ≤ e) :
    shiftToTargetExponent Format.binary64 (2 ^ 53) e .exact = (⟨2 ^ 52, false, false⟩, e + 1) := by
  have amount : (Format.binary64.targetExponent (totalExponent (2 ^ 53) e) - e).toNat = 1 := by
    rw [targetExponent_binary64, totalExponent, Nat.log2_two_pow]
    omega
  unfold shiftToTargetExponent shiftToExponent
  dsimp only
  rw [amount]
  rfl

/-- What is rounded to is the double that the number reads as. -/
theorem roundWithAccuracy_eq (hC : Canonical M E)
    (h : Represents (.ofMantissaAndAccuracy m accuracy) number) (hR : Reads M E (number * 2 ^ e))
    (he : e ≤ Format.binary64.targetExponent (totalExponent m e)) (sign : Sign) :
    roundWithAccuracy Format.binary64 sign m e accuracy = unpacked sign M E := by
  obtain ⟨t, ht⟩ : ∃ t, Format.binary64.targetExponent (totalExponent m e) = t := ⟨_, rfl⟩
  rw [ht] at he
  have limit : t = max (totalExponent m e - 53) (-1074) := ht.symm
  have least : -1074 ≤ t := by omega
  obtain ⟨below, above⟩ := bounds_of_represents h limit he
  have near := (represents_shiftToExponent h he).nearest
  have shifted : (shiftToExponent m e accuracy t).2 = t := shiftToExponent_snd he
  unfold roundWithAccuracy
  dsimp only
  rw [show shiftToTargetExponent Format.binary64 m e accuracy = shiftToExponent m e accuracy t from
    congrArg (shiftToExponent m e accuracy) ht, shifted]
  rcases nearest_of_reads hC hR least below above with ⟨rfl, same⟩ | ⟨rfl, rfl, carried⟩
  · rw [near.eq same, shiftToTargetExponent_of_lt hC.bits least]
    rfl
  · rw [near.eq carried, shiftToTargetExponent_of_carry least]
    rfl

end Rounding

/-! ## Products and quotients -/

section Arithmetic

variable {m n M : Nat} {e f E : Int} {sign other : Sign}

/-- A product of enough bits is the double that the exact product reads as. -/
theorem mul_finite_eq (hm : 0 < m) (hn : 0 < n) (hC : Canonical M E)
    (hR : Reads M E (m * 2 ^ e * (n * 2 ^ f))) (full : 2 ^ 52 ≤ m * n) :
    UnpackedFloat.mul Format.binary64 (.finite sign m e hm) (.finite other n f hn) =
      unpacked (sign * other) M E := by
  have product : ((m * n : Nat) : ℚ) * 2 ^ (e + f) = m * 2 ^ e * (n * 2 ^ f) := by
    rw [zpow_add₀ two_ne_zero]
    push_cast
    ring
  have log : 52 ≤ (m * n).log2 := (Nat.le_log2 (by omega)).mpr full
  refine roundWithAccuracy_eq hC (represents_exact (m * n)) (by rwa [product]) ?_ _
  rw [targetExponent_binary64, totalExponent]
  omega

/-- What is left over is compared with half a unit. -/
theorem represents_inexact {q : Nat} {part : ℚ} (pos : 0 < part) (less : part < 1) :
    Represents (.ofMantissaAndAccuracy q (.inexact (compare part (1 / 2)))) (q + part) := by
  rcases lt_trichotomy part (1 / 2) with below | rfl | above
  · rw [compare_lt_iff_lt.mpr below]
    refine ⟨?_, ?_, ?_, ?_⟩ <;>
      simp [ExtendedMantissa.ofMantissaAndAccuracy, pos.le, pos.ne', less]
    · linarith
    · linarith
  · rw [compare_eq_iff_eq.mpr rfl]
    refine ⟨?_, ?_, ?_, ?_⟩ <;> simp [ExtendedMantissa.ofMantissaAndAccuracy]
    norm_num
  · rw [compare_gt_iff_gt.mpr above]
    refine ⟨?_, ?_, ?_, ?_⟩ <;>
      simp [ExtendedMantissa.ofMantissaAndAccuracy, pos.le, pos.ne', less]
    · linarith
    · linarith

theorem represents_quotient (hn : 0 < n) :
    Represents (.ofMantissaAndAccuracy (m / n) (accuracyOfFraction (m % n) n)) (m / n : ℚ) := by
  have den : (0 : ℚ) < n := Nat.cast_pos.mpr hn
  have parts : (m : ℚ) = n * (m / n : Nat) + (m % n : Nat) := by
    exact_mod_cast (Nat.div_add_mod m n).symm
  have quotient : (m : ℚ) / n = (m / n : Nat) + (m % n : Nat) / n := by
    rw [div_eq_iff den.ne', add_mul, div_mul_cancel₀ _ den.ne', mul_comm]
    exact parts
  have rest : ((m % n : Nat) : ℚ) < n := by exact_mod_cast Nat.mod_lt m hn
  rw [quotient]
  generalize m / n = q
  generalize m % n = r at rest ⊢
  unfold accuracyOfFraction
  by_cases none : r = 0
  · subst none
    simpa using represents_exact q
  have compared : compare (2 * r) n = compare ((r : ℚ) / n) (1 / 2) := by
    rcases lt_trichotomy (2 * r) n with below | half | above
    · have belowQ : (2 : ℚ) * r < n := by exact_mod_cast below
      rw [compare_lt_iff_lt.mpr below, eq_comm, compare_lt_iff_lt, div_lt_iff₀ den]
      linarith
    · have halfQ : (2 : ℚ) * r = n := by exact_mod_cast half
      rw [compare_eq_iff_eq.mpr half, eq_comm, compare_eq_iff_eq, div_eq_iff den.ne']
      linarith
    · have aboveQ : (n : ℚ) < 2 * r := by exact_mod_cast above
      rw [compare_gt_iff_gt.mpr above, eq_comm, compare_gt_iff_gt, lt_div_iff₀ den]
      linarith
  rw [if_neg none, compared]
  exact represents_inexact (div_pos (by exact_mod_cast Nat.pos_of_ne_zero none) den)
    ((div_lt_one den).mpr rest)

/-- A quotient is the double that the exact quotient reads as. -/
theorem div_finite_eq (hm : 0 < m) (hn : 0 < n) (hC : Canonical M E)
    (hR : Reads M E (m * 2 ^ e / (n * 2 ^ f))) :
    UnpackedFloat.div Format.binary64 (.finite sign m e hm) (.finite other n f hn) =
      unpacked (sign / other) M E := by
  obtain ⟨t, ht⟩ : ∃ t, min (e - f) (Format.binary64.targetExponent
      (totalExponent m e - totalExponent n f)) = t := ⟨_, rfl⟩
  obtain ⟨k, hk⟩ : ∃ k : Nat, e - f - t = k := ⟨(e - f - t).toNat, by omega⟩
  have amount : (e - f - t).toNat = k := by omega
  have enough : ((m <<< k : Nat) : ℚ) / n * 2 ^ t = m * 2 ^ e / (n * 2 ^ f) := by
    rw [Nat.shiftLeft_eq, show e = k + (t + f) by omega, zpow_add₀ two_ne_zero,
      zpow_add₀ two_ne_zero, zpow_natCast]
    push_cast
    field_simp
  show roundWithAccuracy Format.binary64 (sign / other)
    (divCore Format.binary64 m e n f).1 (divCore Format.binary64 m e n f).2.1
    (divCore Format.binary64 m e n f).2.2 = _
  simp only [divCore, ht, amount]
  refine roundWithAccuracy_eq hC (represents_quotient hn) (by rwa [enough]) ?_ _
  rw [targetExponent_binary64, totalExponent, totalExponent] at ht
  rw [targetExponent_binary64, totalExponent]
  by_cases low : t ≤ -1074
  · omega
  -- above the least exponent the dividend has been given 53 bits more than the divisor
  have bits : 53 + n.log2 ≤ m.log2 + k := by omega
  have quotient : 2 ^ 52 ≤ (m <<< k) / n := by
    rw [Nat.le_div_iff_mul_le hn, Nat.shiftLeft_eq]
    calc 2 ^ 52 * n ≤ 2 ^ 52 * 2 ^ (n.log2 + 1) := Nat.mul_le_mul_left _ Nat.lt_log2_self.le
      _ = 2 ^ (53 + n.log2) := by rw [← Nat.pow_add]; congr 1; omega
      _ ≤ 2 ^ (m.log2 + k) := Nat.pow_le_pow_right two_pos bits
      _ = 2 ^ m.log2 * 2 ^ k := Nat.pow_add ..
      _ ≤ m * 2 ^ k := Nat.mul_le_mul_right _ (Nat.log2_self_le hm.ne')
  have log : 52 ≤ ((m <<< k) / n).log2 :=
    (Nat.le_log2 (Nat.ne_of_gt (Nat.lt_of_lt_of_le (by decide) quotient))).mpr quotient
  omega

end Arithmetic

end CommitLens.Decimal
