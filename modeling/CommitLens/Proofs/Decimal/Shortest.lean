import CommitLens.Proofs.Decimal.Nearest

/-!
# The shortest digits read back

Each grid is tried with a test, and the last one is fine enough to need none: its seventeen
digits are nearer to the double than half the distance to the next one.  Main statement: the
digits found for a double are those of a decimal in its rounding interval.
-/

namespace CommitLens.Decimal

variable {m : Nat} {e : Int} {value : Fraction}

/-! ## The decimal point -/

theorem ten_zpow_le_of_decimalPointFrom (h : 0 < value.den) (fuel : Nat) (start : Int)
    (hs : (10 : ℚ) ^ (start - 1) ≤ value.value) :
    (10 : ℚ) ^ (decimalPointFrom value fuel start - 1) ≤ value.value := by
  induction fuel generalizing start with
  | zero => exact hs
  | succ fuel ih =>
      rw [decimalPointFrom]
      split
      · exact hs
      · rename_i notLess
        rw [Fraction.value_lt_iff h (Fraction.den_scaled_pos (by decide)), Fraction.value_scaled,
          not_lt] at notLess
        exact ih _ (by simpa using notLess)

/-- Three tenths are a little less than the logarithm of two to base ten, and thirteen
forty-thirds a little more. -/
theorem ten_zpow_le_two_zpow {k l : Int} (low : -1074 ≤ l) (high : l ≤ 1023)
    (h : 100000 * (k + 2) ≤ 30103 * l) : (10 : ℚ) ^ k ≤ 2 ^ l := by
  by_cases nonneg : 0 ≤ l
  · rw [← pow_le_pow_iff_left₀ (by positivity) (by positivity) (by decide : 10 ≠ 0)]
    calc ((10 : ℚ) ^ k) ^ 10 = 10 ^ (k * 10) := by rw [zpow_mul, ← zpow_natCast]; rfl
      _ ≤ 10 ^ (3 * l) := zpow_le_zpow_right₀ (by norm_num) (by omega)
      _ = (10 ^ 3 : ℚ) ^ l := by rw [zpow_mul]; rfl
      _ ≤ (2 ^ 10 : ℚ) ^ l := zpow_le_zpow_left₀ nonneg (by norm_num) (by norm_num)
      _ = (2 ^ l) ^ 10 := by rw [← zpow_natCast, ← zpow_natCast, zpow_comm]
  · rw [← pow_le_pow_iff_left₀ (by positivity) (by positivity) (by decide : 43 ≠ 0)]
    obtain ⟨n, rfl⟩ : ∃ n : Nat, l = -n := ⟨(-l).toNat, by omega⟩
    calc ((10 : ℚ) ^ k) ^ 43 = 10 ^ (k * 43) := by rw [zpow_mul, ← zpow_natCast]; rfl
      _ ≤ 10 ^ (13 * (-n : Int)) := zpow_le_zpow_right₀ (by norm_num) (by omega)
      _ = ((10 ^ 13 : ℚ) ^ n)⁻¹ := by rw [zpow_mul, zpow_neg, zpow_natCast]; rfl
      _ ≤ ((2 ^ 43 : ℚ) ^ n)⁻¹ :=
        inv_anti₀ (by positivity) (pow_le_pow_left₀ (by norm_num) (by norm_num) n)
      _ = (2 ^ (-n : Int)) ^ 43 := by
        rw [zpow_neg, zpow_natCast, inv_pow, ← pow_mul, ← pow_mul, mul_comm]

theorem ten_zpow_le_of_decimalPoint (hC : Canonical m e) (he : e ≤ 971) (hm : m ≠ 0) :
    (10 : ℚ) ^ (decimalPoint m e - 1) ≤ m * 2 ^ e := by
  have value : (Fraction.scaled m 2 e).value = m * 2 ^ e := Fraction.value_scaled ..
  have log : m.log2 ≤ 52 := Nat.lt_succ_iff.mp ((Nat.log2_lt hm).mpr hC.bits)
  have least := hC.least
  have size : (2 : ℚ) ^ (m.log2 + e : Int) ≤ m * 2 ^ e := by
    rw [zpow_add₀ two_ne_zero, zpow_natCast]
    exact mul_le_mul_of_nonneg_right (by exact_mod_cast Nat.log2_self_le hm) (by positivity)
  rw [← value] at size ⊢
  refine ten_zpow_le_of_decimalPointFrom (Fraction.den_scaled_pos two_pos) _ _ (le_trans ?_ size)
  refine ten_zpow_le_two_zpow (by omega) (by omega) ?_
  rw [Int.fdiv_eq_ediv_of_nonneg _ (by decide)]
  omega

/-! ## Grids -/

theorem reads_of_onGrid?_eq_some (hm : m ≠ 0) {grid : Int} {digits : Nat}
    (h : onGrid? (.of m e) value grid = some digits) : Reads m e (digits * 10 ^ grid) := by
  have reads {n : Nat} (hn : (RoundingInterval.of m e).holds (.scaled n 10 grid) = true) :
      Reads m e (n * 10 ^ grid) := by
    rw [holds_iff_reads hm (Fraction.den_scaled_pos (by decide)), Fraction.value_scaled] at hn
    exact hn
  unfold onGrid? at h
  dsimp only at h
  split at h
  · rename_i down up
    obtain rfl := Option.some.inj h
    rcases Fraction.roundHalfEven_eq_floor (value.mul (.scaled 1 10 (-grid))) with same | next
    · rw [same]
      exact reads down
    · rw [next]
      exact reads up
  · rename_i down _
    obtain rfl := Option.some.inj h
    exact reads down
  · rename_i _ up
    obtain rfl := Option.some.inj h
    exact reads up
  · contradiction

/-- Half a unit of the seventeenth digit is less than half the way to the next double. -/
theorem reads_of_seventeen (hC : Canonical m e) {point : Int} {digits : Nat}
    (hp : (10 : ℚ) ^ (point - 1) ≤ m * 2 ^ e)
    (near : |(m : ℚ) * 2 ^ e * 10 ^ (17 - point) - digits| ≤ 1 / 2) :
    Reads m e (digits * 10 ^ (point - 17)) := by
  have unit : (0 : ℚ) < 2 ^ e := by positivity
  have grid : (0 : ℚ) < 10 ^ (point - 17) := by positivity
  have inverse : (10 : ℚ) ^ (17 - point) * 10 ^ (point - 17) = 1 := by
    rw [← zpow_add₀ (by norm_num), show (17 - point) + (point - 17) = 0 by ring, zpow_zero]
  have fine : (10 : ℚ) ^ (point - 17) * 10 ^ 16 ≤ m * 2 ^ e := by
    refine le_trans (le_of_eq ?_) hp
    rw [← zpow_natCast, ← zpow_add₀ (by norm_num)]
    congr 1
    push_cast
    ring
  obtain ⟨low, high⟩ := abs_le.mp near
  have lowUnit := mul_le_mul_of_nonneg_right low grid.le
  have highUnit := mul_le_mul_of_nonneg_right high grid.le
  rw [sub_mul, mul_assoc, inverse, mul_one] at lowUnit highUnit
  -- both ways the decimal is nearer than a share of `1 / (2 * 10 ^ 16)` of the double
  have share : (m : ℚ) / (2 * 10 ^ 16) < reach m e := by
    have bits : (m : ℚ) < 2 ^ 53 := by exact_mod_cast hC.bits
    unfold reach
    split
    · rename_i power
      rw [power.1]
      norm_num
    · rw [div_lt_iff₀ (by positivity)]
      linarith
  have half : (m : ℚ) / (2 * 10 ^ 16) < 1 / 2 := share.trans_le (reach_le m e)
  have near : 10 ^ (point - 17) / 2 ≤ (m : ℚ) / (2 * 10 ^ 16) * 2 ^ e := by
    rw [div_mul_eq_mul_div, le_div_iff₀ (by positivity)]
    linarith
  have inLow : ((m : ℚ) - reach m e) * 2 ^ e < digits * 10 ^ (point - 17) := by
    have := mul_lt_mul_of_pos_right share unit
    linarith
  have inHigh : (digits : ℚ) * 10 ^ (point - 17) < (m + 1 / 2) * 2 ^ e := by
    have := mul_lt_mul_of_pos_right half unit
    linarith
  exact ⟨inLow.le, inHigh.le, fun _ => ⟨inLow, inHigh⟩⟩

theorem reads_of_shortestFrom (hC : Canonical m e) (hm : m ≠ 0) {point : Int}
    (hp : (10 : ℚ) ^ (point - 1) ≤ m * 2 ^ e) (fuel count : Nat) (total : count + fuel = 17) :
    Reads m e ((shortestFrom (.of m e) (.scaled m 2 e) point fuel count).digits *
      10 ^ (shortestFrom (.of m e) (.scaled m 2 e) point fuel count).exponent) := by
  induction fuel generalizing count with
  | zero =>
      obtain rfl : count = 17 := total
      refine reads_of_seventeen hC hp ?_
      have den : 0 < ((Fraction.scaled m 2 e).mul (.scaled 1 10 ((17 : Nat) - point))).den :=
        Nat.mul_pos (Fraction.den_scaled_pos two_pos) (Fraction.den_scaled_pos (by decide))
      have near := Fraction.abs_value_sub_roundHalfEven den
      rw [Fraction.value_mul, Fraction.value_scaled, Fraction.value_scaled, Nat.cast_one,
        one_mul] at near
      exact near
  | succ fuel ih =>
      rw [shortestFrom]
      split
      · rename_i digits found
        exact reads_of_onGrid?_eq_some hm found
      · exact ih (count + 1) (by omega)

/-- Zeros at the end are powers of ten. -/
theorem trimmed_value (d : Digits) (fuel : Nat) :
    ((d.trimmed fuel).digits : ℚ) * 10 ^ (d.trimmed fuel).exponent = d.digits * 10 ^ d.exponent := by
  induction fuel generalizing d with
  | zero => rfl
  | succ fuel ih =>
      rw [Digits.trimmed]
      split
      · rename_i zero
        have parts : d.digits = 10 * (d.digits / 10) := by omega
        have partsQ : (d.digits : ℚ) = 10 * (d.digits / 10 : Nat) := by exact_mod_cast parts
        rw [ih, zpow_add_one₀ (by norm_num), partsQ]
        ring
      · rfl

/-- The shortest digits of a double are read as that double. -/
theorem reads_shortest (hC : Canonical m e) (he : e ≤ 971) (hm : m ≠ 0) :
    Reads m e ((shortest m e).digits * 10 ^ (shortest m e).exponent) := by
  rw [shortest, if_neg hm]
  dsimp only
  rw [trimmed_value]
  exact reads_of_shortestFrom hC hm (ten_zpow_le_of_decimalPoint hC he hm) 16 1 rfl

end CommitLens.Decimal
