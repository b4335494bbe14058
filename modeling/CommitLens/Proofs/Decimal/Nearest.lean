import CommitLens.Decimal.Reading
import CommitLens.Proofs.Decimal.Rounding
import Mathlib.Data.Int.Log
import Mathlib.Data.Rat.Floor

/-!
# The double nearest to a decimal

Decimals of few digits are multiplied or divided by an exact power of ten, all others by a
power that is computed; both are rounded once.  Main statements: the double that a decimal is
read as is the one in whose rounding interval it is, and rounding a double to some decimal
places gives a double.
-/

namespace CommitLens.Decimal

open Float.Model (Format UnpackedFloat totalExponent)
open Float.Model.UnpackedFloat

/-! ## Decimals -/

section Decimals

variable {m M : Nat} {e E : Int} {number : ℚ}

/-- Numbers below half of the least double round to zero. -/
theorem eq_zero_of_reads (hC : Canonical M E) (hR : Reads M E number)
    (small : number < 2 ^ (-1075 : Int)) : M = 0 := by
  by_contra ne
  have one : (1 : ℚ) ≤ M := by exact_mod_cast Nat.pos_of_ne_zero ne
  have half : (2 : ℚ) ^ (-1075 : Int) ≤ 1 / 2 * 2 ^ E := by
    rw [show (-1075 : Int) = -1 + -1074 by norm_num, zpow_add₀ two_ne_zero]
    exact mul_le_mul (by norm_num) (zpow_le_zpow_right₀ one_le_two hC.least) (by positivity)
      (by norm_num)
  have reach := reach_le M E
  have : 1 / 2 * (2 : ℚ) ^ E ≤ (M - Decimal.reach M E) * 2 ^ E :=
    mul_le_mul_of_nonneg_right (by linarith) (by positivity)
  linarith [hR.low]

theorem lt_of_reads (hC : Canonical M E) (hE : E ≤ 971) (hR : Reads M E number) :
    number < 2 ^ 1024 := by
  have bits : (M : ℚ) + 1 ≤ 2 ^ 53 := by exact_mod_cast hC.bits
  calc number ≤ (M + 1 / 2) * 2 ^ E := hR.high
    _ < 2 ^ 53 * 2 ^ E := mul_lt_mul_of_pos_right (by linarith) (by positivity)
    _ ≤ 2 ^ 53 * 2 ^ (971 : Int) :=
      mul_le_mul_of_nonneg_left (zpow_le_zpow_right₀ one_le_two hE) (by positivity)
    _ = 2 ^ 1024 := by
      rw [← zpow_natCast, ← zpow_natCast, ← zpow_add₀ two_ne_zero]
      norm_num

/-- Digits with a greater power of ten are more than any double. -/
theorem le_of_reads_scientific (hC : Canonical M E) (hE : E ≤ 971) (hR : Reads M E (m * 10 ^ e))
    (hm : m ≠ 0) : e ≤ 2048 := by
  by_contra! above
  have one : (1 : ℚ) ≤ m := by exact_mod_cast Nat.pos_of_ne_zero hm
  have large : (2 : ℚ) ^ 1024 ≤ m * 10 ^ e := by
    calc (2 : ℚ) ^ 1024 ≤ 10 ^ 1024 := pow_le_pow_left₀ (by norm_num) (by norm_num) _
      _ = 10 ^ (1024 : Int) := (zpow_natCast 10 1024).symm
      _ ≤ 10 ^ e := zpow_le_zpow_right₀ (by norm_num) (by omega)
      _ ≤ m * 10 ^ e := le_mul_of_one_le_left (by positivity) one
  exact (lt_of_reads hC hE hR).not_ge large

/-- Each power of ten costs at least one bit. -/
theorem scientific_lt (below : e < -(2048 + m.log2)) : (m : ℚ) * 10 ^ e < 2 ^ (-1075 : Int) := by
  have fits : (m : ℚ) < 2 ^ ((m.log2 : Int) + 1) := by
    rw [zpow_add_one₀ two_ne_zero, zpow_natCast, ← pow_succ]
    exact_mod_cast Nat.lt_log2_self (n := m)
  calc (m : ℚ) * 10 ^ e < 2 ^ ((m.log2 : Int) + 1) * 10 ^ e :=
        mul_lt_mul_of_pos_right fits (by positivity)
    _ ≤ 2 ^ ((m.log2 : Int) + 1) * 2 ^ e := by
        refine mul_le_mul_of_nonneg_left ?_ (by positivity)
        obtain ⟨k, rfl⟩ : ∃ k : Nat, e = -k := ⟨(-e).toNat, by omega⟩
        rw [zpow_neg, zpow_neg, zpow_natCast, zpow_natCast]
        exact inv_anti₀ (by positivity) (pow_le_pow_left₀ (by norm_num) (by norm_num) k)
    _ = 2 ^ ((m.log2 : Int) + 1 + e) := (zpow_add₀ two_ne_zero _ _).symm
    _ ≤ 2 ^ (-1075 : Int) := zpow_le_zpow_right₀ one_le_two (by omega)

/-- Whole digits with a power of ten are rounded once. -/
theorem ofScientific_eq_unpacked (hC : Canonical M E) (hE : E ≤ 971)
    (hR : Reads M E (m * 10 ^ e)) :
    UnpackedFloat.ofScientific Format.binary64 m e = unpacked .positive M E := by
  have width : Format.binary64.mantissaBits = 53 := rfl
  have exponents : (2 : Int) ^ Format.binary64.exponentBits = 2048 := rfl
  unfold UnpackedFloat.ofScientific
  by_cases zero : m = 0
  · subst zero
    have none : M = 0 := eq_zero_of_reads hC hR (by simp)
    rw [dif_pos rfl, none, unpacked_zero]
  rw [dif_neg zero, exponents, if_neg (not_lt.mpr (le_of_reads_scientific hC hE hR zero))]
  by_cases below : e < -(2048 + m.log2)
  · have none : M = 0 := eq_zero_of_reads hC hR (scientific_lt below)
    rw [if_pos below, none, unpacked_zero]
  rw [if_neg below]
  by_cases nonneg : 0 ≤ e
  · rw [if_pos nonneg]
    obtain ⟨k, rfl⟩ := Int.eq_ofNat_of_zero_le nonneg
    refine mul_finite_eq _ _ hC ?_ ?_
    · have product : ((m <<< 53 : Nat) : ℚ) * 2 ^ (-(53 : Nat) : Int) *
          ((10 ^ (k : Int).toNat : Nat) * 2 ^ (0 : Int)) = m * 10 ^ (k : Int) := by
        rw [Nat.shiftLeft_eq, Int.toNat_natCast, zpow_neg, zpow_natCast, zpow_natCast]
        push_cast
        field_simp
        norm_num
      rw [width, product]
      exact hR
    · rw [width, Nat.shiftLeft_eq]
      calc 2 ^ 52 ≤ m * 2 ^ 53 := by omega
        _ ≤ m * 2 ^ 53 * 10 ^ (k : Int).toNat := Nat.le_mul_of_pos_right _ (by positivity)
  · rw [if_neg nonneg]
    obtain ⟨k, rfl⟩ : ∃ k : Nat, e = -k := ⟨(-e).toNat, by omega⟩
    refine div_finite_eq _ _ hC ?_
    have quotient : (m : ℚ) * 2 ^ (0 : Int) / ((10 ^ (- -(k : Int)).toNat : Nat) * 2 ^ (0 : Int)) =
        m * 10 ^ (-k : Int) := by
      rw [neg_neg, Int.toNat_natCast, zpow_neg, zpow_natCast]
      push_cast
      field_simp
    rw [quotient]
    exact hR

/-- A whole number of at most 53 bits, with all bits of a double. -/
theorem canonical_whole (hm : m ≠ 0) (bits : m < 2 ^ 53) :
    Canonical (m * 2 ^ (52 - m.log2)) (m.log2 - 52) ∧ 2 ^ 52 ≤ m * 2 ^ (52 - m.log2) ∧
      ((m * 2 ^ (52 - m.log2) : Nat) : ℚ) * 2 ^ (m.log2 - 52 : Int) = m := by
  have log : m.log2 ≤ 52 := Nat.lt_succ_iff.mp ((Nat.log2_lt hm).mpr bits)
  obtain ⟨k, hk⟩ : ∃ k, 52 - m.log2 = k := ⟨_, rfl⟩
  have low : 2 ^ 52 ≤ m * 2 ^ k := by
    calc 2 ^ 52 = 2 ^ m.log2 * 2 ^ k := by rw [← Nat.pow_add]; congr 1; omega
      _ ≤ m * 2 ^ k := Nat.mul_le_mul_right _ (Nat.log2_self_le hm)
  have high : m * 2 ^ k < 2 ^ 53 := by
    calc m * 2 ^ k < 2 ^ (m.log2 + 1) * 2 ^ k :=
          Nat.mul_lt_mul_of_pos_right Nat.lt_log2_self (by positivity)
      _ = 2 ^ 53 := by rw [← Nat.pow_add]; congr 1; omega
  rw [hk]
  refine ⟨⟨high, by omega, .inr low⟩, low, ?_⟩
  rw [show (m.log2 - 52 : Int) = -k by omega, zpow_neg, zpow_natCast]
  push_cast
  field_simp

theorem toFloat_eq_double (hm : m ≠ 0) (bits : m < 2 ^ 53) :
    m.toUInt64.toFloat = double false (m * 2 ^ (52 - m.log2)) (m.log2 - 52) := by
  obtain ⟨canonical, full, -⟩ := canonical_whole hm bits
  have log : m.log2 ≤ 52 := Nat.lt_succ_iff.mp ((Nat.log2_lt hm).mpr bits)
  have size : m.toUInt64.toNat = m := Nat.mod_eq_of_lt (by omega)
  have positive : compare (m : Int) 0 = .gt := compare_gt_iff_gt.mpr (by omega)
  show Float.ofModel (.pack (normalize Format.binary64 (m.toUInt64.toNat : Int) 0 .positive)) = _
  rw [size]
  unfold UnpackedFloat.normalize
  rw [positive]
  show Float.ofModel (.pack (UnpackedFloat.round Format.binary64 .positive m 0)) = _
  have amount : (0 - Format.binary64.targetExponent (totalExponent m 0)).toNat = 52 - m.log2 := by
    rw [targetExponent_binary64, totalExponent]
    omega
  have exponent : (0 : Int) - (52 - m.log2 : Nat) = m.log2 - 52 := by omega
  unfold UnpackedFloat.round decreaseExponent double
  dsimp only
  rw [amount, exponent, Nat.shiftLeft_eq]
  have logFull : (m * 2 ^ (52 - m.log2)).log2 = 52 :=
    (Nat.log2_eq_iff (by positivity)).mpr ⟨full, canonical.bits⟩
  rw [roundWithAccuracy_eq canonical (represents_exact _) (reads_self _ _) ?_ .positive]
  · rfl
  · rw [targetExponent_binary64, totalExponent, logFull]
    omega

/-- The powers of ten that doubles have exactly. -/
theorem ofFloat_powers : ∀ k : Fin Float.exactlyRepresentablePowersOfTen.size,
    Binary.ofFloat Float.exactlyRepresentablePowersOfTen[k] =
        .finite false (10 ^ k.val * 2 ^ 52 / 2 ^ (10 ^ k.val).log2) ((10 ^ k.val).log2 - 52) ∧
      2 ^ (10 ^ k.val).log2 ∣ 10 ^ k.val * 2 ^ 52 := by
  decide +kernel

theorem unpack_powers {k : Nat} (hk : k < Float.exactlyRepresentablePowersOfTen.size) :
    ∃ n f, ∃ hn : 0 < n, Float.exactlyRepresentablePowersOfTen[k].toModel.unpack =
        .finite .positive n f hn ∧ 2 ^ 52 ≤ n ∧ (n : ℚ) * 2 ^ f = 10 ^ k := by
  obtain ⟨parts, n, hn⟩ := ofFloat_powers ⟨k, hk⟩
  dsimp only at parts hn
  rw [hn, Nat.mul_div_cancel_left _ (by positivity)] at parts
  have full := (canonical_of_ofFloat parts).1.full.resolve_left (by omega)
  have pos : 0 < n := Nat.lt_of_lt_of_le (by decide) full
  refine ⟨n, (10 ^ k).log2 - 52, pos, ?_, full, ?_⟩
  · refine (unpack_of_ofFloat parts).trans ?_
    rw [unpacked_of_ne pos.ne']
    rfl
  · have exact : (10 : ℚ) ^ k * 2 ^ 52 = 2 ^ (10 ^ k).log2 * n := by exact_mod_cast hn
    rw [zpow_sub₀ two_ne_zero, zpow_natCast, mul_div_assoc', div_eq_iff (by norm_num), mul_comm]
    exact exact.symm

theorem unpack_toFloat (bits : m < 2 ^ 53) :
    m.toUInt64.toFloat.toModel.unpack = if h : m = 0 then .zero .positive else
      .finite .positive (m * 2 ^ (52 - m.log2)) (m.log2 - 52)
        (Nat.mul_pos (Nat.pos_of_ne_zero h) (Nat.two_pow_pos _)) := by
  by_cases zero : m = 0
  · subst zero
    rfl
  · obtain ⟨canonical, -, -⟩ := canonical_whole zero bits
    have log : m.log2 ≤ 52 := Nat.lt_succ_iff.mp ((Nat.log2_lt zero).mpr bits)
    rw [dif_neg zero, toFloat_eq_double zero bits,
      unpack_of_ofFloat (ofFloat_double canonical (by omega)), unpacked_of_ne (by positivity)]
    rfl

/-- A decimal is the double that it reads as. -/
theorem ofScientific_eq_double (hC : Canonical M E) (hE : E ≤ 971) (negative : Bool) (k : Nat)
    (hR : Reads M E (m * 10 ^ (if negative then -k else k : Int))) :
    Float.ofScientific m negative k = double false M E := by
  unfold Float.ofScientific
  split
  · rename_i fast
    have inTable : k < Float.exactlyRepresentablePowersOfTen.size := Nat.lt_succ_of_le fast.2
    obtain ⟨n, f, hn, power, full, value⟩ := unpack_powers inTable
    have digits := unpack_toFloat fast.1
    have split (negative : Bool) : (if negative then
        m.toUInt64.toFloat / Float.exactlyRepresentablePowersOfTen[k]
          else m.toUInt64.toFloat * Float.exactlyRepresentablePowersOfTen[k]) =
        .ofModel (.pack (if negative then UnpackedFloat.div Format.binary64
            m.toUInt64.toFloat.toModel.unpack (.finite .positive n f hn)
          else UnpackedFloat.mul Format.binary64
            m.toUInt64.toFloat.toModel.unpack (.finite .positive n f hn))) := by
      rw [← power]
      cases negative <;> rfl
    refine (split negative).trans ?_
    rw [digits, double]
    congr 2
    by_cases zero : m = 0
    · subst zero
      have none : M = 0 := eq_zero_of_reads hC hR (by simp)
      rw [dif_pos rfl, none, unpacked_zero]
      cases negative <;> rfl
    · obtain ⟨-, fullDigits, same⟩ := canonical_whole zero fast.1
      have pos : 0 < m * 2 ^ (52 - m.log2) := by positivity
      rw [dif_neg zero]
      cases negative with
      | true =>
          refine div_finite_eq pos hn hC ?_
          rw [same, value]
          simpa [div_eq_mul_inv] using hR
      | false =>
          refine mul_finite_eq pos hn hC ?_ (fullDigits.trans (Nat.le_mul_of_pos_right _ hn))
          rw [same, value]
          simpa using hR
  · show Float.ofModel (.pack (UnpackedFloat.ofScientific Format.binary64 m
      (if negative then Int.negOfNat k else Int.ofNat k))) = _
    rw [ofScientific_eq_unpacked hC hE]
    · rfl
    · cases negative
      · exact hR
      · rw [show (if true = true then Int.negOfNat k else Int.ofNat k) = (-k : Int) from
          Int.negOfNat_eq]
        exact hR

theorem length_digitText (m : Nat) : (digitText m).length = (Nat.toDigits 10 m).length := by
  rw [digitText, Nat.toString_eq_ofList_toDigits, String.length_ofList]

/-- A number of so many digits. -/
theorem digitText_bounds (h : m ≠ 0) :
    10 ^ ((digitText m).length - 1) ≤ m ∧ m < 10 ^ (digitText m).length := by
  rw [length_digitText]
  have pos : 0 < (Nat.toDigits 10 m).length := Nat.length_toDigits_pos
  refine ⟨?_, (Nat.length_toDigits_le_iff (by decide) pos).mp le_rfl⟩
  by_cases one : (Nat.toDigits 10 m).length = 1
  · rw [one]
    exact Nat.pos_of_ne_zero h
  · by_contra less
    have := (Nat.length_toDigits_le_iff (b := 10) (by decide) (by omega)).mpr (Nat.lt_of_not_le less)
    omega

/-- Beyond four hundred digits there are no doubles on either side. -/
theorem two_pow_le_ten_pow : (2 : ℚ) ^ 1075 ≤ 10 ^ 400 := by
  have whole : 2 ^ 1075 ≤ 10 ^ 400 := by decide +kernel
  exact_mod_cast whole

theorem digits_lt (hm : m ≠ 0) (below : e + (digitText m).length < -400) :
    (m : ℚ) * 10 ^ e < 2 ^ (-1075 : Int) := by
  have high := (digitText_bounds hm).2
  calc (m : ℚ) * 10 ^ e < 10 ^ (digitText m).length * 10 ^ e :=
        mul_lt_mul_of_pos_right (by exact_mod_cast high) (by positivity)
    _ = 10 ^ (e + (digitText m).length) := by
        rw [zpow_add₀ (by norm_num), zpow_natCast, mul_comm]
    _ ≤ 10 ^ (-400 : Int) := zpow_le_zpow_right₀ (by norm_num) (by omega)
    _ ≤ 2 ^ (-1075 : Int) := inv_anti₀ (by positivity) two_pow_le_ten_pow

theorem le_of_reads_digits (hC : Canonical M E) (hE : E ≤ 971) (hR : Reads M E (m * 10 ^ e))
    (hm : m ≠ 0) : e + (digitText m).length ≤ 400 := by
  by_contra! above
  have low := (digitText_bounds hm).1
  have pos : 0 < (digitText m).length := length_digitText m ▸ Nat.length_toDigits_pos
  have large : (2 : ℚ) ^ 1024 ≤ m * 10 ^ e := by
    calc (2 : ℚ) ^ 1024 ≤ 2 ^ 1075 := pow_le_pow_right₀ one_le_two (by decide)
      _ ≤ 10 ^ (400 : Int) := two_pow_le_ten_pow
      _ ≤ 10 ^ (((digitText m).length - 1 : Nat) + e : Int) :=
          zpow_le_zpow_right₀ (by norm_num) (by omega)
      _ = 10 ^ ((digitText m).length - 1) * 10 ^ e := by
          rw [zpow_add₀ (by norm_num), zpow_natCast]
      _ ≤ m * 10 ^ e := mul_le_mul_of_nonneg_right (by exact_mod_cast low) (by positivity)
  exact (lt_of_reads hC hE hR).not_ge large

/-- The double nearest to a decimal, if that is in the range of doubles. -/
theorem nearestFloat_eq_double (hC : Canonical M E) (hE : E ≤ 971) (negative : Bool)
    (hR : Reads M E (m * 10 ^ e)) : nearestFloat negative m e = double negative M E := by
  obtain ⟨l, hl⟩ : ∃ l : Nat, (digitText m).length = l := ⟨_, rfl⟩
  have zero (none : M = 0) : (0.0 : Float) = double false M E := by
    obtain rfl := none
    obtain rfl : E = -1074 := hC.full.resolve_right (by decide)
    exact ofScientific_eq_double hC hE true 1 (by simpa using reads_self 0 (-1074))
  have magnitude : (if m = 0 ∨ e + l < -400 then (0.0 : Float) else if 400 < e + l then 1.0 / 0.0
      else if 0 ≤ e then Float.ofScientific m false e.toNat
      else Float.ofScientific m true (-e).toNat) = double false M E := by
    by_cases none : m = 0
    · subst none
      rw [if_pos (.inl rfl)]
      exact zero (eq_zero_of_reads hC hR (by simp))
    by_cases below : e + l < -400
    · rw [if_pos (.inr below)]
      exact zero (eq_zero_of_reads hC hR (digits_lt none (hl ▸ below)))
    rw [if_neg (by tauto), if_neg (not_lt.mpr (hl ▸ le_of_reads_digits hC hE hR none))]
    split
    · rename_i nonneg
      refine ofScientific_eq_double hC hE false _ ?_
      rwa [if_neg Bool.false_ne_true, Int.toNat_of_nonneg nonneg]
    · rename_i negative
      refine ofScientific_eq_double hC hE true _ ?_
      rwa [if_pos rfl, Int.toNat_of_nonneg (by omega), neg_neg]
  unfold nearestFloat
  dsimp only
  rw [hl, magnitude]
  cases negative
  · rfl
  · exact neg_double hC hE

end Decimals

/-! ## Every number -/

section Every

variable {number : ℚ} {m n : Nat} {e : Int}

theorem exists_nearest (h : 0 ≤ number) : ∃ n, Nearest n number := by
  have low := Nat.floor_le h
  have high := Nat.lt_floor_add_one number
  generalize ⌊number⌋₊ = n at low high
  rcases lt_trichotomy (number - n) (1 / 2) with below | half | above
  · have within : |number - n| < 1 / 2 := abs_lt.mpr ⟨by linarith, below⟩
    exact ⟨n, within.le, fun tie => absurd tie within.ne⟩
  · rcases Nat.mod_two_eq_zero_or_one n with even | odd
    · exact ⟨n, by rw [half]; norm_num, fun _ => even⟩
    · refine ⟨n + 1, ?_, fun _ => by omega⟩
      rw [Nat.cast_add, Nat.cast_one, show number - (n + 1 : ℚ) = -(1 / 2) by linarith]
      norm_num
  · have within : |number - (n + 1 : Nat)| < 1 / 2 := by
      push_cast
      exact abs_lt.mpr ⟨by linarith, by linarith⟩
    exact ⟨n + 1, within.le, fun tie => absurd tie within.ne⟩

/-- A nearest mantissa in the right unit makes a double that the number reads as. -/
theorem reads_of_nearest (h : Nearest n (number / 2 ^ e))
    (full : e = -1074 ∨ (2 : ℚ) ^ 52 ≤ number / 2 ^ e) : Reads n e number := by
  have unit : (0 : ℚ) < 2 ^ e := by positivity
  obtain ⟨low, high⟩ := abs_le.mp h.within
  have lower : (n : ℚ) - reach n e ≤ number / 2 ^ e := by
    unfold reach
    split
    · rename_i power
      have := full.resolve_left (by omega)
      rw [power.1]
      push_cast
      linarith
    · linarith
  refine ⟨(le_div_iff₀ unit).mp lower, (div_le_iff₀ unit).mp (by linarith), fun odd => ?_⟩
  have strict : |number / 2 ^ e - n| < 1 / 2 :=
    lt_of_le_of_ne h.within fun tie => by have := h.even tie; omega
  obtain ⟨inLow, inHigh⟩ := abs_lt.mp strict
  have half : reach n e = 1 / 2 := if_neg fun power => by omega
  rw [← lt_div_iff₀ unit, ← div_lt_iff₀ unit, half]
  exact ⟨by linarith, by linarith⟩

/-- Whatever is not too great reads as a double. -/
theorem exists_reads (nonneg : 0 ≤ number) (h : number < 2 ^ 1023) :
    ∃ m e, Canonical m e ∧ e ≤ 971 ∧ Reads m e number := by
  rcases nonneg.eq_or_lt with rfl | pos
  · refine ⟨0, -1074, ⟨by decide, le_rfl, .inl rfl⟩, by decide, ?_⟩
    simpa using reads_self 0 (-1074)
  obtain ⟨t, ht⟩ : ∃ t, max (Int.log 2 number - 52) (-1074) = t := ⟨_, rfl⟩
  have unit : (0 : ℚ) < 2 ^ t := by positivity
  have logLow : (2 : ℚ) ^ Int.log 2 number ≤ number := Int.zpow_log_le_self one_lt_two pos
  have logHigh : number < (2 : ℚ) ^ (Int.log 2 number + 1) := Int.lt_zpow_succ_log_self one_lt_two _
  have logBound : Int.log 2 number < 1023 :=
    (zpow_lt_zpow_iff_right₀ one_lt_two).mp (logLow.trans_lt h)
  have below : number / 2 ^ t < 2 ^ 53 := by
    rw [div_lt_iff₀ unit, ← zpow_natCast, ← zpow_add₀ two_ne_zero]
    exact logHigh.trans_le (zpow_le_zpow_right₀ one_le_two (by push_cast; omega))
  have full : t = -1074 ∨ (2 : ℚ) ^ 52 ≤ number / 2 ^ t := by
    by_cases least : t = -1074
    · exact .inl least
    · right
      rw [le_div_iff₀ unit, ← zpow_natCast, ← zpow_add₀ two_ne_zero]
      exact (zpow_le_zpow_right₀ one_le_two (by push_cast; omega)).trans logLow
  have positive : 0 ≤ number / 2 ^ t := by positivity
  obtain ⟨n, hn⟩ := exists_nearest positive
  obtain ⟨low, high⟩ := abs_le.mp hn.within
  have atMost : n ≤ 2 ^ 53 := by
    have : (n : ℚ) < 2 ^ 53 + 1 := by linarith
    have : n < 2 ^ 53 + 1 := by exact_mod_cast this
    omega
  rcases atMost.lt_or_eq with bits | rfl
  · refine ⟨n, t, ⟨bits, by omega, full.imp_right fun large => ?_⟩, by omega,
      reads_of_nearest hn full⟩
    have : (2 : ℚ) ^ 52 < n + 1 := by linarith
    have : 2 ^ 52 < n + 1 := by exact_mod_cast this
    omega
  -- a mantissa of one bit too many is the least one of the next exponent
  · refine ⟨2 ^ 52, t + 1, ⟨by decide, by omega, .inr le_rfl⟩, by omega, ?_, ?_,
      fun odd => absurd odd (by decide)⟩
    · rw [reach, if_pos ⟨rfl, by omega⟩, zpow_add_one₀ two_ne_zero]
      have : (2 ^ 53 - 1 / 2) * 2 ^ t ≤ number := by
        rw [← le_div_iff₀ unit]
        push_cast at high
        linarith
      push_cast
      linarith
    · rw [zpow_add_one₀ two_ne_zero]
      rw [div_lt_iff₀ unit] at below
      push_cast
      linarith

theorem isFinite_double (h : Canonical m e) (he : e ≤ 971) (negative : Bool) :
    (double negative m e).isFinite = true :=
  Binary.ofFloat_eq_finite_iff.mp ⟨_, _, _, ofFloat_double h he⟩

/-- The decimal with so many places that is nearest to a double. -/
theorem exists_reads_roundHalfEven (h : Canonical m e) (he : e ≤ 971) (places : Nat) :
    ∃ M E, Canonical M E ∧ E ≤ 971 ∧
      Reads M E ((((Fraction.scaled m 2 e).mul ⟨Nat.pow 10 places, 1⟩).roundHalfEven : ℚ) *
        10 ^ (-places : Int)) := by
  rw [zpow_neg, zpow_natCast]
  by_cases whole : 0 ≤ e
  · -- a whole number has the places already
    obtain ⟨k, rfl⟩ := Int.eq_ofNat_of_zero_le whole
    refine ⟨m, k, h, he, ?_⟩
    have same : (Fraction.scaled m 2 k).mul ⟨Nat.pow 10 places, 1⟩ =
        ⟨m * 2 ^ k * 10 ^ places, 1⟩ := by
      rw [Fraction.scaled, if_pos whole]
      rfl
    have value : ((m * 2 ^ k * 10 ^ places : Nat) : ℚ) * (10 ^ places)⁻¹ = m * 2 ^ (k : Int) := by
      rw [zpow_natCast]
      push_cast
      field_simp
    rw [same, Fraction.roundHalfEven_of_exact, value]
    exact reads_self m k
  · have den : 0 < ((Fraction.scaled m 2 e).mul ⟨Nat.pow 10 places, 1⟩).den :=
      Nat.mul_pos (Fraction.den_scaled_pos two_pos) Nat.one_pos
    have near := (abs_le.mp (Fraction.abs_value_sub_roundHalfEven den)).1
    have factor : Fraction.value ⟨Nat.pow 10 places, 1⟩ = 10 ^ places := by simp [Fraction.value]
    rw [Fraction.value_mul, Fraction.value_scaled, factor] at near
    generalize ((Fraction.scaled m 2 e).mul ⟨Nat.pow 10 places, 1⟩).roundHalfEven = n at near ⊢
    have size : (0 : ℚ) < 10 ^ places := by positivity
    have one : (1 : ℚ) ≤ 10 ^ places := one_le_pow₀ (by norm_num)
    have bits : (m : ℚ) < 2 ^ 53 := by exact_mod_cast h.bits
    have small : ((2 : Nat) : ℚ) ^ e ≤ 1 := zpow_le_one_of_nonpos₀ (by norm_num) (by omega)
    refine exists_reads (by positivity) ?_
    rw [← div_eq_mul_inv, div_lt_iff₀ size]
    have bound : (m : ℚ) * (2 : Nat) ^ e ≤ 2 ^ 53 := by
      calc (m : ℚ) * (2 : Nat) ^ e ≤ m * 1 := mul_le_mul_of_nonneg_left small (by positivity)
        _ ≤ 2 ^ 53 := by linarith
    calc (n : ℚ) ≤ m * (2 : Nat) ^ e * 10 ^ places + 1 / 2 := by linarith
      _ ≤ 2 ^ 53 * 10 ^ places + 10 ^ places :=
          add_le_add (mul_le_mul_of_nonneg_right bound size.le) (by linarith)
      _ = (2 ^ 53 + 1) * 10 ^ places := by ring
      _ < 2 ^ 1023 * 10 ^ places := by
          refine mul_lt_mul_of_pos_right ?_ size
          exact lt_of_lt_of_le (by norm_num) (pow_le_pow_right₀ one_le_two (by decide : 54 ≤ 1023))

/-- What a double is rounded to is a double again. -/
theorem isFinite_roundPlaces {x : Float} (h : x.isFinite = true) (places : Nat) :
    (roundPlaces places x).isFinite = true := by
  obtain ⟨negative, m, e, parts⟩ := Binary.ofFloat_eq_finite_iff.mpr h
  obtain ⟨canonical, bounded⟩ := canonical_of_ofFloat parts
  obtain ⟨M, E, hC, hE, hR⟩ := exists_reads_roundHalfEven canonical bounded places
  unfold roundPlaces
  rw [parts]
  dsimp only
  rw [ofScientific_eq_double hC hE true places hR]
  cases negative
  · exact isFinite_double hC hE false
  · rw [if_pos rfl, neg_double hC hE]
    exact isFinite_double hC hE true

end Every

end CommitLens.Decimal
