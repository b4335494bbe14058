import CommitLens.Decimal.Binary
import CommitLens.Number
import Mathlib.Tactic.SplitIfs

/-!
# Doubles

Doubles are compared as their fields say, and every double is finite, infinite or not
a number.  Main statements: the three kinds are those that the bits are read as, and
of two doubles that are numbers one is less than the other or not less.
-/

namespace CommitLens

open Float.Model (Format UnpackedFloat)
open Float.Model.UnpackedFloat (unpackExponent unpackMantissa)

/-! ## Kinds -/

section Kinds

theorem toNat_unpackExponent (x : Float) :
    (@unpackExponent Format.binary64 x.toModel.toBits.toBitVec).toNat =
      x.toBits.toNat / Nat.pow 2 52 % Nat.pow 2 11 := by
  unfold unpackExponent
  rw [BitVec.toNat_cast]
  show (BitVec.extractLsb 62 52 x.toModel.toBits.toBitVec).toNat = _
  rw [BitVec.extractLsb_toNat, Nat.shiftRight_eq_div_pow]
  rfl

theorem toNat_unpackMantissa (x : Float) :
    (@unpackMantissa Format.binary64 x.toModel.toBits.toBitVec).toNat =
      x.toBits.toNat % Nat.pow 2 52 := by
  unfold unpackMantissa
  rw [BitVec.toNat_cast]
  show (BitVec.extractLsb 51 0 x.toModel.toBits.toBitVec).toNat = _
  rw [BitVec.extractLsb_toNat, Nat.shiftRight_zero]
  rfl

theorem isNaN_eq_true_iff {u : UnpackedFloat} : u.isNaN = true ↔ u = .notANumber := by
  cases u with
  | notANumber => exact iff_of_true rfl rfl
  | _ => exact iff_of_false Bool.false_ne_true nofun

section Unpacking

variable {spec : Format} {b : BitVec spec.numBits}

/-- An exponent of ones is that of no finite number. -/
theorem unpack_of_ones (ones : unpackExponent b = -1#_) :
    UnpackedFloat.unpack spec b = if unpackMantissa b = 0#_ then
      .infinity (.ofBitVec (UnpackedFloat.unpackSign b)) else .notANumber :=
  if_pos ones

theorem isFinite_unpack (mixed : unpackExponent b ≠ -1#_) :
    (UnpackedFloat.unpack spec b).isFinite = true := by
  unfold UnpackedFloat.unpack
  dsimp only
  rw [if_neg mixed]
  by_cases least : unpackExponent b = 0#_
  · rw [if_pos least]
    by_cases zero : unpackMantissa b = 0#_
    · exact congrArg _ (dif_pos zero)
    · exact congrArg _ (dif_neg zero)
  · exact congrArg _ (if_neg least)

theorem isFinite_unpack_iff (b : BitVec spec.numBits) :
    (UnpackedFloat.unpack spec b).isFinite = true ↔ unpackExponent b ≠ -1#_ := by
  refine ⟨fun finite ones => ?_, isFinite_unpack⟩
  rw [unpack_of_ones ones] at finite
  split at finite <;> contradiction

theorem isNaN_unpack_iff (b : BitVec spec.numBits) :
    (UnpackedFloat.unpack spec b).isNaN = true ↔
      unpackExponent b = -1#_ ∧ unpackMantissa b ≠ 0#_ := by
  rw [isNaN_eq_true_iff]
  by_cases ones : unpackExponent b = -1#_
  · rw [unpack_of_ones ones]
    split_ifs with zero
    · exact iff_of_false id fun ⟨_, ne⟩ => ne zero
    · exact iff_of_true rfl ⟨ones, zero⟩
  · refine iff_of_false (fun none => ?_) fun ⟨same, _⟩ => ones same
    have finite := isFinite_unpack ones
    rw [none] at finite
    contradiction

end Unpacking

variable {x : Float}

theorem isFinite_iff_exponent :
    x.isFinite = true ↔ x.toBits.toNat / Nat.pow 2 52 % Nat.pow 2 11 ≠ 2047 := by
  have unpacked : x.isFinite = true ↔ _ := @isFinite_unpack_iff Format.binary64 _
  rw [unpacked, ← toNat_unpackExponent, Ne, ← BitVec.toNat_inj]
  rfl

theorem isNaN_iff_fields :
    x.isNaN = true ↔ x.toBits.toNat / Nat.pow 2 52 % Nat.pow 2 11 = 2047 ∧
      x.toBits.toNat % Nat.pow 2 52 ≠ 0 := by
  have unpacked : x.isNaN = true ↔ _ := @isNaN_unpack_iff Format.binary64 _
  rw [unpacked, ← toNat_unpackExponent, ← toNat_unpackMantissa, Ne, ← BitVec.toNat_inj,
    ← BitVec.toNat_inj]
  rfl

namespace Decimal.Binary

theorem ofFloat_eq_finite_iff :
    (∃ negative mantissa exponent, ofFloat x = finite negative mantissa exponent) ↔
      x.isFinite = true := by
  rw [isFinite_iff_exponent]
  unfold ofFloat
  dsimp only
  split_ifs <;> simp_all

theorem ofFloat_eq_notANumber_iff : ofFloat x = notANumber ↔ x.isNaN = true := by
  rw [isNaN_iff_fields]
  unfold ofFloat
  dsimp only
  split_ifs <;> simp_all

end Decimal.Binary

end Kinds

/-! ## Order -/

section Order

variable {a b : Float}

theorem swap_compare_sign (s t : UnpackedFloat.Sign) : (compare s t).swap = compare t s := by
  cases s <;> cases t <;> rfl

/-- Doubles compare in both directions alike. -/
theorem swap_compare (a b : UnpackedFloat) : (a.compare b).map Ordering.swap = b.compare a := by
  cases a with
  | notANumber => cases b <;> rfl
  | infinity s =>
      cases b with
      | notANumber => rfl
      | infinity t => exact congrArg some (swap_compare_sign s t)
      | zero => cases s <;> rfl
      | finite => cases s <;> rfl
  | zero s =>
      cases b with
      | notANumber => rfl
      | infinity t => cases t <;> rfl
      | zero => rfl
      | finite t => cases t <;> rfl
  | finite s m e =>
      cases b with
      | notANumber => cases s <;> rfl
      | infinity t => cases s <;> cases t <;> rfl
      | zero => cases s <;> rfl
      | finite t n f =>
          have magnitudes : ((compare e f).then (compare m n)).swap =
              (compare f e).then (compare n m) := by
            rw [Ordering.swap_then, ← Std.OrientedOrd.eq_swap, ← Std.OrientedOrd.eq_swap]
          cases s <;> cases t
          · exact congrArg (fun order => some (Ordering.swap order)) magnitudes
          · rfl
          · rfl
          · exact congrArg some magnitudes

theorem isSome_compare {a b : UnpackedFloat} (ha : a ≠ .notANumber) (hb : b ≠ .notANumber) :
    (a.compare b).isSome = true := by
  cases a with
  | notANumber => exact absurd rfl ha
  | infinity s | zero s | finite s =>
      cases b with
      | notANumber => exact absurd rfl hb
      | infinity t | zero t | finite t => cases s <;> cases t <;> rfl

theorem compare_eq_none_iff {a b : UnpackedFloat} :
    a.compare b = none ↔ a = .notANumber ∨ b = .notANumber := by
  by_cases ha : a = .notANumber
  · subst ha
    exact iff_of_true rfl (.inl rfl)
  · by_cases hb : b = .notANumber
    · subst hb
      exact iff_of_true (by cases a <;> rfl) (.inr rfl)
    · refine iff_of_false (fun none => ?_) (not_or_intro ha hb)
      have some := isSome_compare ha hb
      rw [none] at some
      contradiction

theorem isNaN_iff_unpack : a.isNaN = true ↔ a.toModel.unpack = .notANumber :=
  isNaN_eq_true_iff

theorem lt_iff_compare : a < b ↔ a.toModel.unpack.compare b.toModel.unpack = some .lt := by
  show decide (a.toModel < b.toModel) = true ↔ _
  rw [decide_eq_true_iff]
  exact beq_iff_eq

theorem le_iff_compare :
    a ≤ b ↔ (a.toModel.unpack.compare b.toModel.unpack).any (·.isLE) = true := by
  show decide (a.toModel ≤ b.toModel) = true ↔ _
  rw [decide_eq_true_iff]
  rfl

/-- What is less or greater than something is a number. -/
theorem isNaN_eq_false_of_less (h : Scalar.less a b = true) :
    a.isNaN = false ∧ b.isNaN = false := by
  have order := lt_iff_compare.mp (of_decide_eq_true h)
  have ordered : ¬(a.toModel.unpack = .notANumber ∨ b.toModel.unpack = .notANumber) := by
    rw [← compare_eq_none_iff, order]
    exact Option.some_ne_none _
  rw [← Bool.not_eq_true, ← Bool.not_eq_true, isNaN_iff_unpack, isNaN_iff_unpack]
  exact not_or.mp ordered

/-- Of two numbers the second one is at most the first one unless it is greater. -/
theorem le_of_less_eq_false (ha : a.isNaN = false) (hb : b.isNaN = false)
    (h : Scalar.less a b = false) : b ≤ a := by
  rw [← Bool.not_eq_true, isNaN_iff_unpack] at ha hb
  rw [le_iff_compare, ← swap_compare]
  cases order : a.toModel.unpack.compare b.toModel.unpack with
  | none => exact ((compare_eq_none_iff.mp order).elim ha hb).elim
  | some found =>
      have ne : found ≠ .lt := by
        rintro rfl
        exact of_decide_eq_false h (lt_iff_compare.mpr order)
      cases found with
      | lt => contradiction
      | eq => rfl
      | gt => rfl

end Order

end CommitLens
