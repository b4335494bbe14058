import CommitLens.Proofs.Score.Range
import Mathlib.Algebra.Order.BigOperators.Group.List
import Mathlib.Algebra.Order.Field.Rat
import Mathlib.Data.List.Perm.Subperm
import Mathlib.Tactic.Positivity

/-!
# Scores and what they are made of

In exact arithmetic a score is what its factors add up to.  Main statement: it can be
computed again from the factors that are kept with it, it does not fall when a change
grows unless a weight is negative, and it does not depend on the order of the deltas.
-/

namespace CommitLens

/-! ## Exact arithmetic -/

instance : Scalar ℚ where
  ofInt n := n
  decimal mantissa places := mantissa / 10 ^ places
  add a b := a + b
  mul a b := a * b
  div a b := a / b
  less a b := a < b

theorem scalarDecimal_zero_rat : (Scalar.decimal 0 0 : ℚ) = 0 := by
  simp [Scalar.decimal]

theorem scalarDecimal_ten_rat : (Scalar.decimal 10 0 : ℚ) = 10 := by
  simp [Scalar.decimal]

theorem scalarMax_rat (a b : ℚ) : Scalar.max a b = max a b := by
  simp only [Scalar.max, Scalar.less, decide_eq_true_eq, max_def]
  by_cases h : a < b
  · rw [if_pos h, if_pos h.le]
  · rw [if_neg h]
    split
    · rename_i le
      exact le_antisymm le (not_lt.mp h)
    · rfl

theorem scalarMin_rat (a b : ℚ) : Scalar.min a b = min a b := by
  simp only [Scalar.min, Scalar.less, decide_eq_true_eq, min_def]
  by_cases h : b < a
  · rw [if_pos h, if_neg (not_le.mpr h)]
  · rw [if_neg h, if_pos (not_lt.mp h)]

/-- What a factor adds to the sum of its score. -/
def ScoreFactor.amount (factor : ScoreFactor ℚ) : ℚ :=
  factor.value.toReal * factor.weight.toReal

/-- No weight is negative, and no multiplier. -/
def Weights.NonNegative (weights : Weights ℚ (Number ℚ)) : Prop :=
  weights.All (0 ≤ ·) fun x => 0 ≤ x.toReal

/-! ## Semantic impacts -/

section Impacts

variable {deltas others : List Delta}

theorem semanticImpact_eq_sum (deltas : List Delta) :
    semanticImpact deltas =
      min ((deltas.map fun delta => delta.kind.weight).sum +
        3 * deltas.countP (·.severity.isSevere)) 20 := by
  rw [semanticImpact, List.countP_eq_length_filter]
  rfl

theorem semanticImpact_perm (h : deltas.Perm others) :
    semanticImpact deltas = semanticImpact others := by
  rw [semanticImpact_eq_sum, semanticImpact_eq_sum, (h.map _).sum_eq, h.countP_eq]

theorem semanticImpact_le_of_sublist (h : deltas.Sublist others) :
    semanticImpact deltas ≤ semanticImpact others := by
  have kinds := (h.map fun delta => delta.kind.weight).sum_le_sum fun _ _ => Nat.zero_le _
  have severe := h.countP_le (p := fun delta => delta.severity.isSevere)
  rw [semanticImpact_eq_sum, semanticImpact_eq_sum]
  omega

/-- More deltas mean at least as much, in whatever order they come. -/
theorem semanticImpact_le (h : deltas.Subperm others) :
    semanticImpact deltas ≤ semanticImpact others := by
  obtain ⟨kept, same, sub⟩ := h
  exact semanticImpact_perm same ▸ semanticImpact_le_of_sublist sub

end Impacts

namespace ClassifiedChange

/-! ## Sums and products of factors -/

section Sums

variable (weights : Weights ℚ (Number ℚ)) (change : ClassifiedChange)

theorem clamp_rat (x : ℚ) : clamp x = min (max x 0) 10 := by
  rw [clamp, scalarDecimal_zero_rat, scalarDecimal_ten_rat, scalarMax_rat, scalarMin_rat]

theorem weightedSum_eq_sum (factors : List (ScoreFactor ℚ)) :
    weightedSum factors = (factors.map ScoreFactor.amount).sum := by
  rw [weightedSum, scalarDecimal_zero_rat, List.sum_eq_foldl, List.foldl_map]
  rfl

theorem amount_factor (name : String) (value : Int) (weight : ℚ) :
    (factor name value weight).amount = value * weight :=
  rfl

theorem sum_ite_singleton {p : Prop} [Decidable p] (factor : ScoreFactor ℚ) :
    ((if p then [factor] else []).map ScoreFactor.amount).sum =
      if p then factor.amount else 0 := by
  split <;> simp

/-- The lines of a change as far as they count. -/
def countedSize (change : ClassifiedChange) : Int :=
  max 0 (min change.size 1000)

theorem ite_size_eq (weight : ℚ) :
    (if 0 < change.size then (min change.size 1000 : Int) * weight else 0) =
      change.countedSize * weight := by
  unfold countedSize
  by_cases h : 0 < change.size
  · rw [if_pos h, max_eq_right (le_min h.le (by decide))]
  · rw [if_neg h, max_eq_left ((min_le_left _ _).trans (not_lt.mp h)), Int.cast_zero, zero_mul]

theorem ite_impact_eq (weight : ℚ) :
    (if 0 < semanticImpact change.deltas then (semanticImpact change.deltas : Int) * weight
      else 0) = semanticImpact change.deltas * weight := by
  by_cases h : 0 < semanticImpact change.deltas
  · rw [if_pos h, Int.cast_natCast]
  · rw [if_neg h, Nat.eq_zero_of_not_pos h, Nat.cast_zero, zero_mul]

/-- What is left out of the factors of a change would add nothing. -/
theorem weightedSum_contributions :
    weightedSum (change.contributions weights) =
      (if change.breaking then 10 * weights.breaking else 0) +
        (if change.scope == .publicApi then 8 * weights.publicApi else 0) +
        (if change.commitType == "feat" then 6 * weights.feature else 0) +
        (if change.commitType == "fix" then 5 * weights.fix else 0) +
        change.countedSize * weights.fileSize +
        semanticImpact change.deltas * weights.semanticImpact := by
  rw [weightedSum_eq_sum, ← ite_size_eq, ← ite_impact_eq]
  simp only [contributions, List.map_append, List.sum_append, sum_ite_singleton, amount_factor]
  rfl

theorem score_eq_clamp_sum :
    (change.score weights).score =
      min (max (weightedSum (change.contributions weights) *
        (multiplier weights.fileKind change.metadata.fileKind.text).toReal *
        (multiplier weights.changeKind change.kind.text).toReal / 10) 0) 10 := by
  rw [score_eq_clamp, clamp_rat, unclamped, scalarDecimal_ten_rat]
  rfl

end Sums

/-! ## Growing changes -/

/-- The other change is the same one with more in it: with more deltas or more lines, or
breaking. -/
structure GrowsInto (change other : ClassifiedChange) : Prop where
  deltas : change.deltas.Subperm other.deltas
  linesAdded : change.metadata.linesAdded ≤ other.metadata.linesAdded
  linesRemoved : change.metadata.linesRemoved ≤ other.metadata.linesRemoved
  breaking : change.breaking = true → other.breaking = true
  /-- All else is equal. -/
  same : other = { change with
    deltas := other.deltas
    breaking := other.breaking
    metadata := { change.metadata with
      linesAdded := other.metadata.linesAdded
      linesRemoved := other.metadata.linesRemoved } }

variable {weights : Weights ℚ (Number ℚ)} {change other : ClassifiedChange}

theorem GrowsInto.countedSize_le (h : change.GrowsInto other) :
    change.countedSize ≤ other.countedSize := by
  have size : change.size ≤ other.size := add_le_add h.linesAdded h.linesRemoved
  exact max_le_max_left 0 (min_le_min_right 1000 size)

theorem GrowsInto.weightedSum_le (h : change.GrowsInto other) (hw : weights.NonNegative) :
    weightedSum (change.contributions weights) ≤ weightedSum (other.contributions weights) := by
  have breaking : (if change.breaking then 10 * weights.breaking else 0) ≤
      if other.breaking then 10 * weights.breaking else 0 := by
    have positive : 0 ≤ 10 * weights.breaking := mul_nonneg (by norm_num) (hw.weight .breaking)
    by_cases hb : change.breaking = true
    · rw [if_pos hb, if_pos (h.breaking hb)]
    · rw [if_neg hb]
      split
      · exact positive
      · exact le_rfl
  have size : (change.countedSize : ℚ) * weights.fileSize ≤ other.countedSize * weights.fileSize :=
    mul_le_mul_of_nonneg_right (Int.cast_le.mpr h.countedSize_le) (hw.weight .fileSize)
  have impact : (semanticImpact change.deltas : ℚ) * weights.semanticImpact ≤
      semanticImpact other.deltas * weights.semanticImpact :=
    mul_le_mul_of_nonneg_right (Nat.cast_le.mpr (semanticImpact_le h.deltas))
      (hw.weight .semanticImpact)
  have scope : other.scope = change.scope := by rw [h.same]
  have commitType : other.commitType = change.commitType := by rw [h.same]
  rw [weightedSum_contributions, weightedSum_contributions, scope, commitType]
  gcongr

theorem toReal_multiplier_nonneg {table : Multipliers (Number ℚ)}
    (h : table.All fun x => 0 ≤ x.toReal) (name : String) : 0 ≤ (multiplier table name).toReal := by
  unfold multiplier
  cases found : table.find? name with
  | none => exact (by norm_num [Scalar.decimal, Number.toReal])
  | some value => exact h.find? found

theorem GrowsInto.score_le (h : change.GrowsInto other) (hw : weights.NonNegative) :
    (change.score weights).score ≤ (other.score weights).score := by
  have fileKind : other.metadata.fileKind = change.metadata.fileKind := by rw [h.same]
  have kind : other.kind = change.kind := by rw [h.same]
  have file := toReal_multiplier_nonneg hw.fileKind change.metadata.fileKind.text
  have change := toReal_multiplier_nonneg hw.changeKind change.kind.text
  rw [score_eq_clamp_sum, score_eq_clamp_sum, fileKind, kind]
  gcongr
  exact h.weightedSum_le hw

/-- The order of the deltas is not seen by any factor. -/
theorem score_reordered {deltas : List Delta} (h : change.deltas.Perm deltas) :
    (({ change with deltas } : ClassifiedChange).score weights).score =
      (change.score weights).score := by
  have same : ({ change with deltas } : ClassifiedChange).contributions weights =
      change.contributions weights := by
    unfold contributions
    rw [semanticImpact_perm h]
    rfl
  rw [score_eq_clamp_sum, score_eq_clamp_sum, same]

/-! ## Accounts -/

/-- A score that is explained by its factors, and that rises and falls with its change. -/
structure Accountable (weights : Weights ℚ (Number ℚ)) (change : ClassifiedChange) : Prop where
  /-- The last two factors are the multipliers of what the others add up to. -/
  explained : ∃ counted fileKind changeKind,
    (change.score weights).factors = counted ++
      [⟨"file_type", .whole 1, fileKind⟩, ⟨"change_kind", .whole 1, changeKind⟩] ∧
    (change.score weights).score =
      min (max ((counted.map ScoreFactor.amount).sum * fileKind.toReal * changeKind.toReal / 10) 0)
        10
  grows : weights.NonNegative → ∀ other, change.GrowsInto other →
    (change.score weights).score ≤ (other.score weights).score
  reordered : ∀ deltas, change.deltas.Perm deltas →
    (({ change with deltas } : ClassifiedChange).score weights).score =
      (change.score weights).score

theorem score_accountable (weights : Weights ℚ (Number ℚ)) (change : ClassifiedChange) :
    Accountable weights change where
  explained := ⟨change.contributions weights, _, _, rfl,
    weightedSum_eq_sum (change.contributions weights) ▸ score_eq_clamp_sum weights change⟩
  grows hw _ h := h.score_le hw
  reordered _ h := score_reordered h

/-- Both caps are reached by one file with two severe deltas, and a negative weight makes
its score fall when the file grows. -/
example :
    let delta : Delta := ⟨.methodRemoved, "Removed export: f", .breaking, some "f"⟩
    let change (lines : Int) (deltas : List Delta) : ClassifiedChange :=
      { path := "a.py", kind := .modified, deltas
        metadata := { fileKind := .test, linesAdded := lines } }
    let weights : Weights ℚ (Number ℚ) := Weights.standard .real
    ((change 2000 [delta, delta]).score weights).score = 15 / 2 ∧
      ((change 2000 [delta, delta, delta]).score weights).score = 15 / 2 ∧
      ((change 9 [delta]).score { weights with fileSize := -1 }).score <
        ((change 3 [delta]).score { weights with fileSize := -1 }).score := by
  decide +kernel

end ClassifiedChange

end CommitLens
