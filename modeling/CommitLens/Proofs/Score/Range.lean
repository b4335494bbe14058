import CommitLens.Proofs.Config.Write
import CommitLens.Proofs.Score.Extended
import CommitLens.Score.Formula
import Mathlib.Data.Real.Basic

/-!
# The range of scores

Whatever weights are configured, a score is brought into the range from 0 to 10 at the
end; what is not a number passes through.  Main statement: a score is in the range
unless it is not a number, and it is told from the weights when that happens.
-/

namespace CommitLens

/-! ## Properties of all weights -/

namespace Multipliers

variable {β : Type} {p : β → Prop} {table changes : Multipliers β}

/-- Every number of a table has a property. -/
def All (p : β → Prop) (table : Multipliers β) : Prop :=
  ∀ entry ∈ table, p entry.2

theorem All.set (h : table.All p) (name : String) {value : β} (hv : p value) :
    (table.set name value).All p := by
  induction table with
  | nil => exact List.forall_mem_cons.mpr ⟨hv, List.forall_mem_nil _⟩
  | cons entry rest ih =>
      obtain ⟨first, others⟩ := List.forall_mem_cons.mp h
      unfold Multipliers.set
      split
      · exact List.forall_mem_cons.mpr ⟨hv, others⟩
      · exact List.forall_mem_cons.mpr ⟨first, ih others⟩

theorem All.merge (h : table.All p) (hc : changes.All p) : (table.merge changes).All p := by
  unfold Multipliers.merge
  induction changes generalizing table with
  | nil => exact h
  | cons entry rest ih =>
      obtain ⟨first, others⟩ := List.forall_mem_cons.mp hc
      exact ih (h.set entry.1 first) others

theorem All.find? (h : table.All p) {name : String} {value : β}
    (hf : table.find? name = some value) : p value := by
  obtain ⟨entry, he, rfl⟩ := Option.map_eq_some_iff.mp hf
  exact h entry (List.mem_of_find?_eq_some he)

end Multipliers

namespace WeightSetting

variable {α β : Type}

/-- The numbers of a setting have a property. -/
def All (p : α → Prop) (q : β → Prop) : WeightSetting α β → Prop
  | weight _ x => p x
  | table _ entries => Multipliers.All q entries

/-- A setting with numbers of another type. -/
def convert (value : α → β) : WeightSetting α α → WeightSetting β (Number β)
  | weight name x => weight name (value x)
  | table name entries => table name (entries.map fun (key, x) => (key, .real (value x)))

end WeightSetting

namespace Weights

variable {α β : Type} {p : α → Prop} {q : β → Prop} {weights : Weights α β}

/-- Every number among the weights has a property. -/
structure All (p : α → Prop) (q : β → Prop) (weights : Weights α β) : Prop where
  weight : ∀ name, p (weights.get name)
  fileKind : weights.fileKind.All q
  changeKind : weights.changeKind.All q

theorem get_set_weight (weights : Weights α β) (name other : WeightName) (x : α) :
    (weights.set (.weight name x)).get other = if name = other then x else weights.get other := by
  cases name <;> cases other <;> rfl

theorem All.set (h : weights.All p q) {setting : WeightSetting α β} (hs : setting.All p q) :
    (weights.set setting).All p q := by
  cases setting with
  | weight name x =>
      refine ⟨fun other => ?_, ?_, ?_⟩
      · rw [get_set_weight]
        split
        · exact hs
        · exact h.weight other
      · cases name <;> exact h.fileKind
      · cases name <;> exact h.changeKind
  | table name entries =>
      cases name with
      | fileKind => exact ⟨h.weight, h.fileKind.merge hs, h.changeKind⟩
      | changeKind => exact ⟨h.weight, h.fileKind, h.changeKind.merge hs⟩

theorem All.apply {settings : List (WeightSetting α β)} (h : weights.All p q)
    (hs : ∀ setting ∈ settings, setting.All p q) : (weights.apply settings).All p q := by
  unfold Weights.apply
  induction settings generalizing weights with
  | nil => exact h
  | cons setting rest ih =>
      obtain ⟨first, others⟩ := List.forall_mem_cons.mp hs
      exact ih (h.set first) others

end Weights

/-- The weights of a configuration in numbers of another type. -/
def Config.weightsIn {α : Type} [Scalar α] (value : Float → α) (config : Config) :
    Weights α (Number α) :=
  (Weights.standard Number.real).apply (config.scoring.map (WeightSetting.convert value))

/-- Among doubles, these are the weights that changes are scored with. -/
theorem Config.weightsIn_id (config : Config) : config.weightsIn id = config.weights := by
  unfold weightsIn weights
  congr 1
  refine List.map_congr_left fun setting _ => ?_
  cases setting <;> rfl

namespace ClassifiedChange

/-! ## What is brought into the range -/

section Clamp

variable {α : Type} [Scalar α] (weights : Weights α (Number α)) (change : ClassifiedChange)

/-- The weights of the contributions to a score. -/
def countedWeights : List α :=
  (change.contributions weights).map fun factor => factor.weight.toReal

def multipliers : List α :=
  [(multiplier weights.fileKind change.metadata.fileKind.text).toReal,
    (multiplier weights.changeKind change.kind.text).toReal]

/-- The score before it is brought into the range. -/
def unclamped : α :=
  Scalar.div ((change.multipliers weights).foldl Scalar.mul
    (weightedSum (change.contributions weights))) (Scalar.decimal 10 0)

theorem score_eq_clamp : (change.score weights).score = clamp (change.unclamped weights) := rfl

variable {x : α}

theorem clamp_of_unordered (hl : Scalar.less x (Scalar.decimal 0 0) = false)
    (hh : Scalar.less (Scalar.decimal 10 0) x = false) : clamp x = x := by
  simp only [clamp, Scalar.max, Scalar.min, hl, hh, Bool.false_eq_true, if_false]

/-- A number is not changed unless it is below the range or above it. -/
theorem clamp_cases (ordered : Scalar.less (Scalar.decimal 10 0 : α) (Scalar.decimal 0 0) = false) :
    Scalar.less x (Scalar.decimal 0 0) = true ∧ clamp x = Scalar.decimal 0 0 ∨
      Scalar.less (Scalar.decimal 10 0) x = true ∧ clamp x = Scalar.decimal 10 0 ∨
      Scalar.less x (Scalar.decimal 0 0) = false ∧ Scalar.less (Scalar.decimal 10 0) x = false ∧
        clamp x = x := by
  cases hl : Scalar.less x (Scalar.decimal 0 0) with
  | true =>
      refine .inl ⟨rfl, ?_⟩
      simp only [clamp, Scalar.max, Scalar.min, hl, ordered, Bool.false_eq_true, if_false, if_true]
  | false =>
      cases hh : Scalar.less (Scalar.decimal 10 0) x with
      | true =>
          refine .inr (.inl ⟨rfl, ?_⟩)
          simp only [clamp, Scalar.max, Scalar.min, hl, hh, Bool.false_eq_true, if_false, if_true]
      | false => exact .inr (.inr ⟨rfl, rfl, clamp_of_unordered hl hh⟩)

end Clamp

/-! ## Scores of doubles -/

theorem clamp_double (x : Float) :
    (clamp x).isNaN = x.isNaN ∧ (x.isNaN = false → 0 ≤ clamp x ∧ clamp x ≤ 10) := by
  have zero : (Scalar.decimal 0 0 : Float) = 0 := by decide +kernel
  have ten : (Scalar.decimal 10 0 : Float) = 10 := by decide +kernel
  have isNaN_zero : (0 : Float).isNaN = false := by decide +kernel
  have isNaN_ten : (10 : Float).isNaN = false := by decide +kernel
  have ordered : Scalar.less (Scalar.decimal 10 0 : Float) (Scalar.decimal 0 0) = false := by
    decide +kernel
  have cases := clamp_cases (x := x) ordered
  rw [zero, ten] at cases
  rcases cases with ⟨hl, he⟩ | ⟨hh, he⟩ | ⟨hl, hh, he⟩
  · rw [he, isNaN_zero, (isNaN_eq_false_of_less hl).1]
    exact ⟨rfl, fun _ => by decide +kernel⟩
  · rw [he, isNaN_ten, (isNaN_eq_false_of_less hh).2]
    exact ⟨rfl, fun _ => by decide +kernel⟩
  · rw [he]
    exact ⟨rfl, fun hx => ⟨le_of_less_eq_false hx isNaN_zero hl,
      le_of_less_eq_false isNaN_ten hx hh⟩⟩

/-! ## Scores of exact numbers -/

section Exact

open Extended (finite infinite notANumber)

variable {K : Type} [Field K] [LinearOrder K]

/-- Where the weights leave no score: a contribution or a multiplier is not a number,
contributions are infinite in both directions, or an infinity meets a zero. -/
inductive Undetermined (weights : Weights (Extended K) (Number (Extended K)))
    (change : ClassifiedChange) : Prop where
  | weight (h : notANumber ∈ change.countedWeights weights)
  | opposite (above : infinite false ∈ change.countedWeights weights)
      (below : infinite true ∈ change.countedWeights weights)
  | multiplier (h : notANumber ∈ change.multipliers weights)
  | product {s : Bool}
      (large : infinite s ∈ weightedSum (change.contributions weights) ::
        change.multipliers weights)
      (zero : finite 0 ∈ weightedSum (change.contributions weights) :: change.multipliers weights)

variable {weights : Weights (Extended K) (Number (Extended K))} {change : ClassifiedChange}

/-- The number in a contribution is positive. -/
theorem exists_of_mem_contributions {α β : Type} [Scalar α] {weights : Weights α β}
    {factor : ScoreFactor α} (h : factor ∈ change.contributions weights) :
    ∃ (n : Int) (name : WeightName), 0 < n ∧ factor.value = .whole n ∧
      factor.weight = .real (weights.get name) := by
  simp only [contributions, ClassifiedChange.factor, List.mem_append, List.mem_ite_nil_right,
    List.mem_singleton] at h
  rcases h with ((((⟨_, rfl⟩ | ⟨_, rfl⟩) | ⟨_, rfl⟩) | ⟨_, rfl⟩) | ⟨hs, rfl⟩) | ⟨hi, rfl⟩
  · exact ⟨10, .breaking, by decide, rfl, rfl⟩
  · exact ⟨8, .publicApi, by decide, rfl, rfl⟩
  · exact ⟨6, .feature, by decide, rfl, rfl⟩
  · exact ⟨5, .fix, by decide, rfl, rfl⟩
  · exact ⟨_, .fileSize, lt_min hs (by decide), rfl, rfl⟩
  · exact ⟨_, .semanticImpact, Int.natCast_pos.mpr hi, rfl, rfl⟩

theorem weightedSum_eq_foldl (factors : List (ScoreFactor (Extended K))) :
    weightedSum factors = (factors.map fun factor =>
      Extended.mul factor.value.toReal factor.weight.toReal).foldl Extended.add (finite 0) := by
  rw [weightedSum, List.foldl_map, Extended.decimal_zero]
  rfl

/-! Finite weights leave nothing undetermined. -/

theorem isFinite_weightedSum
    (h : weights.All Extended.IsFinite fun x => x.toReal.IsFinite) :
    (weightedSum (change.contributions weights)).IsFinite := by
  rw [weightedSum_eq_foldl]
  refine Extended.isFinite_foldl_add ⟨0, rfl⟩ fun term ht => ?_
  obtain ⟨factor, hf, rfl⟩ := List.mem_map.mp ht
  obtain ⟨n, name, -, hv, hw⟩ := exists_of_mem_contributions hf
  rw [hv, hw]
  exact Extended.IsFinite.mul ⟨n, rfl⟩ (h.weight name)

theorem isFinite_of_mem_multipliers
    (h : weights.All Extended.IsFinite fun x => x.toReal.IsFinite) :
    ∀ x ∈ change.multipliers weights, x.IsFinite := by
  have listed {table : Multipliers (Number (Extended K))}
      (ht : table.All fun x => x.toReal.IsFinite) (name : String) :
      (ClassifiedChange.multiplier table name).toReal.IsFinite := by
    unfold ClassifiedChange.multiplier
    cases hf : table.find? name with
    | none => exact ⟨_, rfl⟩
    | some value => exact ht.find? hf
  exact List.forall_mem_cons.mpr ⟨listed h.fileKind _, List.forall_mem_singleton.mpr
    (listed h.changeKind _)⟩

theorem not_undetermined_of_finite
    (h : weights.All Extended.IsFinite fun x => x.toReal.IsFinite) :
    ¬change.Undetermined weights := by
  have counted : ∀ x ∈ change.countedWeights weights, x.IsFinite := by
    intro x hx
    obtain ⟨factor, hf, rfl⟩ := List.mem_map.mp hx
    obtain ⟨-, name, -, -, hw⟩ := exists_of_mem_contributions hf
    rw [hw]
    exact h.weight name
  have multiplied : ∀ x ∈ weightedSum (change.contributions weights) ::
      change.multipliers weights, x.IsFinite :=
    List.forall_mem_cons.mpr ⟨isFinite_weightedSum h, isFinite_of_mem_multipliers h⟩
  rintro (hw | ⟨above, -⟩ | hm | ⟨large, -⟩)
  · exact Extended.not_isFinite_notANumber (counted _ hw)
  · exact Extended.not_isFinite_infinite (counted _ above)
  · exact Extended.not_isFinite_notANumber (isFinite_of_mem_multipliers h _ hm)
  · exact Extended.not_isFinite_infinite (multiplied _ large)

variable [IsStrictOrderedRing K]

theorem weightedSum_eq_notANumber_iff :
    weightedSum (change.contributions weights) = notANumber ↔
      ¬Extended.Summable (change.countedWeights weights) := by
  have positive : ∀ factor ∈ change.contributions weights,
      ∃ x : K, 0 < x ∧ factor.value.toReal = finite x := by
    intro factor hf
    obtain ⟨n, -, hn, hv, -⟩ := exists_of_mem_contributions hf
    exact ⟨n, Int.cast_pos.mpr hn, by rw [hv]; rfl⟩
  rw [weightedSum_eq_foldl, Extended.foldl_add_eq_notANumber_iff, Extended.summable_finite_cons,
    Extended.summable_mul_pos positive]
  rfl

theorem unclamped_eq_notANumber_iff :
    change.unclamped weights = notANumber ↔ change.Undetermined weights := by
  have product : change.unclamped weights = notANumber ↔
      ¬Extended.Multipliable (weightedSum (change.contributions weights) ::
        change.multipliers weights) := by
    unfold unclamped
    rw [Extended.decimal_ten]
    exact (Extended.mul_inverse_eq_notANumber_iff (by norm_num)).trans
      Extended.foldl_mul_eq_notANumber_iff
  rw [product, Extended.Multipliable, List.mem_cons, eq_comm, weightedSum_eq_notANumber_iff,
    Extended.Summable]
  constructor
  · intro h
    by_contra determined
    refine h ⟨not_or.mpr ⟨not_not.mpr ⟨?_, ?_⟩, ?_⟩, ?_⟩
    · exact fun hw => determined (.weight hw)
    · exact fun hw => determined (.opposite hw.2 hw.1)
    · exact fun hm => determined (.multiplier hm)
    · exact fun s large zero => determined (.product large zero)
  · rintro (hw | ⟨above, below⟩ | hm | ⟨large, zero⟩) ⟨hn, hz⟩
    · exact hn (.inl fun h => h.1 hw)
    · exact hn (.inl fun h => h.2 ⟨below, above⟩)
    · exact hn (.inr hm)
    · exact hz _ large zero

theorem clamp_exact (x : Extended K) :
    (clamp x = notANumber ↔ x = notANumber) ∧
      (x ≠ notANumber → ∃ y, clamp x = finite y ∧ 0 ≤ y ∧ y ≤ 10) := by
  have positive : (0 : K) ≤ 10 := by norm_num
  have ordered : Scalar.less (Scalar.decimal 10 0 : Extended K) (Scalar.decimal 0 0) = false := by
    rw [Extended.decimal_zero, Extended.decimal_ten]
    exact decide_eq_false (not_lt.mpr positive)
  have cases := clamp_cases (x := x) ordered
  rw [Extended.decimal_zero, Extended.decimal_ten] at cases
  rcases cases with ⟨hl, he⟩ | ⟨hh, he⟩ | ⟨hl, hh, he⟩
  · have hx : x ≠ notANumber := by
      rintro rfl
      exact Bool.noConfusion (Extended.less_notANumber_left.symm.trans hl)
    rw [he]
    exact ⟨iff_of_false (by simp) hx, fun _ => ⟨0, rfl, le_rfl, positive⟩⟩
  · have hx : x ≠ notANumber := by
      rintro rfl
      exact Bool.noConfusion (Extended.less_notANumber_right.symm.trans hh)
    rw [he]
    exact ⟨iff_of_false (by simp) hx, fun _ => ⟨10, rfl, positive, le_rfl⟩⟩
  · rw [he]
    exact ⟨Iff.rfl, fun hn => Extended.exists_of_less_eq_false hn hl hh⟩

theorem score_eq_notANumber_iff :
    (change.score weights).score = notANumber ↔ change.Undetermined weights :=
  (clamp_exact _).1.trans unclamped_eq_notANumber_iff

theorem score_of_determined (h : ¬change.Undetermined weights) :
    ∃ x, (change.score weights).score = finite x ∧ 0 ≤ x ∧ x ≤ 10 :=
  (clamp_exact _).2 fun hu => h (unclamped_eq_notANumber_iff.mp hu)

end Exact

end ClassifiedChange

/-! ## Configured weights -/

theorem Weights.isFinite_standard {K : Type} [Field K] [LinearOrder K] :
    (Weights.standard (α := Extended K) Number.real).All Extended.IsFinite
      fun x => x.toReal.IsFinite := by
  refine ⟨fun name => ?_, ?_, ?_⟩
  · cases name <;> exact ⟨_, rfl⟩
  · simp only [Multipliers.All, Weights.standard, List.forall_mem_cons]
    exact ⟨⟨_, rfl⟩, ⟨_, rfl⟩, ⟨_, rfl⟩, ⟨_, rfl⟩, List.forall_mem_nil _⟩
  · simp only [Multipliers.All, Weights.standard, List.forall_mem_cons]
    exact ⟨⟨_, rfl⟩, ⟨_, rfl⟩, ⟨_, rfl⟩, ⟨_, rfl⟩, List.forall_mem_nil _⟩

/-- No infinity is configured, nor what is not a number. -/
def Config.HasFiniteWeights (config : Config) : Prop :=
  ∀ setting ∈ config.scoring, setting.All (fun x => x.isFinite = true) fun x => x.isFinite = true

theorem Config.HasFiniteWeights.weightsIn {config : Config} (h : config.HasFiniteWeights)
    {K : Type} [Field K] [LinearOrder K] :
    (config.weightsIn (Extended.ofFloat (K := K))).All Extended.IsFinite
      fun x => x.toReal.IsFinite := by
  refine Weights.isFinite_standard.apply fun setting hs => ?_
  obtain ⟨given, hg, rfl⟩ := List.mem_map.mp hs
  have finite := h given hg
  cases given with
  | weight name x => exact Extended.isFinite_ofFloat finite
  | table name entries =>
      rintro entry he
      obtain ⟨before, hb, rfl⟩ := List.mem_map.mp he
      exact Extended.isFinite_ofFloat (finite before hb)

/-- How far the score of a change keeps to the range from 0 to 10. -/
structure Config.KeepsRange (config : Config) (change : ClassifiedChange) : Prop where
  /-- As it is computed: what is brought into the range is in it unless it is no number. -/
  double : (change.score config.weights).score.isNaN = (change.unclamped config.weights).isNaN ∧
    ((change.unclamped config.weights).isNaN = false →
      0 ≤ (change.score config.weights).score ∧ (change.score config.weights).score ≤ 10)
  /-- Without rounding it is known which weights lead to no number. -/
  exact : let weights := config.weightsIn (Extended.ofFloat (K := ℝ))
    ((change.score weights).score = .notANumber ↔ change.Undetermined weights) ∧
      (¬change.Undetermined weights →
        ∃ x, (change.score weights).score = .finite x ∧ 0 ≤ x ∧ x ≤ 10)
  finite : config.HasFiniteWeights →
    ∃ x, (change.score (config.weightsIn (Extended.ofFloat (K := ℝ)))).score = .finite x ∧
      0 ≤ x ∧ x ≤ 10

theorem Config.keepsRange (config : Config) (change : ClassifiedChange) :
    config.KeepsRange change :=
  ⟨ClassifiedChange.clamp_double _, ⟨ClassifiedChange.score_eq_notANumber_iff,
    ClassifiedChange.score_of_determined⟩, fun h => ClassifiedChange.score_of_determined
      (ClassifiedChange.not_undetermined_of_finite h.weightsIn)⟩

/-- Reading accepts every number as a weight. -/
theorem exists_parseConfig_scoring (scoring : List (WeightSetting Float Float)) :
    ∃ data, parseConfig data = .ok { scoring } := by
  have distinct : (defaultRules.map (·.id)).Nodup := by decide
  have accepted : Config.Accepted { scoring } :=
    ⟨defaultRules_accepted fun _ h => h, distinct, [], rfl, by simp⟩
  exact ⟨_, accepted.parseConfig_toValue none⟩

theorem ClassifiedChange.undetermined_of_breaking {K : Type} [Field K] [LinearOrder K]
    {change : ClassifiedChange} (breaking : change.breaking = true) {x : Float}
    (hx : x.isNaN = true) :
    change.Undetermined
      (Config.weightsIn (Extended.ofFloat (K := K)) { scoring := [.weight .breaking x] }) := by
  refine .weight (List.mem_map.mpr ⟨factor "breaking_change" 10 (Extended.ofFloat x), ?_, ?_⟩)
  · simp only [contributions, breaking, if_true, List.append_assoc]
    exact List.mem_append_left _ List.mem_cons_self
  · exact Extended.ofFloat_eq_notANumber_iff.mpr hx

/-- Four ways to a score that is not a number: by a weight that is none, by infinite weights
with opposite signs, by an infinity times zero, and, in doubles only, by weights that are
finite and too large. -/
theorem parseConfig_score_notANumber :
    let infinity : Float := 1 / 0
    let change : ClassifiedChange :=
      { path := "a.ts", kind := .modified, commitType := "feat", breaking := true
        metadata := { fileKind := .script } }
    (∀ scoring ∈ [[.weight .breaking (0 / 0)],
        [.weight .breaking infinity, .weight .feature (-infinity)],
        [.weight .breaking infinity, .table .fileKind [("script", 0)]],
        [.weight .breaking 1e308, .weight .feature (-1e308)]],
      (∃ data, parseConfig data = .ok { scoring }) ∧
        (change.score (Config.weights { scoring })).score.isNaN = true ∧
        ¬(0 ≤ (change.score (Config.weights { scoring })).score ∧
          (change.score (Config.weights { scoring })).score ≤ 10)) ∧
      (change.score (Config.weightsIn (Extended.ofFloat (K := ℝ))
        { scoring := [.weight .breaking (0 / 0)] })).score = .notANumber := by
  intro infinity change
  refine ⟨fun scoring hs => ⟨exists_parseConfig_scoring scoring, ?_⟩, ?_⟩
  · revert scoring
    decide +kernel
  · have isNaN : (0 / 0 : Float).isNaN = true := by decide +kernel
    exact ClassifiedChange.score_eq_notANumber_iff.mpr
      (ClassifiedChange.undetermined_of_breaking rfl isNaN)
end CommitLens
