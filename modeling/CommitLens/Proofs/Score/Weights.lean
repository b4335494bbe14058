import CommitLens.Score.Settings
import Mathlib.Data.List.Nodup

/-!
# Setting weights

Merging keeps the names of a table in their places and puts new names behind them.
Main statements: weights that are written out in full and set again are the same
weights (`apply_settings`), and reading settings from their mapping never fails
(`ofData_toMember`).
-/

namespace CommitLens

/-! ## Reading one thing after the other -/

theorem bind_eq_ok_iff {ε α β : Type} {x : Except ε α} {f : α → Except ε β} {b : β} :
    (x >>= f) = .ok b ↔ ∃ a, x = .ok a ∧ f a = .ok b := by
  cases x <;> simp [bind, Except.bind]

/-- Items that are each written to something that is read as a value are read to their
values. -/
theorem mapM_written {m : Type → Type} [Monad m] [LawfulMonad m] {α β γ : Type} {read : β → m γ}
    {write : α → β} {value : α → γ} (h : ∀ item, read (write item) = pure (value item))
    (items : List α) : (items.map write).mapM read = pure (items.map value) := by
  rw [List.mapM_map, ← List.mapM_pure]
  exact congrArg (List.mapM · items) (funext h)

theorem mapM_written_self {m : Type → Type} [Monad m] [LawfulMonad m] {α β : Type} {read : β → m α}
    {write : α → β} (h : ∀ item, read (write item) = pure item) (items : List α) :
    (items.map write).mapM read = pure items :=
  (mapM_written h items).trans (congrArg pure (List.map_id' items))

/-! ## Tables -/

namespace Multipliers

variable {β γ : Type}

def names (table : Multipliers β) : List String :=
  table.map (·.1)

theorem names_cons (entry : String × β) (table : Multipliers β) :
    names (entry :: table) = entry.1 :: table.names := rfl

theorem names_append (table others : Multipliers β) :
    names (table ++ others) = table.names ++ others.names :=
  List.map_append

theorem names_set (name : String) (value : β) (table : Multipliers β) :
    (set name value table).names =
      if name ∈ table.names then table.names else table.names ++ [name] := by
  induction table with
  | nil => rfl
  | cons entry rest ih =>
      unfold set
      by_cases here : entry.1 = name
      · simp [names_cons, here]
      · have apart : ¬name = entry.1 := fun same => here same.symm
        by_cases later : name ∈ names rest
        · simp [names_cons, here, later, ih]
        · simp [names_cons, here, apart, later, ih]

theorem set_append {name : String} {done : Multipliers β} (h : name ∉ done.names) (value : β)
    (rest : Multipliers β) : set name value (done ++ rest) = done ++ set name value rest := by
  induction done with
  | nil => rfl
  | cons entry others ih =>
      obtain ⟨apart, new⟩ := not_or.mp (mt List.mem_cons.mpr h)
      have differ : (entry.1 == name) = false := beq_false_of_ne (Ne.symm apart)
      simp only [List.cons_append, set, differ, ih new, Bool.false_eq_true, if_false]

/-- The names of a table are those of another one, and new ones behind them. -/
structure Extends (table base : Multipliers β) : Prop where
  starts : base.names <+: table.names
  distinct : table.names.Nodup

namespace Extends

variable {table base : Multipliers β}

theorem set (h : table.Extends base) (name : String) (value : β) :
    (table.set name value).Extends base := by
  by_cases known : name ∈ table.names
  · have same : (table.set name value).names = table.names := by rw [names_set, if_pos known]
    exact ⟨same ▸ h.starts, same ▸ h.distinct⟩
  · have longer : (table.set name value).names = table.names ++ [name] := by
      rw [names_set, if_neg known]
    refine ⟨longer ▸ h.starts.trans (List.prefix_append _ _), longer ▸ ?_⟩
    exact List.nodup_append.mpr ⟨h.distinct, List.nodup_singleton name,
      fun other found last hlast same => known (List.mem_singleton.mp hlast ▸ same ▸ found)⟩

theorem merge (h : table.Extends base) (changes : Multipliers β) :
    (table.merge changes).Extends base := by
  induction changes generalizing table with
  | nil => exact h
  | cons entry rest ih => exact ih (h.set entry.1 entry.2)

end Extends

/-- Merging a table into its own beginning: the names in `old` get their values in
their places, and the others follow. -/
theorem merge_append {done old changes : Multipliers β} (starts : old.names <+: changes.names)
    (distinct : (done ++ changes).names.Nodup) :
    merge (done ++ old) changes = done ++ changes := by
  -- What is merged already stands in `done`, with its new values.
  induction changes generalizing done old with
  | nil =>
      have empty : old = [] := List.map_eq_nil_iff.mp (List.prefix_nil.mp starts)
      rw [empty]
      rfl
  | cons entry rest ih =>
      have new : entry.1 ∉ done.names := fun found => by
        rw [names_append, names_cons, List.nodup_append] at distinct
        exact distinct.2.2 _ found _ List.mem_cons_self rfl
      have step : set entry.1 entry.2 (done ++ old) = (done ++ [entry]) ++ old.tail := by
        rw [set_append new, List.append_assoc]
        cases old with
        | nil => rfl
        | cons first others =>
            have same : first.1 = entry.1 := (List.cons_prefix_cons.mp starts).1
            simp [set, same]
      have starts' : names old.tail <+: names rest := by
        cases old with
        | nil => exact List.nil_prefix
        | cons first others => exact (List.cons_prefix_cons.mp starts).2
      have whole : done ++ [entry] ++ rest = done ++ entry :: rest := by simp
      calc merge (done ++ old) (entry :: rest)
          = merge (done ++ [entry] ++ old.tail) rest := congrArg (merge · rest) step
        _ = done ++ [entry] ++ rest := ih starts' (whole ▸ distinct)
        _ = done ++ entry :: rest := whole

theorem Extends.merge_self {table base : Multipliers β} (h : table.Extends base) :
    base.merge table = table :=
  @merge_append _ [] base table h.starts h.distinct

end Multipliers

/-! ## Weights -/

namespace Weights

variable {α β γ : Type}

/-- Both tables go on from those of other weights. -/
structure Extends (weights base : Weights α β) : Prop where
  fileKind : weights.fileKind.Extends base.fileKind
  changeKind : weights.changeKind.Extends base.changeKind

namespace Extends

variable {weights base : Weights α β}

theorem set (h : weights.Extends base) (setting : WeightSetting α β) :
    (weights.set setting).Extends base := by
  cases setting with
  | weight name value => cases name <;> exact ⟨h.fileKind, h.changeKind⟩
  | table name entries =>
      cases name with
      | fileKind => exact ⟨h.fileKind.merge entries, h.changeKind⟩
      | changeKind => exact ⟨h.fileKind, h.changeKind.merge entries⟩

theorem apply (h : weights.Extends base) (settings : List (WeightSetting α β)) :
    (weights.apply settings).Extends base := by
  induction settings generalizing weights with
  | nil => exact h
  | cons setting rest ih => exact ih (h.set setting)

end Extends

theorem extends_standard [Scalar α] (entry : α → β) :
    (standard entry).Extends (standard entry) where
  fileKind := ⟨List.prefix_refl _, by simp [standard, Multipliers.names]⟩
  changeKind := ⟨List.prefix_refl _, by simp [standard, Multipliers.names]⟩

/-- All weights as settings. -/
def settings (weights : Weights α β) : List (WeightSetting α β) :=
  (WeightName.all.map fun name => .weight name (weights.get name)) ++
    [.table .fileKind weights.fileKind, .table .changeKind weights.changeKind]

/-- Weights are set again from their own settings. -/
theorem apply_settings {weights base : Weights α β} (h : weights.Extends base) :
    base.apply weights.settings = weights := by
  have fileKind := h.fileKind.merge_self
  have changeKind := h.changeKind.merge_self
  simp only [apply, settings, WeightName.all, List.map_cons, List.map_nil, List.cons_append,
    List.nil_append, List.foldl_cons, List.foldl_nil, Weights.set, get, fileKind, changeKind]

end Weights

/-! ## Entries of another kind -/

section Entries

variable {α β γ δ : Type}

def Multipliers.mapValues (f : β → γ) (table : Multipliers β) : Multipliers γ :=
  table.map fun (name, value) => (name, f value)

def WeightSetting.mapValues (f : β → γ) : WeightSetting α β → WeightSetting α γ
  | weight name value => weight name value
  | table name entries => table name (entries.mapValues f)

def Weights.mapValues (f : β → γ) (weights : Weights α β) : Weights α γ :=
  { weights with
    fileKind := weights.fileKind.mapValues f
    changeKind := weights.changeKind.mapValues f }

namespace Multipliers

theorem mapValues_set (f : β → γ) (name : String) (value : β) (table : Multipliers β) :
    (table.set name value).mapValues f = (table.mapValues f).set name (f value) := by
  induction table with
  | nil => rfl
  | cons entry rest ih =>
      cases here : entry.1 == name with
      | true => simp [mapValues, set, here]
      | false =>
          unfold mapValues at ih
          simp [mapValues, set, here, ih]

theorem mapValues_merge (f : β → γ) (table changes : Multipliers β) :
    (table.merge changes).mapValues f = (table.mapValues f).merge (changes.mapValues f) := by
  induction changes generalizing table with
  | nil => rfl
  | cons entry rest ih =>
      have step := ih (table.set entry.1 entry.2)
      rw [mapValues_set] at step
      exact step

end Multipliers

namespace Weights

theorem mapValues_standard [Scalar α] (f : β → γ) (entry : α → β) :
    (standard entry).mapValues f = standard fun value => f (entry value) := rfl

theorem mapValues_set (f : β → γ) (weights : Weights α β) (setting : WeightSetting α β) :
    (weights.set setting).mapValues f = (weights.mapValues f).set (setting.mapValues f) := by
  cases setting with
  | weight name value => cases name <;> rfl
  | table name entries =>
      cases name <;>
        simp [Weights.set, mapValues, WeightSetting.mapValues, Multipliers.mapValues_merge]

/-- It makes no difference whether weights are set before their entries are replaced, or
after. -/
theorem mapValues_apply (f : β → γ) (weights : Weights α β) (settings : List (WeightSetting α β)) :
    (weights.apply settings).mapValues f =
      (weights.mapValues f).apply (settings.map (·.mapValues f)) := by
  induction settings generalizing weights with
  | nil => rfl
  | cons setting rest ih =>
      have step := ih (weights.set setting)
      rw [mapValues_set] at step
      exact step

theorem mapEntries?_mapValues {read : γ → Option δ} {f : β → γ} {g : β → δ}
    (h : ∀ value, read (f value) = some (g value)) (weights : Weights α β) :
    (weights.mapValues f).mapEntries? read = some (weights.mapValues g) := by
  have table (entries : Multipliers β) :
      (entries.mapValues f).mapM (fun (name, value) => (read value).map fun found => (name, found)) =
        some (entries.mapValues g) :=
    mapM_written (fun entry => by simp only [h, Option.map_some, Option.pure_def]) entries
  simp only [mapEntries?, mapValues, table]
  rfl

end Weights

end Entries

/-! ## Settings as a mapping -/

/-- A setting as a member of the mapping that weights are read from. -/
def WeightSetting.toMember : WeightSetting Float Float → String × Json.Value
  | weight name value => (name.text, .real value)
  | table name entries => (name.text, .object (entries.mapValues .real))

namespace Weights

theorem readSetting_toMember (setting : WeightSetting Float Float) :
    readSetting setting.toMember.1 setting.toMember.2 =
      .ok (.ok (setting.mapValues Json.Value.real)) := by
  cases setting with
  | weight name value => cases name <;> rfl
  | table name entries => cases name <;> rfl

theorem readSettings_toMember (settings : List (WeightSetting Float Float)) :
    readSettings (settings.map (·.toMember)) =
      .ok (settings.map (·.mapValues Json.Value.real)) := by
  refine bind_eq_ok_iff.mpr
    ⟨settings.map fun setting => .ok (setting.mapValues Json.Value.real), ?_, ?_⟩
  · refine mapM_written (fun setting => ?_) settings
    exact readSetting_toMember setting
  · refine mapM_written (fun _ => ?_) settings
    rfl

/-- Settings are applied to the standard weights, and none of them is refused. -/
theorem ofData_toMember (settings : List (WeightSetting Float Float)) :
    ofData (.object (settings.map (·.toMember))) =
      .ok (((standard id).apply settings).mapValues Json.Value.real) := by
  rw [mapValues_apply, mapValues_standard]
  cases settings with
  | nil => rfl
  | cons setting rest =>
      rw [ofData, readSettings_toMember]
      rfl

theorem numeric_mapValues (weights : Weights Float Float) :
    (weights.mapValues Json.Value.real).numeric = .ok (weights.mapValues Number.real) := by
  have read (value : Float) : numberOf? (.real value) = some (Number.real value) := rfl
  rw [numeric, mapEntries?_mapValues read]

end Weights

end CommitLens
