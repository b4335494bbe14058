import CommitLens.Config.Read
import Mathlib.Data.List.Chain

/-!
# What reading a configuration can end with

A configuration is rejected with a `ConfigError`, but reading one can also break
off: keys of different kinds have no order, a whole number may be beyond all
doubles, and one may be too long to be written into a message.  Main statement:
without such values, a value of any shape is read to a configuration or rejected.
-/

namespace CommitLens

open Yaml (Value)

/-! ## Readings that settle -/

/-- A reading has a result, or rejects what it reads. -/
inductive Settles {α : Type} : Except ConfigFailure α → Prop
  | ok (a : α) : Settles (.ok a)
  | rejected (error : ConfigError) : Settles (.error (.rejected error))

namespace Settles

variable {α β : Type}

theorem bind {x : Except ConfigFailure α} {f : α → Except ConfigFailure β} (hx : Settles x)
    (hf : ∀ a, x = .ok a → Settles (f a)) : Settles (x >>= f) := by
  cases hx with
  | ok a => exact hf a rfl
  | rejected error => exact .rejected error

theorem mapM {f : α → Except ConfigFailure β} {items : List α}
    (h : ∀ a ∈ items, Settles (f a)) : Settles (items.mapM f) := by
  induction items with
  | nil => exact .ok []
  | cons a rest ih =>
      rw [List.mapM_cons]
      refine bind (h a List.mem_cons_self) fun b _ => ?_
      exact bind (ih fun c hc => h c (List.mem_cons_of_mem a hc)) fun bs _ => .ok (b :: bs)

end Settles

/-! ## Keys in order -/

namespace Yaml

/-- The kinds of keys with an order; truth values are among the numbers, and times
with a known offset are apart from those without. -/
inductive KeyOrder where
  | number
  | text
  | bytes
  | date
  | time (offset : Bool)
  deriving Repr, DecidableEq

namespace Value

def keyOrder? : Value → Option KeyOrder
  | bool _ | number _ => some .number
  | text _ => some .text
  | bytes _ => some .bytes
  | date _ => some .date
  | time t => some (.time t.offset.isSome)
  | _ => none

/-- Can two keys be put in order? -/
def Comparable (a b : Value) : Prop :=
  (before? a b).isSome

theorem keyOrder?_eq_number_iff {a : Value} :
    a.keyOrder? = some .number ↔ a.asNumber?.isSome := by
  cases a <;> simp [keyOrder?, asNumber?]

/-- Two keys have an order if they are of the same kind. -/
theorem comparable_iff {a b : Value} :
    a.Comparable b ↔ a.keyOrder? = b.keyOrder? ∧ a.keyOrder?.isSome := by
  unfold Comparable before?
  cases ha : a.asNumber? with
  | some m =>
      have number : a.keyOrder? = some .number := keyOrder?_eq_number_iff.mpr (by simp [ha])
      rw [number]
      cases hb : b.asNumber? with
      | some n =>
          have number' : b.keyOrder? = some .number := keyOrder?_eq_number_iff.mpr (by simp [hb])
          rw [number']
          cases m <;> cases n <;> simp
      | none =>
          have other : b.keyOrder? ≠ some .number := by simp [keyOrder?_eq_number_iff, hb]
          cases a <;> simp [asNumber?] at ha <;> simp [other.symm]
  | none =>
      cases a <;> simp [asNumber?] at ha <;> cases b <;> simp [keyOrder?]

theorem Comparable.symm {a b : Value} (h : a.Comparable b) : b.Comparable a := by
  rw [comparable_iff] at h ⊢
  exact ⟨h.1.symm, h.1 ▸ h.2⟩

theorem Comparable.trans {a b c : Value} (h : a.Comparable b) (h' : b.Comparable c) :
    a.Comparable c := by
  rw [comparable_iff] at h h' ⊢
  exact ⟨h.1.trans h'.1, h.2⟩

instance : Trans Comparable Comparable Comparable := ⟨Comparable.trans⟩

end Value

end Yaml

/-- Comparing neighbours is enough to find two keys without an order. -/
theorem incomparable?_eq_none_iff {keys : List Value} :
    incomparable? keys = none ↔ keys.Pairwise Value.Comparable := by
  rw [← List.isChain_iff_pairwise]
  induction keys using incomparable?.induct with
  | case1 a b rest h =>
      have apart : ¬a.Comparable b := fun hab => by
        have hba := hab.symm
        rw [Value.Comparable, ← Option.not_isNone, h] at hba
        cases hba
      simp [incomparable?, h, apart]
  | case2 a b rest h ih =>
      have near : a.Comparable b :=
        Value.Comparable.symm (Option.isSome_iff_ne_none.mpr (by simpa using h))
      simp [incomparable?, h, near, ih]
  | case3 keys h =>
      cases keys with
      | nil => simp [incomparable?]
      | cons a rest =>
          cases rest with
          | nil => simp [incomparable?]
          | cons b rest => exact absurd rfl (h a b rest)

/-- Keys are put in order exactly if each two of them can be compared. -/
theorem sortKeys_eq_ok_iff {keys sorted : List Value} :
    sortKeys keys = .ok sorted ↔
      keys.Pairwise Value.Comparable ∧
        keys.mergeSort (fun a b => Value.before? b a != some true) = sorted := by
  rw [← incomparable?_eq_none_iff]
  unfold sortKeys
  cases h : incomparable? keys <;> simp

/-! ## Unknown keys -/

/-- A key that can be written into a message. -/
def Yaml.Value.IsShort (key : Value) : Prop :=
  ∀ n, key = .number (.whole n) → n.natAbs < Nat.pow 10 Yaml.digitLimit

theorem showKey_of_isShort {key : Value} (h : key.IsShort) : showKey key = .ok key.shown := by
  unfold showKey
  split
  · rename_i n
    rw [if_neg (Nat.not_le.mpr (h n rfl))]
  · rfl

theorem showKey_of_long {n : Int} (h : Nat.pow 10 Yaml.digitLimit ≤ n.natAbs) :
    showKey (.number (.whole n)) = .error (.scalar .tooLongToWrite) := by
  simp only [showKey, if_pos h]

/-- The keys of a mapping that are not among the known ones, in its own order. -/
def strangeKeys (known : List String) (entries : List (Value × Value)) : List Value :=
  (entries.map (·.1)).filter fun
    | .text key => !known.contains key
    | _ => true

/-- The unknown keys of a mapping can be put in order and written down. -/
structure OrderlyKeys (known : List String) (entries : List (Value × Value)) : Prop where
  comparable : (strangeKeys known entries).Pairwise Value.Comparable
  short : ∀ key ∈ strangeKeys known entries, key.IsShort

namespace OrderlyKeys

variable {known : List String} {entries : List (Value × Value)}

/-- Texts make no trouble as keys. -/
theorem of_texts (h : ∀ entry ∈ entries, ∃ s, entry.1 = .text s) :
    OrderlyKeys known entries := by
  have texts : ∀ key ∈ strangeKeys known entries, ∃ s, key = .text s := by
    intro key hkey
    obtain ⟨entry, hentry, rfl⟩ := List.mem_map.mp (List.mem_filter.mp hkey).1
    exact h entry hentry
  refine ⟨List.pairwise_of_forall_mem_list fun a ha b hb => ?_, fun key hkey n hn => ?_⟩
  · obtain ⟨s, rfl⟩ := texts a ha
    obtain ⟨t, rfl⟩ := texts b hb
    exact Value.comparable_iff.mpr ⟨rfl, rfl⟩
  · obtain ⟨s, rfl⟩ := texts key hkey
    cases hn

theorem unknownKeys_eq_ok (h : OrderlyKeys known entries) :
    ∃ keys, unknownKeys known entries = .ok keys ∧ ∀ key ∈ keys, key.IsShort := by
  refine ⟨_, sortKeys_eq_ok_iff.mpr ⟨h.comparable, rfl⟩, fun key hkey => h.short key ?_⟩
  exact List.mem_mergeSort.mp hkey

end OrderlyKeys

/-! ## Rules -/

theorem optionalText_settles (entries : List (Value × Value)) (key rule : String) :
    Settles (optionalText entries key rule) := by
  unfold optionalText
  split
  · exact .ok none
  · exact .ok none
  · exact .ok _
  · exact .rejected _

theorem textList_settles (value : Option Value) (key : String) :
    Settles (textList value key) := by
  unfold textList
  split
  · exact .ok []
  · exact .ok []
  · split
    · exact .ok _
    · exact .rejected _
  · exact .rejected _

theorem readHeuristic_settles (rule : String) (value : Value) :
    Settles (readHeuristic rule value) := by
  unfold readHeuristic
  split
  · exact .ok _
  · split
    · exact .ok _
    · exact .rejected _
  · exact .rejected _

theorem readHeuristics_settles (value : Option Value) (rule : String) :
    Settles (readHeuristics value rule) := by
  unfold readHeuristics
  split
  · exact .ok []
  · exact .ok []
  · exact .mapM fun item _ => readHeuristic_settles rule item
  · exact .rejected _

theorem readType_settles (entries : List (Value × Value)) (rule : String)
    (known : List String) : Settles (readType entries rule known) := by
  unfold readType
  refine .bind (optionalText_settles entries "type" rule) fun commitType _ => ?_
  cases commitType with
  | none => exact .ok none
  | some name =>
      dsimp only
      split
      · exact .ok _
      · exact .rejected _

theorem showKeys_settles {keys : List Value} (h : ∀ key ∈ keys, key.IsShort) :
    Settles (keys.mapM showKey) :=
  .mapM fun key hkey => showKey_of_isShort (h key hkey) ▸ .ok key.shown

theorem readRule_settles (commitTypes : List String) (index : Nat) {entry : Value}
    (h : ∀ entries, entry = .mapping entries → OrderlyKeys ruleKeys entries) :
    Settles (readRule commitTypes index entry) := by
  unfold readRule
  split
  · rename_i entries
    split
    · exact .rejected _
    · rename_i id _
      obtain ⟨keys, unknown, short⟩ := (h entries rfl).unknownKeys_eq_ok
      rw [unknown]
      refine .bind (.ok keys) fun keys' hkeys => ?_
      cases hkeys
      refine .bind (showKeys_settles short) fun _ _ => ?_
      refine .bind (readType_settles entries id commitTypes) fun commitType _ => ?_
      refine .bind (optionalText_settles entries "match" id) fun pattern _ => ?_
      refine .bind (optionalText_settles entries "match_path" id) fun pathPart _ => ?_
      refine .bind (optionalText_settles entries "match_ast" id) fun deltaPart _ => ?_
      refine .bind (optionalText_settles entries "reason" id) fun reason _ => ?_
      exact .bind (readHeuristics_settles _ id) fun heuristics _ => .ok _
  · exact .rejected _

theorem readRulesFrom_settles (commitTypes : List String) (index : Nat) {items : List Value}
    (h : ∀ entries, .mapping entries ∈ items → OrderlyKeys ruleKeys entries) :
    Settles (readRulesFrom commitTypes index items) := by
  induction items generalizing index with
  | nil => exact .ok []
  | cons entry rest ih =>
      have first : Settles (readRule commitTypes index entry) :=
        readRule_settles commitTypes index fun entries he => h entries (he ▸ List.mem_cons_self)
      have others := ih (index + 1) fun entries he => h entries (List.mem_cons_of_mem _ he)
      exact .bind first fun rule _ => .bind others fun rules _ => .ok (rule :: rules)

theorem readRules_settles (commitTypes : List String) {value : Option Value}
    (h : ∀ items, value = some (.list items) →
      ∀ entries, .mapping entries ∈ items → OrderlyKeys ruleKeys entries) :
    Settles (readRules value commitTypes) := by
  unfold readRules
  split
  · exact .ok _
  · exact .ok _
  · rename_i items
    refine .bind (readRulesFrom_settles commitTypes 0 (h items rfl)) fun rules _ => ?_
    split
    · exact .rejected _
    · exact .ok rules
  · exact .rejected _

/-! ## Weights -/

theorem Decimal.floatOfInt?_eq_none_iff {m : Int} :
    floatOfInt? m = none ↔ wholeLimit ≤ m.natAbs := by
  unfold floatOfInt?
  split <;> simp_all

/-- A number that is not beyond all doubles. -/
def Number.Fits (n : Number Float) : Prop :=
  ∀ m, n = .whole m → m.natAbs < Decimal.wholeLimit

theorem weightOf_settles {n : Number Float} (h : n.Fits) : Settles (weightOf n) := by
  unfold weightOf
  split
  · exact .ok _
  · rename_i m
    split
    · exact .ok _
    · rename_i hnone
      have large := Decimal.floatOfInt?_eq_none_iff.mp hnone
      exact absurd (h m rfl) (Nat.not_lt.mpr large)

theorem weightOf_of_large {m : Int} (h : Decimal.wholeLimit ≤ m.natAbs) :
    weightOf (.whole m) = .error .tooLarge := by
  unfold weightOf
  simp only [Decimal.floatOfInt?_eq_none_iff.mpr h]

/-- A weight or a table of weights whose numbers are not too large, under a key
that can be written down. -/
structure OrderlySetting (key value : Value) : Prop where
  short : key.IsShort
  weight : ∀ n, value = .number n → n.Fits
  table : ∀ entries, value = .mapping entries →
    ∀ name n, (name, .number n) ∈ entries → n.Fits

theorem tableEntries?_eq_some {entries : List (Value × Value)}
    {numbers : List (String × Number Float)} (h : tableEntries? entries = some numbers) :
    ∀ name n, (name, n) ∈ numbers → (Value.text name, Value.number n) ∈ entries := by
  induction entries generalizing numbers with
  | nil =>
      cases h
      simp
  | cons entry rest ih =>
      unfold tableEntries? at h ih
      rw [List.mapM_cons] at h
      simp only [Option.bind_eq_bind, Option.bind_eq_some_iff] at h
      obtain ⟨first, hfirst, others, hothers, hnumbers⟩ := h
      cases hnumbers
      intro name n hmem
      rcases List.mem_cons.mp hmem with rfl | hmem
      · split at hfirst
        · cases hfirst
          exact List.mem_cons_self
        · cases hfirst
      · exact List.mem_cons_of_mem entry (ih hothers name n hmem)

theorem readSetting_settles {key value : Value} (h : OrderlySetting key value) :
    Settles (readSetting key value) := by
  unfold readSetting
  dsimp only
  split
  · split
    · rename_i n
      exact .bind (weightOf_settles (h.weight n rfl)) fun x _ => .ok _
    · exact .rejected _
  · split
    · rename_i entries
      split
      · rename_i numbers hnumbers
        refine .bind (.mapM fun entry hentry => ?_) fun table _ => .ok _
        have hmem := tableEntries?_eq_some hnumbers entry.1 entry.2 hentry
        exact .bind (weightOf_settles (h.table entries rfl _ _ hmem)) fun x _ => .ok _
      · exact .rejected _
    · exact .rejected _
  · rw [showKey_of_isShort h.short]
    exact .rejected _

theorem readScoring_settles {value : Option Value}
    (h : ∀ entries, value = some (.mapping entries) →
      ∀ key value, (key, value) ∈ entries → OrderlySetting key value) :
    Settles (readScoring value) := by
  unfold readScoring
  split
  · exact .ok []
  · exact .ok []
  · rename_i entries
    exact .mapM fun entry hentry => readSetting_settles (h entries rfl entry.1 entry.2 hentry)
  · exact .rejected _

/-! ## Configurations -/

namespace Yaml.Value

/-- The parts of a configuration; a list stands for its rules. -/
def parts : Value → List (Value × Value)
  | list items => [(.text "rules", .list items)]
  | mapping entries => entries
  | _ => []

/-- All that is put in order, written down or made a weight can be. -/
structure Orderly (data : Value) : Prop where
  keys : ∀ entries, data = .mapping entries → OrderlyKeys topLevelKeys entries
  rules : ∀ items, entry? data.parts "rules" = some (.list items) →
    ∀ entries, .mapping entries ∈ items → OrderlyKeys ruleKeys entries
  scoring : ∀ entries, entry? data.parts "scoring" = some (.mapping entries) →
    ∀ key value, (key, value) ∈ entries → OrderlySetting key value

end Yaml.Value

theorem topLevel_settles {data : Value} (h : data.Orderly) : Settles (topLevel data) := by
  unfold topLevel
  split
  · exact .ok _
  · rename_i entries
    obtain ⟨keys, unknown, short⟩ := (h.keys entries rfl).unknownKeys_eq_ok
    rw [unknown]
    refine .bind (.ok keys) fun keys' hkeys => ?_
    cases hkeys
    split
    · exact .ok entries
    · exact .bind (showKeys_settles short) fun texts _ => .rejected _
  · exact .rejected _

/-- A list stands for its rules, and all entries of a mapping are kept. -/
theorem topLevel_eq_ok {data : Value} {entries : List (Value × Value)}
    (h : topLevel data = .ok entries) : entries = data.parts := by
  unfold topLevel at h
  split at h
  · cases h
    rfl
  · cases hkeys : unknownKeys topLevelKeys _ with
    | error failure =>
        rw [hkeys] at h
        cases h
    | ok keys =>
        simp only [hkeys, bind, Except.bind] at h
        split at h
        · cases h
          rfl
        · cases hshown : keys.mapM showKey <;> rw [hshown] at h <;> cases h
  · cases h

theorem readCommitTypes_settles (entries : List (Value × Value)) :
    Settles (readCommitTypes entries) :=
  .bind (textList_settles _ _) fun _ _ => .ok _

/-- A value of any shape is read to a configuration or rejected. -/
theorem parseConfig_settles {data : Value} (h : data.Orderly) (source : Option String) :
    Settles (parseConfig data source) := by
  unfold parseConfig
  refine .bind (topLevel_settles h) fun entries hentries => ?_
  obtain rfl := topLevel_eq_ok hentries
  refine .bind (readCommitTypes_settles data.parts) fun commitTypes _ => ?_
  refine .bind (readRules_settles commitTypes h.rules) fun rules _ => ?_
  refine .bind (textList_settles _ _) fun excludePaths _ => ?_
  refine .bind (textList_settles _ _) fun includeOnly _ => ?_
  exact .bind (readScoring_settles h.scoring) fun scoring _ => .ok _

end CommitLens
