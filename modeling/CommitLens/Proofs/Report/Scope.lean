import CommitLens.Proofs.Report.Suggestion

/-!
# The scope of a change set

Scopes are counted, and of the most frequent ones the first is taken, unless it has no
majority or too many share its count.  Main statement: the scope that is taken is the
one of more than half of the changes, and how many share a count never matters.
-/

namespace CommitLens

variable {changes : List ClassifiedChange} {scope : String}

/-! ## Counting -/

/-- Two items share the places of a list. -/
theorem count_add_count_le_length {α : Type} [BEq α] [LawfulBEq α] {a b : α} (h : a ≠ b)
    (items : List α) : items.count a + items.count b ≤ items.length := by
  induction items with
  | nil => simp
  | cons item rest ih =>
      rw [List.length_cons]
      by_cases ha : item = a
      · rw [ha, List.count_cons_self, List.count_cons_of_ne h]
        omega
      · have atMost : (item :: rest).count b ≤ rest.count b + 1 := by
          rw [List.count_cons]
          split <;> omega
        rw [List.count_cons_of_ne ha]
        omega

theorem foldl_max_cases (counts : List Nat) :
    (counts = [] ∧ counts.foldl max 0 = 0) ∨
      (counts.foldl max 0 ∈ counts ∧ ∀ count ∈ counts, count ≤ counts.foldl max 0) := by
  rw [List.foldl_max, Nat.zero_max]
  cases h : counts.max? with
  | none => exact .inl ⟨List.max?_eq_none_iff.mp h, rfl⟩
  | some highest => exact .inr (List.max?_eq_some_iff.mp h)

/-- The scopes of the changes, one for each change that has one. -/
def scopesOf (changes : List ClassifiedChange) : List String :=
  changes.filterMap fun change => present? change.commitScope

/-- How many changes have the scope. -/
def scopeCount (changes : List ClassifiedChange) (scope : String) : Nat :=
  changes.countP fun change => change.commitScope == some scope

theorem length_scopesOf_le (changes : List ClassifiedChange) :
    (scopesOf changes).length ≤ changes.length :=
  List.length_filterMap_le _ _

theorem ne_empty_of_mem_scopesOf (h : scope ∈ scopesOf changes) : scope ≠ "" := by
  obtain ⟨change, -, found⟩ := List.mem_filterMap.mp h
  exact (present?_eq_some_iff.mp found).2

theorem count_scopesOf (h : scope ≠ "") :
    (scopesOf changes).count scope = scopeCount changes scope := by
  rw [scopesOf, List.count_filterMap, scopeCount]
  refine List.countP_congr fun change _ => ?_
  simp only [beq_iff_eq, present?_eq_some_iff]
  exact and_iff_left h

/-! ## The most frequent scopes -/

/-- How often the most frequent scopes occur. -/
def highestCount (changes : List ClassifiedChange) : Nat :=
  ((tally (scopesOf changes)).map (·.2)).foldl max 0

/-- The scopes that occur so often with their count, in order of first appearance. -/
def leadingScopes (changes : List ClassifiedChange) : List (String × Nat) :=
  (tally (scopesOf changes)).filter fun entry => entry.2 == highestCount changes

theorem selectScope?_eq_match :
    selectScope? changes =
      match leadingScopes changes with
      | [] => none
      | (scope, _) :: _ =>
          if highestCount changes * 2 ≤ changes.length ||
              maxTiedScopes < (leadingScopes changes).length then none
          else some scope :=
  rfl

theorem mem_leadingScopes {entry : String × Nat} :
    entry ∈ leadingScopes changes ↔
      entry.1 ∈ scopesOf changes ∧ entry.2 = (scopesOf changes).count entry.1 ∧
        entry.2 = highestCount changes := by
  rw [leadingScopes, List.mem_filter, mem_tally, beq_iff_eq, and_assoc]

/-- Some scope occurs as often as the highest count says, and none more often. -/
theorem highestCount_cases (changes : List ClassifiedChange) :
    (scopesOf changes = [] ∧ highestCount changes = 0) ∨
      ((∃ entry, entry ∈ leadingScopes changes) ∧
        ∀ scope ∈ scopesOf changes, (scopesOf changes).count scope ≤ highestCount changes) := by
  rcases foldl_max_cases ((tally (scopesOf changes)).map (·.2)) with
    ⟨none, zero⟩ | ⟨attained, bound⟩
  · refine .inl ⟨List.eq_nil_iff_forall_not_mem.mpr fun scope hm => ?_, zero⟩
    have counted : (scope, (scopesOf changes).count scope) ∈ tally (scopesOf changes) :=
      mem_tally.mpr ⟨hm, rfl⟩
    rw [List.map_eq_nil_iff.mp none] at counted
    contradiction
  · obtain ⟨entry, he, highest⟩ := List.mem_map.mp attained
    refine .inr ⟨⟨entry, List.mem_filter.mpr ⟨he, beq_iff_eq.mpr highest⟩⟩, fun scope hm => ?_⟩
    have counted : (scope, (scopesOf changes).count scope) ∈ tally (scopesOf changes) :=
      mem_tally.mpr ⟨hm, rfl⟩
    exact bound _ (List.mem_map_of_mem counted)

theorem scopeCount_le_highestCount (h : scope ≠ "") :
    scopeCount changes scope ≤ highestCount changes := by
  rw [← count_scopesOf h]
  by_cases hm : scope ∈ scopesOf changes
  · rcases highestCount_cases changes with ⟨none, -⟩ | ⟨-, bound⟩
    · rw [none] at hm
      contradiction
    · exact bound scope hm
  · rw [List.count_eq_zero_of_not_mem hm]
    exact Nat.zero_le _

/-- More than half of the changes leave room for one leading scope only. -/
theorem leadingScopes_eq_singleton (h : changes.length < 2 * highestCount changes) :
    ∃ entry, leadingScopes changes = [entry] := by
  rcases highestCount_cases changes with ⟨-, zero⟩ | ⟨⟨entry, he⟩, -⟩
  · omega
  have alone : ∀ other ∈ leadingScopes changes, other = entry := by
    intro other ho
    obtain ⟨-, count, highest⟩ := mem_leadingScopes.mp he
    obtain ⟨-, count', highest'⟩ := mem_leadingScopes.mp ho
    refine Prod.ext ?_ (highest'.trans highest.symm)
    by_contra different
    have room := count_add_count_le_length different (scopesOf changes)
    have total := length_scopesOf_le changes
    omega
  have distinct : (leadingScopes changes).Nodup := (nodup_tally _).filter _
  refine ⟨entry, List.perm_singleton.mp ?_⟩
  rw [List.perm_ext_iff_of_nodup distinct (List.nodup_singleton entry)]
  exact fun other => ⟨fun ho => List.mem_singleton.mpr (alone other ho),
    fun ho => List.mem_singleton.mp ho ▸ he⟩

/-! ## Majorities -/

/-- More than half of the changes have the scope; those without one count as well. -/
def HasMajority (changes : List ClassifiedChange) (scope : String) : Prop :=
  scope ≠ "" ∧ changes.length < 2 * scopeCount changes scope

theorem selectScope?_eq_head? :
    selectScope? changes =
      if highestCount changes * 2 ≤ changes.length then none
      else (leadingScopes changes).head?.map (·.1) := by
  rw [selectScope?_eq_match]
  by_cases few : highestCount changes * 2 ≤ changes.length
  · simp only [few, decide_true, Bool.true_or, if_true]
    split <;> rfl
  · have most : changes.length < 2 * highestCount changes := by omega
    obtain ⟨entry, alone⟩ := leadingScopes_eq_singleton most
    have allowed : ¬maxTiedScopes < 1 := by decide
    rw [alone]
    simp only [few, List.length_singleton, allowed, decide_false, Bool.or_false,
      Bool.false_eq_true, if_false]
    rfl

theorem selectScope?_eq_some_iff :
    selectScope? changes = some scope ↔ HasMajority changes scope := by
  rw [selectScope?_eq_head?]
  by_cases few : highestCount changes * 2 ≤ changes.length
  · rw [if_pos few]
    refine iff_of_false (by simp) ?_
    rintro ⟨filled, most⟩
    have bound : scopeCount changes scope ≤ highestCount changes := scopeCount_le_highestCount filled
    omega
  · have most : changes.length < 2 * highestCount changes := by omega
    obtain ⟨entry, alone⟩ := leadingScopes_eq_singleton most
    obtain ⟨hm, count, highest⟩ :=
      mem_leadingScopes.mp (alone ▸ List.mem_singleton_self entry)
    have selected : (leadingScopes changes).head?.map (·.1) = some entry.1 := by rw [alone]; rfl
    rw [if_neg few, selected, Option.some.injEq]
    constructor
    · rintro rfl
      have filled := ne_empty_of_mem_scopesOf hm
      rw [count_scopesOf filled] at count
      exact ⟨filled, by omega⟩
    · rintro ⟨filled, most⟩
      rw [← count_scopesOf filled] at most
      by_contra different
      have room := count_add_count_le_length different (scopesOf changes)
      have total := length_scopesOf_le changes
      omega

/-- The scope of a change set is that of its majority, however many scopes are tied. -/
structure SelectsMajority (changes : List ClassifiedChange) : Prop where
  majority : ∀ scope, selectScope? changes = some scope ↔ HasMajority changes scope
  undecided : selectScope? changes = none ↔ ∀ scope, ¬HasMajority changes scope
  /-- Without the limit on tied scopes the same one is taken. -/
  unlimited : selectScope? changes =
    if highestCount changes * 2 ≤ changes.length then none
    else (leadingScopes changes).head?.map (·.1)

theorem selectScope?_majority (changes : List ClassifiedChange) : SelectsMajority changes where
  majority _ := selectScope?_eq_some_iff
  undecided := by simp only [Option.eq_none_iff_forall_ne_some, ne_eq, selectScope?_eq_some_iff]
  unlimited := selectScope?_eq_head?

/-- One change without a scope takes the majority away. -/
example :
    let change (scope : Option String) : ClassifiedChange :=
      { path := "a.py", kind := .modified, commitScope := scope }
    selectScope? [change "api", change none, change "api"] = "api" ∧
      selectScope? [change "api", change none, change "api", change ""] = none ∧
      selectScope? [change "a", change "b", change "c", change "d"] = none := by
  decide

end CommitLens
