import CommitLens.Proofs.Report.Scope
import CommitLens.Proofs.Rules.Vocabulary
import CommitLens.Proofs.Text.Line

/-!
# Suggestions and the order of changes

The type of a change set is the best one that it has: types are ordered by rank, by
frequency and by first appearance, and no two are equal.  Main statement: of what is
suggested for a change set, only the order of lines depends on the order of the changes,
unless two types share the first place up to their first appearance.
-/

namespace CommitLens

/-! ## The order of types -/

/-- The first type has a lower rank than the second one, or else it is more frequent, or
else it appears first. -/
def Beats (types : List String) (a b : String) : Prop :=
  typeRank a < typeRank b ∨ typeRank a = typeRank b ∧
    (types.count b < types.count a ∨
      types.count a = types.count b ∧ types.idxOf a < types.idxOf b)

/-- The type is present, and no other one that is present beats it. -/
structure IsBest (types : List String) (name : String) : Prop where
  present : name ∈ types
  unbeaten : ∀ other ∈ types, ¬Beats types other name

section Order

variable {types : List String} {a b c : String}

theorem Beats.trans (hab : Beats types a b) (hbc : Beats types b c) : Beats types a c := by
  unfold Beats at *
  omega

theorem Beats.asymm (h : Beats types a b) : ¬Beats types b a := by
  unfold Beats at *
  omega

theorem beats_or_beats (ha : a ∈ types) (h : a ≠ b) : Beats types a b ∨ Beats types b a := by
  have apart : types.idxOf a ≠ types.idxOf b := fun he => h ((List.idxOf_inj ha).mp he)
  unfold Beats
  omega

theorem IsBest.eq (ha : IsBest types a) (hb : IsBest types b) : a = b := by
  by_contra different
  rcases beats_or_beats ha.present different with first | second
  · exact hb.unbeaten a ha.present first
  · exact ha.unbeaten b hb.present second

theorem isBetterType_iff {m n : Nat} :
    isBetterType (a, m) (b, n) = true ↔
      typeRank a < typeRank b ∨ typeRank a = typeRank b ∧ n < m := by
  simp [isBetterType]

end Order

/-! ## The best type -/

/-- First occurrences are kept in their order. -/
theorem pairwise_idxOf_unique (items : List String) :
    (unique items).Pairwise fun a b => items.idxOf a < items.idxOf b := by
  induction items using List.reverseRecOn with
  | nil => exact List.Pairwise.nil
  | append_singleton items item ih =>
      have kept {name : String} (hm : name ∈ unique items) :
          (items ++ [item]).idxOf name = items.idxOf name :=
        List.idxOf_append_of_mem (mem_unique.mp hm)
      have before : (unique items).Pairwise fun a b =>
          (items ++ [item]).idxOf a < (items ++ [item]).idxOf b :=
        ih.imp_of_mem fun ha hb h => by rwa [kept ha, kept hb]
      rw [unique_concat]
      by_cases hm : item ∈ unique items
      · rwa [appendNew_of_mem hm]
      · rw [appendNew_of_not_mem hm, List.pairwise_append]
        refine ⟨before, List.pairwise_singleton _ item, fun name hn other ho => ?_⟩
        obtain rfl := List.mem_singleton.mp ho
        have last : (items ++ [other]).idxOf other = items.length := by
          rw [List.idxOf_append_of_notMem (mt mem_unique.mpr hm), List.idxOf_cons_self, Nat.add_zero]
        rw [kept hn, last]
        exact List.idxOf_lt_length_iff.mpr (mem_unique.mp hn)

/-- Among names in the order of their first appearance, the one that is taken beats all
others. -/
theorem beats_of_bestType?_eq_some {types names : List String} {best : String × Nat}
    (ordered : names.Pairwise fun a b => types.idxOf a < types.idxOf b)
    (h : bestType? (names.map fun name => (name, types.count name)) = some best) :
    best.2 = types.count best.1 ∧ ∀ name ∈ names, name = best.1 ∨ Beats types best.1 name := by
  induction names generalizing best with
  | nil => contradiction
  | cons first rest ih =>
      obtain ⟨front, ordered⟩ := List.pairwise_cons.mp ordered
      rw [List.map_cons, bestType?] at h
      cases found : bestType? (rest.map fun name => (name, types.count name)) with
      | none =>
          rw [found] at h
          obtain rfl := Option.some.inj h
          have alone : rest = [] := List.map_eq_nil_iff.mp (bestType?_eq_none_iff.mp found)
          refine ⟨rfl, fun name hn => .inl ?_⟩
          rw [alone] at hn
          exact List.mem_singleton.mp hn
      | some later =>
          rw [found] at h
          obtain rfl := Option.some.inj h
          obtain ⟨later, count⟩ := later
          obtain ⟨counted, ahead⟩ := ih ordered found
          dsimp only at counted ahead
          subst counted
          have place : types.idxOf first < types.idxOf later := by
            obtain ⟨name, hn, he⟩ := List.mem_map.mp (mem_of_bestType?_eq_some found)
            obtain ⟨rfl, -⟩ := Prod.mk.inj he
            exact front name hn
          by_cases better : isBetterType (later, types.count later) (first, types.count first) = true
          · rw [if_pos better]
            have beats : Beats types later first := by
              rw [isBetterType_iff] at better
              unfold Beats
              omega
            exact ⟨rfl, List.forall_mem_cons.mpr ⟨.inr beats, ahead⟩⟩
          · rw [if_neg better]
            have beats : Beats types first later := by
              rw [isBetterType_iff] at better
              unfold Beats
              omega
            refine ⟨rfl, List.forall_mem_cons.mpr ⟨.inl rfl, fun name hn => .inr ?_⟩⟩
            rcases ahead name hn with rfl | behind
            · exact beats
            · exact beats.trans behind

/-- The commit type of each change. -/
def typesOf (changes : List ClassifiedChange) : List String :=
  changes.map (·.commitType)

variable {changes reordered : List ClassifiedChange} {name : String}

theorem selectType_isBest (h : changes ≠ []) : IsBest (typesOf changes) (selectType changes) := by
  unfold selectType
  split
  · rename_i best count found
    have present : best ∈ typesOf changes := (mem_tally.mp (mem_of_bestType?_eq_some found)).1
    obtain ⟨-, ahead⟩ := beats_of_bestType?_eq_some (pairwise_idxOf_unique (typesOf changes)) found
    refine ⟨present, fun other ho beaten => ?_⟩
    rcases ahead other (mem_unique.mpr ho) with rfl | behind
    · exact beaten.asymm beaten
    · exact beaten.asymm behind
  · rename_i none
    obtain ⟨change, rest, rfl⟩ := List.exists_cons_of_ne_nil h
    have first : change.commitType ∈ unique ((change :: rest).map (·.commitType)) :=
      mem_unique.mpr List.mem_cons_self
    rw [List.map_eq_nil_iff.mp (bestType?_eq_none_iff.mp none)] at first
    contradiction

theorem selectType_eq_iff (h : changes ≠ []) :
    selectType changes = name ↔ IsBest (typesOf changes) name := by
  constructor
  · rintro rfl
    exact selectType_isBest h
  · exact (selectType_isBest h).eq

/-! ## Shared places -/

/-- The type has the lowest rank of all, and the highest count of those with that rank. -/
structure Leads (types : List String) (name : String) : Prop where
  present : name ∈ types
  rank : ∀ other ∈ types, typeRank name ≤ typeRank other
  count : ∀ other ∈ types, typeRank other = typeRank name → types.count other ≤ types.count name

/-- Only their first appearance tells two types of the first place apart. -/
def Contested (types : List String) : Prop :=
  ∃ a b, a ≠ b ∧ Leads types a ∧ Leads types b

theorem IsBest.leads {types : List String} (h : IsBest types name) : Leads types name where
  present := h.present
  rank other ho := not_lt.mp fun lower => h.unbeaten other ho (.inl lower)
  count other ho same := not_lt.mp fun more => h.unbeaten other ho (.inr ⟨same, .inl more⟩)

theorem Leads.perm {types others : List String} (h : Leads types name) (hp : types.Perm others) :
    Leads others name where
  present := hp.mem_iff.mp h.present
  rank other ho := h.rank other (hp.mem_iff.mpr ho)
  count other ho same := by
    rw [← hp.count_eq, ← hp.count_eq]
    exact h.count other (hp.mem_iff.mpr ho) same

/-- Of the types that share the first place, the one of the first change is taken. -/
theorem selectType_cons {change : ClassifiedChange}
    (h : Leads (typesOf (change :: changes)) change.commitType) :
    selectType (change :: changes) = change.commitType := by
  refine (selectType_eq_iff (List.cons_ne_nil _ _)).mpr ⟨h.present, fun other ho beaten => ?_⟩
  have rank := h.rank other ho
  have count := h.count other ho
  have first : (typesOf (change :: changes)).idxOf change.commitType = 0 := List.idxOf_cons_self
  unfold Beats at beaten
  omega

theorem exists_reordered_of_leads (h : Leads (typesOf changes) name) :
    ∃ reordered, changes.Perm reordered ∧ selectType reordered = name := by
  obtain ⟨change, hc, rfl⟩ := List.mem_map.mp h.present
  obtain ⟨before, after, rfl⟩ := List.append_of_mem hc
  exact ⟨_, List.perm_middle, selectType_cons (h.perm (List.perm_middle.map _))⟩

theorem selectType_perm (hp : changes.Perm reordered) (h : ¬Contested (typesOf changes)) :
    selectType reordered = selectType changes := by
  by_cases he : changes = []
  · subst he
    rw [List.nil_perm.mp hp]
  · have same : (typesOf reordered).Perm (typesOf changes) := (hp.map _).symm
    have filled : reordered ≠ [] := fun none => he (List.perm_nil.mp (none ▸ hp))
    by_contra different
    exact h ⟨_, _, different, (selectType_isBest filled).leads.perm same,
      (selectType_isBest he).leads⟩

/-! ## Suggestions for the same changes -/

theorem selectScope?_perm (hp : changes.Perm reordered) :
    selectScope? reordered = selectScope? changes := by
  refine Option.ext fun scope => ?_
  rw [selectScope?_eq_some_iff, selectScope?_eq_some_iff, HasMajority, HasMajority, scopeCount,
    scopeCount, hp.countP_eq, hp.length_eq]

/-- Several changes are counted, and none is described. -/
theorem subject_eq_of_length {others : List ClassifiedChange}
    (h : changes.length = others.length) (hm : 1 < others.length) (commitType : String) :
    subject changes commitType = subject others commitType := by
  have several (change : ClassifiedChange) : others ≠ [change] := by
    rintro rfl
    exact lt_irrefl 1 hm
  fun_cases subject changes commitType with
  | case1 | case2 => exact absurd (h ▸ hm) (lt_irrefl 1)
  | _ => simp +zetaDelta only [subject, h]

theorem subject_perm (hp : changes.Perm reordered) (commitType : String) :
    subject reordered commitType = subject changes commitType := by
  by_cases several : 1 < changes.length
  · exact subject_eq_of_length hp.length_eq.symm several commitType
  · match changes, hp with
    | [], hp => rw [List.nil_perm.mp hp]
    | [change], hp => rw [List.singleton_perm.mp hp]
    | _ :: _ :: _, _ => simp at several

/-- The bodies have the same lines behind the mark that opens a body. -/
inductive SameLines : Option String → Option String → Prop
  | none : SameLines none none
  | some {text other : String} (lines : (Text.lines text).Perm (Text.lines other)) :
      SameLines (some ("BREAKING CHANGE: " ++ text)) (some ("BREAKING CHANGE: " ++ other))

theorem sameLines_body (hp : changes.Perm reordered) :
    SameLines (suggestCommit reordered).body (suggestCommit changes).body := by
  have breaking : (reordered.filter (·.breaking)).Perm (changes.filter (·.breaking)) :=
    (hp.filter _).symm
  rw [suggestCommit_body, suggestCommit_body, breaking.isEmpty_eq]
  by_cases none : changes.filter (·.breaking) = []
  · rw [none]
    exact .none
  · have filled : reordered.filter (·.breaking) ≠ [] := fun he =>
      none (List.nil_perm.mp (he ▸ breaking))
    rw [if_neg (by rwa [List.isEmpty_iff]), if_neg (by rwa [List.isEmpty_iff])]
    refine .some ?_
    rw [Text.lines_join (mt List.map_eq_nil_iff.mp filled),
      Text.lines_join (mt List.map_eq_nil_iff.mp none)]
    exact (breaking.map _).flatMap_right _

/-- What is suggested for the same changes in another order. -/
structure SuggestsAlike (changes reordered : List ClassifiedChange) : Prop where
  breaking : (suggestCommit reordered).breaking = (suggestCommit changes).breaking
  scope : (suggestCommit reordered).scope = (suggestCommit changes).scope
  body : SameLines (suggestCommit reordered).body (suggestCommit changes).body
  uncontested : ¬Contested (typesOf changes) →
    (suggestCommit reordered).commitType = (suggestCommit changes).commitType ∧
      (suggestCommit reordered).subject = (suggestCommit changes).subject

theorem suggestsAlike_of_perm (hp : changes.Perm reordered) : SuggestsAlike changes reordered where
  breaking := by rw [suggestCommit_breaking, suggestCommit_breaking, (hp.filter _).isEmpty_eq]
  scope := by rw [suggestCommit_scope, suggestCommit_scope, selectScope?_perm hp]
  body := sameLines_body hp
  uncontested h := by
    by_cases he : changes = []
    · subst he
      rw [List.nil_perm.mp hp]
      exact ⟨rfl, rfl⟩
    · have filled : reordered ≠ [] := fun none => he (List.perm_nil.mp (none ▸ hp))
      rw [suggestCommit_of_ne_nil he, suggestCommit_of_ne_nil filled]
      dsimp only
      rw [selectType_perm hp h]
      exact ⟨rfl, subject_perm hp _⟩

/-- The suggestion for a change set is made with the best of its types, and it depends on
the order of the changes no more than it has to. -/
structure SuggestsBest (changes : List ClassifiedChange) : Prop where
  best : changes ≠ [] → ∀ name, selectType changes = name ↔ IsBest (typesOf changes) name
  alike : ∀ reordered, changes.Perm reordered → SuggestsAlike changes reordered
  /-- Types that share the first place are told apart by the order. -/
  contested : Contested (typesOf changes) → ∃ reordered, changes.Perm reordered ∧
    (suggestCommit reordered).commitType ≠ (suggestCommit changes).commitType

theorem suggestCommit_suggestsBest (changes : List ClassifiedChange) : SuggestsBest changes where
  best h _ := selectType_eq_iff h
  alike _ := suggestsAlike_of_perm
  contested := by
    rintro ⟨a, b, different, first, second⟩
    obtain ⟨front, hp, ha⟩ := exists_reordered_of_leads first
    obtain ⟨back, hp', hb⟩ := exists_reordered_of_leads second
    by_cases same : selectType changes = a
    · refine ⟨back, hp', ?_⟩
      rw [suggestCommit_commitType, suggestCommit_commitType, hb, same]
      exact different.symm
    · refine ⟨front, hp, ?_⟩
      rw [suggestCommit_commitType, suggestCommit_commitType, ha]
      exact Ne.symm same

/-- The mark stands in the first line of a body, so that line depends on the order. -/
theorem not_perm_lines_body :
    ¬∀ changes reordered : List ClassifiedChange, changes.Perm reordered →
      (Text.lines ((suggestCommit reordered).body.getD "")).Perm
        (Text.lines ((suggestCommit changes).body.getD "")) := by
  intro alike
  let change (description : String) : ClassifiedChange :=
    { path := "a.py", kind := .modified, breaking := true, description }
  have lines := alike [change "drop f", change "drop g"] [change "drop g", change "drop f"]
    (List.Perm.swap _ _ [])
  revert lines
  decide +kernel

/-- Both types of rank 3 occur twice, so the one that appears first is taken; a type that
is not known ranks below them. -/
example :
    let change (commitType : String) : ClassifiedChange :=
      { path := "a.py", kind := .modified, commitType }
    selectType [change "perf", change "perf", change "perf", change "test", change "docs",
        change "docs", change "test"] = "test" ∧
      selectType [change "chore", change "perf", change "docs", change "test", change "docs"] =
        "docs" := by
  decide +kernel

end CommitLens
