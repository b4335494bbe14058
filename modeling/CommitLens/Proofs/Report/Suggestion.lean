import CommitLens.Proofs.Surface
import CommitLens.Report.Suggestion

/-!
# Commit suggestions and breaking changes

What a suggestion says when something breaks.  Main statements: the mark and the
body are there exactly if a change is breaking, the body has one line for each
breaking change, and the header shows the mark and a scope that is never empty.
-/

namespace CommitLens

theorem present?_eq_some_iff {text : Option String} {s : String} :
    present? text = some s ↔ text = some s ∧ s ≠ "" := by
  cases text with
  | none => simp [present?]
  | some content =>
      by_cases h : content = "" <;> simp [present?, h]
      rintro rfl
      exact h

/-- What a commit body says of a breaking change: what was done, or else where. -/
def ClassifiedChange.breakingLine (change : ClassifiedChange) : String :=
  if change.description.isEmpty then change.path else change.description

variable {changes : List ClassifiedChange}

/-! ## Scopes -/

theorem mem_tally {items : List String} {entry : String × Nat} :
    entry ∈ tally items ↔ entry.1 ∈ items ∧ entry.2 = items.count entry.1 := by
  simp only [tally, List.mem_map, mem_unique]
  constructor
  · rintro ⟨item, hm, rfl⟩
    exact ⟨hm, rfl⟩
  · rintro ⟨hm, hc⟩
    exact ⟨entry.1, hm, Prod.ext rfl hc.symm⟩

theorem nodup_tally (items : List String) : (tally items).Nodup :=
  (nodup_unique items).map fun _ _ h => (Prod.ext_iff.mp h).1

/-- A scope that is selected belongs to one of the changes; empty ones are not
counted. -/
theorem selectScope?_eq_some {scope : String} (h : selectScope? changes = some scope) :
    scope ≠ "" ∧ ∃ change ∈ changes, change.commitScope = some scope := by
  simp only [selectScope?] at h
  split at h
  · contradiction
  · rename_i first count rest hf
    split at h
    · contradiction
    · obtain rfl := Option.some.inj h
      have hm : (first, count) ∈
          tally (changes.filterMap fun change => present? change.commitScope) :=
        List.mem_of_mem_filter (hf ▸ List.mem_cons_self)
      obtain ⟨change, hc, hp⟩ := List.mem_filterMap.mp (mem_tally.mp hm).1
      obtain ⟨hs, hne⟩ := present?_eq_some_iff.mp hp
      exact ⟨hne, change, hc, hs⟩

/-! ## Marks and bodies -/

theorem suggestCommit_of_ne_nil (h : changes ≠ []) :
    suggestCommit changes =
      { commitType := selectType changes
        subject := subject changes (selectType changes)
        breaking := !(changes.filter (·.breaking)).isEmpty
        scope := selectScope? changes
        body := if (changes.filter (·.breaking)).isEmpty then none
          else some (breakingBody (changes.filter (·.breaking))) } := by
  simp [suggestCommit, h]

theorem suggestCommit_scope : (suggestCommit changes).scope = selectScope? changes := by
  by_cases h : changes = []
  · subst h
    rfl
  · rw [suggestCommit_of_ne_nil h]

theorem suggestCommit_breaking :
    (suggestCommit changes).breaking = !(changes.filter (·.breaking)).isEmpty := by
  by_cases h : changes = []
  · subst h
    rfl
  · rw [suggestCommit_of_ne_nil h]

theorem suggestCommit_body :
    (suggestCommit changes).body =
      if (changes.filter (·.breaking)).isEmpty then none
      else some (breakingBody (changes.filter (·.breaking))) := by
  by_cases h : changes = []
  · subst h
    rfl
  · rw [suggestCommit_of_ne_nil h]

theorem suggestCommit_breaking_iff :
    (suggestCommit changes).breaking = true ↔ ∃ change ∈ changes, change.breaking = true := by
  rw [suggestCommit_breaking, Bool.not_eq_true', List.isEmpty_eq_false_iff_exists_mem]
  simp only [List.mem_filter]

/-- The body and the mark come together. -/
theorem isSome_suggestCommit_body :
    (suggestCommit changes).body.isSome = (suggestCommit changes).breaking := by
  rw [suggestCommit_body, suggestCommit_breaking]
  cases (changes.filter (·.breaking)).isEmpty <;> rfl

theorem suggestCommit_body_eq_some {body : String} (h : (suggestCommit changes).body = some body) :
    body = "BREAKING CHANGE: " ++
      "\n".intercalate ((changes.filter (·.breaking)).map (·.breakingLine)) := by
  rw [suggestCommit_body] at h
  split at h
  · contradiction
  · exact (Option.some.inj h).symm

/-! ## Headers -/

/-- A scope in parentheses. -/
def scopeText : Option String → String
  | none => ""
  | some scope => "(" ++ scope ++ ")"

def breakingMark (breaking : Bool) : String :=
  if breaking then "!" else ""

theorem suggestCommit_header :
    (suggestCommit changes).header =
      (suggestCommit changes).commitType ++ scopeText (suggestCommit changes).scope ++
        breakingMark (suggestCommit changes).breaking ++ ": " ++
        (suggestCommit changes).subject := by
  have hs : present? (suggestCommit changes).scope = (suggestCommit changes).scope := by
    rw [suggestCommit_scope]
    cases h : selectScope? changes with
    | none => rfl
    | some scope => exact present?_eq_some_iff.mpr ⟨rfl, (selectScope?_eq_some h).1⟩
  unfold Suggestion.header
  rw [hs]
  cases (suggestCommit changes).scope <;> rfl

end CommitLens
