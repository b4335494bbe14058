import CommitLens.Proofs.Report.Suggestion
import CommitLens.Rules.Classify

/-!
# Rule lists one behind the other

Rules are gone through one by one.  What is kept on the way is a verdict: the ids of the
rules that apply, and the type that the last of them with a type gives.  Main statement:
of two rule lists, one behind the other, both add the ids of their rules, and the first
one has a say on the type only where the second one has none; the rest of a
classification is known without rules.
-/

namespace CommitLens

namespace Rule

/-- The rule gives its changes a type; the empty text is none. -/
def Gives (rule : Rule) (name : String) : Prop :=
  rule.commitType = some name ∧ name ≠ ""

def IsUntyped (rule : Rule) : Prop :=
  ∀ name, ¬rule.Gives name

variable {rule : Rule}

theorem gives_iff {name : String} : rule.Gives name ↔ present? rule.commitType = some name :=
  present?_eq_some_iff.symm

theorem isUntyped_iff : rule.IsUntyped ↔ present? rule.commitType = none := by
  simp only [IsUntyped, gives_iff, Option.eq_none_iff_forall_ne_some, ne_eq]

end Rule

/-! ## Verdicts -/

/-- What the rules up to some place say of a change. -/
structure Verdict where
  applied : List String := []
  commitType : Option String := none

namespace Verdict

variable {change : ComparedChange}

/-- What is said with one rule more. -/
def after (change : ComparedChange) (verdict : Verdict) (rule : Rule) : Verdict :=
  if rule.applies change then
    ⟨verdict.applied ++ [rule.id], (present? rule.commitType).or verdict.commitType⟩
  else verdict

/-- What is said when the rules of a list are gone through, the first one first. -/
def run (change : ComparedChange) (verdict : Verdict) (rules : List Rule) : Verdict :=
  rules.foldl (after change) verdict

/-- A verdict behind another one: its type comes first. -/
def behind (first second : Verdict) : Verdict :=
  ⟨first.applied ++ second.applied, second.commitType.or first.commitType⟩

theorem behind_empty (verdict : Verdict) : verdict.behind {} = verdict := by
  simp [behind]

theorem empty_behind (verdict : Verdict) : behind {} verdict = verdict := by
  simp [behind]

theorem behind_assoc (a b c : Verdict) : (a.behind b).behind c = a.behind (b.behind c) := by
  simp [behind, List.append_assoc, Option.or_assoc]

/-- A rule adds the same to every verdict. -/
theorem after_eq_behind (verdict : Verdict) (rule : Rule) :
    verdict.after change rule = verdict.behind (after change {} rule) := by
  by_cases h : rule.applies change = true
  · simp [after, behind, h]
  · simp [after, behind_empty, h]

/-- And so do the rules of a list. -/
theorem run_eq_behind (verdict : Verdict) (rules : List Rule) :
    verdict.run change rules = verdict.behind (run change {} rules) := by
  induction rules generalizing verdict with
  | nil => exact verdict.behind_empty.symm
  | cons rule rest ih =>
      calc verdict.run change (rule :: rest)
          = (verdict.after change rule).run change rest := rfl
        _ = (verdict.after change rule).behind (run change {} rest) := ih _
        _ = (verdict.behind (after change {} rule)).behind (run change {} rest) := by
            rw [after_eq_behind]
        _ = verdict.behind ((after change {} rule).run change rest) := by
            rw [behind_assoc, ih (after change {} rule)]

theorem run_append (verdict : Verdict) (a b : List Rule) :
    verdict.run change (a ++ b) = (verdict.run change a).run change b :=
  List.foldl_append ..

end Verdict

namespace ComparedChange

variable {change : ComparedChange} {rules a b : List Rule} {rule : Rule} {name : String}

/-- What a rule list says of a change. -/
def verdict (change : ComparedChange) (rules : List Rule) : Verdict :=
  ⟨(change.applyingRules rules).map (·.id), decidedType? (change.applyingRules rules)⟩

theorem classify_appliedRules (rules : List Rule) (change : ComparedChange) :
    (change.classify rules).appliedRules = (change.verdict rules).applied :=
  rfl

theorem classify_commitType_of_verdict (rules : List Rule) (change : ComparedChange) :
    (change.classify rules).commitType =
      (change.verdict rules).commitType.getD change.fallbackType :=
  rfl

/-- A rule list with one rule more says what is said with one rule more. -/
theorem verdict_concat (change : ComparedChange) (rules : List Rule) (rule : Rule) :
    change.verdict (rules ++ [rule]) = (change.verdict rules).after change rule := by
  by_cases h : rule.applies change = true
  · cases ht : present? rule.commitType <;>
      simp [verdict, applyingRules, decidedType?, Verdict.after, h, ht]
  · simp [verdict, applyingRules, Verdict.after, h]

theorem verdict_eq_run (change : ComparedChange) (rules : List Rule) :
    change.verdict rules = Verdict.run change {} rules := by
  induction rules using List.reverseRecOn with
  | nil => rfl
  | append_singleton rules rule ih =>
      rw [verdict_concat, ih, Verdict.run_append]
      rfl

theorem verdict_append (change : ComparedChange) (a b : List Rule) :
    change.verdict (a ++ b) = (change.verdict a).behind (change.verdict b) := by
  rw [verdict_eq_run, Verdict.run_append, Verdict.run_eq_behind, ← verdict_eq_run,
    ← verdict_eq_run]

theorem verdict_singleton (change : ComparedChange) (rule : Rule) :
    change.verdict [rule] = Verdict.after change {} rule :=
  change.verdict_concat [] rule

/-- A verdict that is the same gives the same classification. -/
theorem classify_congr (h : change.verdict a = change.verdict b) :
    change.classify a = change.classify b := by
  obtain ⟨applied, type⟩ := Verdict.mk.inj h
  simp only [classify, applied, type]

/-! ## Types -/

/-- The type that the rules decide on: some rule that applies gives it, and no rule behind
that one applies and gives a type. -/
def Decides (change : ComparedChange) (rules : List Rule) (name : String) : Prop :=
  ∃ before rule after, rules = before ++ rule :: after ∧ rule.applies change = true ∧
    rule.Gives name ∧ ∀ later ∈ after, later.applies change = true → later.IsUntyped

/-- No rule that applies gives a type. -/
def IsUndecided (change : ComparedChange) (rules : List Rule) : Prop :=
  ∀ rule ∈ rules, rule.applies change = true → rule.IsUntyped

/-- A rule that does not apply, or has no type, decides nothing. -/
theorem after_commitType_eq_none_iff :
    (Verdict.after change {} rule).commitType = none ↔
      (rule.applies change = true → rule.IsUntyped) := by
  by_cases h : rule.applies change = true <;> simp [Verdict.after, h, Rule.isUntyped_iff]

theorem verdict_cons (change : ComparedChange) (rule : Rule) (rules : List Rule) :
    change.verdict (rule :: rules) =
      (Verdict.after change {} rule).behind (change.verdict rules) := by
  rw [← List.singleton_append, verdict_append, verdict_singleton]

theorem verdict_commitType_eq_none_iff :
    (change.verdict rules).commitType = none ↔ change.IsUndecided rules := by
  induction rules with
  | nil => simp [verdict, applyingRules, decidedType?, IsUndecided]
  | cons rule rest ih =>
      simp only [verdict_cons, Verdict.behind, Option.or_eq_none_iff, ih,
        after_commitType_eq_none_iff, IsUndecided, List.forall_mem_cons]
      exact and_comm

theorem verdict_commitType_of_decides (h : change.Decides rules name) :
    (change.verdict rules).commitType = some name := by
  obtain ⟨before, rule, after, rfl, applies, gives, later⟩ := h
  have silent : (change.verdict after).commitType = none :=
    verdict_commitType_eq_none_iff.mpr later
  simp [verdict_append, verdict_cons, Verdict.behind, Verdict.after, silent, applies,
    Rule.gives_iff.mp gives]

/-- The rules decide on a type, or none of them that applies has one. -/
theorem decides_or_isUndecided (change : ComparedChange) (rules : List Rule) :
    (∃ name, change.Decides rules name) ∨ change.IsUndecided rules := by
  induction rules with
  | nil => exact .inr fun _ h => nomatch h
  | cons rule rest ih =>
      rcases ih with ⟨name, before, decisive, after, rfl, found⟩ | undecided
      · exact .inl ⟨name, rule :: before, decisive, after, rfl, found⟩
      by_cases silent : rule.applies change = true → rule.IsUntyped
      · exact .inr (List.forall_mem_cons.mpr ⟨silent, undecided⟩)
      · obtain ⟨applies, typed⟩ := Classical.not_imp.mp silent
        obtain ⟨name, gives⟩ := Classical.not_forall_not.mp typed
        exact .inl ⟨name, [], rule, rest, rfl, applies, gives, undecided⟩

theorem classify_commitType_of_decides (h : change.Decides rules name) :
    (change.classify rules).commitType = name := by
  rw [classify_commitType_of_verdict, verdict_commitType_of_decides h, Option.getD_some]

theorem classify_commitType_of_isUndecided (h : change.IsUndecided rules) :
    (change.classify rules).commitType = change.fallbackType := by
  rw [classify_commitType_of_verdict, verdict_commitType_eq_none_iff.mpr h, Option.getD_none]

theorem Decides.append_left (h : change.Decides b name) (a : List Rule) :
    change.Decides (a ++ b) name := by
  obtain ⟨before, rule, after, rfl, found⟩ := h
  exact ⟨a ++ before, rule, after, (List.append_assoc ..).symm, found⟩

theorem Decides.append_right (h : change.Decides a name) (hb : change.IsUndecided b) :
    change.Decides (a ++ b) name := by
  obtain ⟨before, rule, after, rfl, applies, gives, later⟩ := h
  exact ⟨before, rule, after ++ b, by simp, applies, gives,
    List.forall_mem_append.mpr ⟨later, hb⟩⟩

/-! ## Leaving rules out -/

theorem verdict_insert_of_not_applies (h : rule.applies change = false) :
    change.verdict (a ++ rule :: b) = change.verdict (a ++ b) := by
  simp [verdict_append, verdict_cons, Verdict.after, h, Verdict.empty_behind]

/-- A rule without a type may stand anywhere, or nowhere. -/
theorem verdict_commitType_insert (h : rule.IsUntyped) :
    (change.verdict (a ++ rule :: b)).commitType = (change.verdict (a ++ b)).commitType := by
  have silent : (Verdict.after change {} rule).commitType = none :=
    after_commitType_eq_none_iff.mpr fun _ => h
  simp [verdict_append, verdict_cons, Verdict.behind, silent]

/-! ## Composition -/

/-- How the classification by two rule lists, one behind the other, is made of what each
of them says. -/
structure Composes (change : ComparedChange) (a b : List Rule) : Prop where
  applied : (change.classify (a ++ b)).appliedRules =
    (change.classify a).appliedRules ++ (change.classify b).appliedRules
  /-- The second list decides on the type, or else the first one, or else nothing does. -/
  commitType :
    (∃ name, change.Decides b name ∧ (change.classify (a ++ b)).commitType = name) ∨
      (change.IsUndecided b ∧
        ∃ name, change.Decides a name ∧ (change.classify (a ++ b)).commitType = name) ∨
      (change.IsUndecided b ∧ change.IsUndecided a ∧
        (change.classify (a ++ b)).commitType = change.fallbackType)
  /-- A rule that does not apply can be left out. -/
  idle : ∀ rule : Rule, rule.applies change = false →
    change.classify (a ++ rule :: b) = change.classify (a ++ b)
  /-- Without a rule that has no type, the type is the same. -/
  untyped : ∀ rule : Rule, rule.IsUntyped →
    (change.classify (a ++ rule :: b)).commitType = (change.classify (a ++ b)).commitType
  /-- And so it is if that rule stands elsewhere among the others. -/
  moved : ∀ (rule : Rule) (before after : List Rule), rule.IsUntyped →
    before ++ after = a ++ b →
      (change.classify (before ++ rule :: after)).commitType =
        (change.classify (a ++ rule :: b)).commitType
  /-- What else is found out about a change does not come from rules. -/
  unruled : ∀ rules : List Rule,
    (change.classify rules).breaking = (change.classify (a ++ b)).breaking ∧
      (change.classify rules).commitScope = (change.classify (a ++ b)).commitScope ∧
      (change.classify rules).description = (change.classify (a ++ b)).description ∧
      (change.classify rules).toComparedChange = (change.classify (a ++ b)).toComparedChange

theorem classify_composes (change : ComparedChange) (a b : List Rule) : change.Composes a b where
  applied := by simp only [classify_appliedRules, verdict_append, Verdict.behind]
  commitType := by
    rcases decides_or_isUndecided change b with ⟨name, last⟩ | undecided
    · exact .inl ⟨name, last, classify_commitType_of_decides (last.append_left a)⟩
    rcases decides_or_isUndecided change a with ⟨name, first⟩ | undecided'
    · exact .inr (.inl ⟨undecided, name, first,
        classify_commitType_of_decides (first.append_right undecided)⟩)
    · exact .inr (.inr ⟨undecided, undecided',
        classify_commitType_of_isUndecided (List.forall_mem_append.mpr ⟨undecided', undecided⟩)⟩)
  idle rule h := classify_congr (verdict_insert_of_not_applies h)
  untyped rule h := by
    rw [classify_commitType_of_verdict, verdict_commitType_insert h,
      classify_commitType_of_verdict]
  moved rule before after h same := by
    rw [classify_commitType_of_verdict, classify_commitType_of_verdict,
      verdict_commitType_insert h, verdict_commitType_insert h, same]
  unruled rules := ⟨rfl, rfl, rfl, rfl⟩

/-- The last rule that applies has no type, and the last one with a type does not apply. -/
example :
    let change : ComparedChange := { path := "docs/a.md", kind := .modified }
    let rules : List Rule :=
      [{ id := "all", pattern := some "**", commitType := some "fix" },
        { id := "docs", pathPart := some "docs/", commitType := some "docs" },
        { id := "empty", pathPart := some "a.md", commitType := some "" },
        { id := "code", pattern := some "src/**", commitType := some "feat" }]
    (change.classify rules).commitType = "docs" ∧
      (change.classify rules).appliedRules = ["all", "docs", "empty"] := by
  decide +kernel

end ComparedChange

end CommitLens
