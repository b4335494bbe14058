import CommitLens.Proofs.Python.Token
import CommitLens.Proofs.Text.Compatibility
import CommitLens.Python.Parse

/-!
# What readers give

A reader ensures a condition if all it reads meets the condition, wherever the tokens
that are names are names of one line.  Readers are put together from other ones, and so
are the conditions: one lemma for each way.
-/

namespace CommitLens.Python

open Text

namespace Parse

variable {α β : Type} {P : α → Prop} {Q : β → Prop}

structure Ensures (P : α → Prop) (reader : Parse α) : Prop where
  holds : ∀ {ctx place value next}, NamesOnOneLine ctx.tokens.toList →
    reader ctx place = .ok (value, next) → P value

/-- The condition, if there is anything to meet it. -/
def Found (P : α → Prop) (found : Option α) : Prop :=
  ∀ value, found = some value → P value

theorem Found.none : Found P none :=
  fun _ h => nomatch h

theorem Found.some {value : α} (h : P value) : Found P (some value) := by
  rintro _ ⟨⟩
  exact h

theorem oneLine_nameText {text : String} (h : OneLine text) : OneLine (nameText text) := by
  unfold nameText
  split
  · exact h
  · exact Compatibility.oneLine_normalize h

namespace Ensures

variable {reader first second : Parse α}

theorem pure {value : α} (h : P value) : Ensures P (pure value) := by
  constructor
  intro ctx place value' next _ read
  cases read
  exact h

theorem bind {then_ : α → Parse β} (hf : Ensures P first)
    (hn : ∀ value, P value → Ensures Q (then_ value)) : Ensures Q (first >>= then_) := by
  constructor
  intro ctx place value next names read
  change andThen first then_ ctx place = _ at read
  unfold andThen at read
  split at read
  · exact (hn _ (hf.holds names ‹_›)).holds names read
  · contradiction

theorem any : Ensures (fun _ => True) reader :=
  ⟨fun _ _ => trivial⟩

/-- What was read first does not matter. -/
theorem after {then_ : α → Parse β} (hn : ∀ value, Ensures Q (then_ value)) :
    Ensures Q (first >>= then_) :=
  bind any fun value _ => hn value

theorem map {f : α → β} (h : Ensures P reader) (hf : ∀ value, P value → Q (f value)) :
    Ensures Q (f <$> reader) :=
  bind h fun value hv => pure (hf value hv)

theorem ite {c : Prop} [Decidable c] (h₁ : Ensures P first) (h₂ : Ensures P second) :
    Ensures P (if c then first else second) := by
  split
  · exact h₁
  · exact h₂

theorem fail : Ensures P fail :=
  ⟨fun _ read => nomatch read⟩

theorem report : Ensures P report :=
  ⟨fun _ read => nomatch read⟩

theorem reportLine {line : Nat} : Ensures P (reportLine line) :=
  ⟨fun _ read => nomatch read⟩

theorem orElse (h₁ : Ensures P first) (h₂ : Ensures P second) : Ensures P (orElse first second) := by
  constructor
  intro ctx place value next names read
  unfold Parse.orElse at read
  split at read
  · exact h₂.holds names read
  · exact h₁.holds names read

theorem optional (h : Ensures P reader) : Ensures (Found P) (optional reader) :=
  orElse (bind h fun _ hv => pure (.some hv)) (pure .none)

/-! ## Repetitions -/

theorem manyUpTo {step : Parse (Option α)} (h : Ensures (Found P) step) (fuel : Nat) :
    Ensures (∀ value ∈ ·, P value) (manyUpTo step fuel) := by
  induction fuel with
  | zero => exact pure fun _ hv => nomatch hv
  | succ fuel ih =>
      refine bind h fun found hf => ?_
      cases found with
      | none => exact pure fun _ hv => nomatch hv
      | some value =>
          exact bind ih fun rest hr => pure (List.forall_mem_cons.mpr ⟨hf value rfl, hr⟩)

theorem many {step : Parse (Option α)} (h : Ensures (Found P) step) :
    Ensures (∀ value ∈ ·, P value) (many step) :=
  after fun limit => manyUpTo h limit

theorem growUpTo {step : α → Parse (Option α)}
    (h : ∀ value, P value → Ensures (Found P) (step value)) (fuel : Nat) {value : α}
    (hv : P value) : Ensures P (growUpTo step fuel value) := by
  induction fuel generalizing value with
  | zero => exact pure hv
  | succ fuel ih =>
      refine bind (h value hv) fun found hf => ?_
      cases found with
      | none => exact pure hv
      | some next => exact ih (hf next rfl)

theorem grow {step : α → Parse (Option α)} {value : α} (hv : P value)
    (h : ∀ value, P value → Ensures (Found P) (step value)) : Ensures P (grow value step) :=
  after fun limit => growUpTo h limit hv

/-- Items that each stand behind a mark. -/
theorem manyBehind {item : Parse α} (h : Ensures P item) (mark : String) :
    Ensures (∀ value ∈ ·, P value) (Parse.many do
      if ← accept mark then return some (← item) else return Option.none) :=
  many (after fun _ => ite (bind h fun _ hv => pure (.some hv)) (pure .none))

theorem moreItems {item : Parse α} (h : Ensures P item) :
    Ensures (fun read => ∀ value ∈ read.1, P value) (moreItems item) := by
  unfold Parse.moreItems
  refine after fun found => ite (pure fun _ hv => nomatch hv) ?_
  refine bind (many (after fun _ => ite ?_ (pure .none))) fun _ hi => after fun _ => pure hi
  exact optional (after fun _ => h)

/-! ## Names -/

theorem peekAt {ahead : Nat} :
    Ensures (fun token => token.kind = .name → OneLine token.text) (peekAt ahead) := by
  constructor
  intro ctx place token next names read
  unfold Parse.peekAt at read
  dsimp only at read
  split at read
  · rename_i found
    cases read
    exact names token (Array.mem_toList_iff.mpr (Array.mem_of_getElem? found))
  · split at read
    · contradiction
    · cases read
      exact nofun

theorem identifier : Ensures OneLine identifier := by
  refine bind peekAt fun token plain => ?_
  split
  · rename_i isIdentifier
    obtain ⟨kind, _⟩ := (Bool.and_eq_true _ _).mp isIdentifier
    exact after fun _ => pure (oneLine_nameText (plain (eq_of_beq kind)))
  · exact fail

end Ensures

end Parse

end CommitLens.Python
