import CommitLens.Proofs.Python.Reader
import CommitLens.Python.Surface

/-!
# What expressions bind

An expression is plain if the names that it binds as a target are of one line.  Only
names, tuples and lists bind anything.  Main statement: the readers of expressions read
plain ones, if those of the grammar do.
-/

namespace CommitLens.Python

open Parse Text

/-- The names that the expression binds as a target are of one line. -/
def Expr.Plain (e : Expr) : Prop :=
  ∀ name ∈ targetNames e, OneLine name

theorem mem_targetNamesOf {name : String} {items : List Expr} :
    name ∈ targetNamesOf items ↔ ∃ e ∈ items, name ∈ targetNames e := by
  induction items with
  | nil => simp [targetNamesOf]
  | cons e rest ih => simp [targetNamesOf, ih]

namespace Expr.Plain

variable {e : Expr} {items : List Expr}

theorem of_eq_nil (h : targetNames e = []) : e.Plain := by
  intro name member
  rw [h] at member
  contradiction

theorem name {id : String} (h : OneLine id) : (Expr.name id).Plain := by
  intro bound member
  rw [targetNames, List.mem_singleton] at member
  exact member ▸ h

theorem tuple (h : ∀ e ∈ items, e.Plain) : (Expr.tuple items).Plain := by
  intro bound member
  rw [targetNames] at member
  obtain ⟨e, he, hb⟩ := mem_targetNamesOf.mp member
  exact h e he bound hb

theorem list (h : ∀ e ∈ items, e.Plain) : (Expr.list items).Plain := by
  intro bound member
  rw [targetNames] at member
  obtain ⟨e, he, hb⟩ := mem_targetNamesOf.mp member
  exact h e he bound hb

theorem rowOf {isRow : Bool} (h : e.Plain) (hm : ∀ e ∈ items, e.Plain) :
    (rowOf e items isRow).Plain := by
  unfold Python.rowOf
  split
  · exact .tuple (List.forall_mem_cons.mpr ⟨h, hm⟩)
  · exact h

end Expr.Plain

/-- An expression that binds nothing. -/
theorem Parse.Ensures.bindsNothing {e : Expr} (h : targetNames e = []) :
    Ensures Expr.Plain (Pure.pure e) :=
  pure (.of_eq_nil h)

variable {g : Grammar} {next item bitOr primary : Parse Expr}

/-! ## Operators -/

theorem ensures_leftChain (h : Ensures Expr.Plain next) (operators : List String) :
    Ensures Expr.Plain (leftChain operators next) := by
  refine .bind h fun first hf => .grow hf fun left hl => .after fun found => ?_
  cases found with
  | none => exact .pure .none
  | some op => exact .after fun right => .pure (.some (.of_eq_nil rfl))

theorem ensures_power (h : Ensures Expr.Plain primary) : Ensures Expr.Plain (power g primary) := by
  have base : Ensures Expr.Plain (awaited primary) :=
    .after fun _ => .ite (.after fun _ => .bindsNothing rfl) h
  exact .bind base fun _ hb => .after fun _ =>
    .ite (.after fun _ => .bindsNothing rfl) (.pure hb)

theorem ensures_factorOf (h : Ensures Expr.Plain primary) :
    Ensures Expr.Plain (factorOf g primary) := by
  refine .after fun signs => .bind (ensures_power h) fun base hb => .pure ?_
  cases signs with
  | nil => exact hb
  | cons sign rest => exact .of_eq_nil rfl

theorem ensures_bitOrOf (h : Ensures Expr.Plain primary) :
    Ensures Expr.Plain (bitOrOf g primary) :=
  have products := ensures_leftChain (ensures_factorOf h) ["*", "/", "//", "%", "@"]
  have shifts := ensures_leftChain (ensures_leftChain products ["+", "-"]) ["<<", ">>"]
  ensures_leftChain (ensures_leftChain (ensures_leftChain shifts ["&"]) ["^"]) ["|"]

theorem ensures_comparisonOf (h : Ensures Expr.Plain bitOr) :
    Ensures Expr.Plain (comparisonOf bitOr) := by
  refine .bind h fun first hf => .after fun rest => .pure ?_
  split
  · exact hf
  · exact .of_eq_nil rfl

theorem ensures_inversionOf (h : Ensures Expr.Plain next) :
    Ensures Expr.Plain (inversionOf next) := by
  refine .after fun negations => .bind h fun base hb => .pure ?_
  refine List.foldlRecOn (motive := Expr.Plain) _ _ hb ?_
  exact fun _ _ _ _ => .of_eq_nil rfl

theorem ensures_booleanChain (h : Ensures Expr.Plain next) (op : String) :
    Ensures Expr.Plain (booleanChain op next) := by
  refine .bind h fun first hf => .after fun rest => .pure ?_
  split
  · exact hf
  · exact .of_eq_nil rfl

theorem ensures_disjunctionOf (h : Ensures Expr.Plain bitOr) :
    Ensures Expr.Plain (disjunctionOf bitOr) :=
  ensures_booleanChain (ensures_booleanChain (ensures_inversionOf (ensures_comparisonOf h)) _) _

/-! ## Rows -/

theorem ensures_namedExpression (h : Ensures Expr.Plain g.expression) :
    Ensures Expr.Plain (namedExpression g) := by
  refine .after fun isBinding => .ite ?_ ?_
  · exact .after fun _ => .after fun _ => .after fun _ => .bindsNothing rfl
  · exact .bind h fun e he => .after fun _ => .ite .fail (.pure he)

theorem ensures_starOr (h : Ensures Expr.Plain next) : Ensures Expr.Plain (starOr bitOr next) :=
  .after fun _ => .ite (.after fun _ => .bindsNothing rfl) h

theorem ensures_starRow (h : Ensures Expr.Plain g.expression) :
    Ensures Expr.Plain (starRow g bitOr) :=
  .bind (ensures_starOr h) fun _ hf => .bind (.moreItems (ensures_starOr h)) fun _ hm =>
    .pure (.rowOf hf hm)

/-! ## Atoms -/

theorem ensures_strings : Ensures Expr.Plain (strings g) := by
  refine .after fun tokens => .after fun parts => ?_
  unfold joinStrings
  dsimp only
  -- Strings that are joined are one constant, or one formatted string.
  have constant : ∀ value : Constant, Ensures Expr.Plain (pure (.constant value)) :=
    fun _ => .bindsNothing rfl
  have formatted : ∀ parts : List Expr, Ensures Expr.Plain (pure (.formatted parts)) :=
    fun _ => .bindsNothing rfl
  split
  · rename_i e joined
    split at joined
    · split at joined
      · cases joined
        exact constant _
      · contradiction
    · split at joined
      · cases joined
        exact formatted _
      · cases joined
        exact constant _
  · exact .report

section Brackets

variable (h : Ensures Expr.Plain g.expression)

include h

theorem ensures_item : Ensures Expr.Plain (starOr bitOr (namedExpression g)) :=
  ensures_starOr (ensures_namedExpression h)

theorem ensures_parenthesized : Ensures Expr.Plain (parenthesized g bitOr) := by
  refine .after fun isEmpty => .ite ?_ (.after fun isYield => .ite ?_ ?_)
  · exact .pure (.tuple fun _ he => absurd he List.not_mem_nil)
  · refine .after fun isFrom => .ite ?_ ?_
    · exact .bind (.map .any fun _ _ => .of_eq_nil rfl) fun e he => .after fun _ => .pure he
    · exact .bind (.map .any fun _ _ => .of_eq_nil rfl) fun e he => .after fun _ => .pure he
  · refine .after fun isStarred => .bind (ensures_item h) fun first hf => .after fun _ => .ite ?_ ?_
    · exact .after fun _ => .after fun _ => .bindsNothing rfl
    · exact .bind (.moreItems (ensures_item h)) fun _ hm => .after fun _ =>
        .ite .fail (.pure (.rowOf hf hm))

theorem ensures_bracketed : Ensures Expr.Plain (bracketed g bitOr) := by
  refine .after fun isEmpty => .ite ?_ ?_
  · exact .pure (.list fun _ he => absurd he List.not_mem_nil)
  · refine .after fun isStarred => .bind (ensures_item h) fun first hf => .after fun _ => .ite ?_ ?_
    · exact .after fun _ => .after fun _ => .bindsNothing rfl
    · exact .bind (.moreItems (ensures_item h)) fun _ hm => .after fun _ =>
        .pure (.list (List.forall_mem_cons.mpr ⟨hf, hm⟩))

omit h

theorem ensures_dictFrom (first : Option Expr × Expr) :
    Ensures Expr.Plain (dictFrom g bitOr first) :=
  .after fun _ => .after fun _ => .bindsNothing rfl

theorem ensures_braced : Ensures Expr.Plain (braced g bitOr) := by
  refine .after fun isEmpty => .ite (.bindsNothing rfl) (.after fun isMapping => .ite ?_ ?_)
  · exact .after fun first => ensures_dictFrom first
  · refine .after fun _ => .after fun _ => .after fun _ => .after fun _ => ?_
    refine .after fun _ => .ite (.after fun _ => .after fun _ => .ite ?_ ?_) ?_
    · exact .after fun _ => .after fun _ => .bindsNothing rfl
    · exact ensures_dictFrom _
    · refine .after fun _ => .ite ?_ ?_
      · exact .after fun _ => .after fun _ => .bindsNothing rfl
      · exact .after fun _ => .after fun _ => .bindsNothing rfl

theorem ensures_atom (h : Ensures Expr.Plain g.expression) : Ensures Expr.Plain (atom g bitOr) := by
  have other : Ensures Expr.Plain (do
      if ← accept "(" then parenthesized g bitOr
      else if ← accept "[" then bracketed g bitOr
      else if ← accept "\x7b" then braced g bitOr
      else return .name (← identifier)) := by
    refine .after fun _ => .ite (ensures_parenthesized h) ?_
    refine .after fun _ => .ite (ensures_bracketed h) ?_
    refine .after fun _ => .ite ensures_braced ?_
    exact .bind .identifier fun _ hn => .pure (.name hn)
  refine .after fun token => ?_
  split
  · exact ensures_strings
  · exact .ite .reportLine (.after fun _ => .bindsNothing rfl)
  · split
    · exact .after fun _ => .bindsNothing rfl
    · exact other
  · split
    · exact .after fun _ => .bindsNothing rfl
    · exact other
  · exact .fail

theorem ensures_primary (h : Ensures Expr.Plain g.expression) :
    Ensures Expr.Plain (Python.primary g bitOr) := by
  refine .bind (ensures_atom h) fun first hf => .grow hf fun e _ => ?_
  -- What is attached to an expression makes it one that binds nothing.
  have attached : ∀ e : Expr, targetNames e = [] →
      Ensures (Found Expr.Plain) (pure (some e)) := fun _ he => .pure (.some (.of_eq_nil he))
  refine .after fun _ => .ite (.after fun _ => attached _ rfl) ?_
  refine .after fun _ => .ite (.after fun _ => attached _ rfl) ?_
  exact .after fun _ => .ite (.after fun _ => attached _ rfl) (.pure .none)

end Brackets

/-! ## Expressions -/

section Expressions

variable (h : Ensures Expr.Plain g.expression)

include h

theorem ensures_bitOrUpTo (fuel : Nat) : Ensures Expr.Plain (bitOrUpTo g fuel) := by
  cases fuel with
  | zero => exact .fail
  | succ fuel => exact ensures_bitOrOf (ensures_primary h)

theorem ensures_bitOr : Ensures Expr.Plain (Python.bitOr g) :=
  .after fun fuel => ensures_bitOrUpTo h fuel

theorem ensures_disjunction : Ensures Expr.Plain (disjunction g) :=
  ensures_disjunctionOf (ensures_bitOr h)

theorem ensures_expressionRule : Ensures Expr.Plain (expressionRule g) := by
  refine .after fun _ => .ite (.after fun _ => .after fun _ => .after fun _ => ?_) ?_
  · exact .after fun _ => .bindsNothing rfl
  · refine .after fun _ => .after fun _ => .ite (.after fun _ => ?_) (.after fun _ => ?_)
    all_goals
      refine .bind (ensures_disjunction h) fun first hf => .ite (.after fun _ => ?_) ?_
    all_goals
      refine .after fun _ => .ite (.orElse ?_ (.pure hf)) (.pure hf)
      refine .after fun _ => .after fun _ => .after fun _ => .after fun _ => .ite ?_ ?_
    all_goals first
      | exact .after fun _ => .after fun _ => .bindsNothing rfl
      | exact .after fun _ => .after fun _ => .after fun _ => .bindsNothing rfl

theorem ensures_starExpressions : Ensures Expr.Plain (starExpressions g) :=
  ensures_starRow h

omit h

theorem ensures_yieldExpression : Ensures Expr.Plain (yieldExpression g) :=
  .after fun _ => .after fun _ =>
    .ite (.after fun _ => .bindsNothing rfl) (.after fun _ => .bindsNothing rfl)

end Expressions

end CommitLens.Python
