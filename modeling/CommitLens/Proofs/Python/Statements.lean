import CommitLens.Proofs.Python.Expressions
import CommitLens.Python.Module

/-!
# What statements name

A statement is plain if what it defines, binds or imports has names of one line, the
members of a class among them.  Main statement: a module that can be read is made of
plain statements.
-/

namespace CommitLens.Python

open Parse Text

/-- The names that the statement adds to a surface are of one line. -/
def Statement.Plain : Statement → Prop
  | .classDef name _ body => OneLine name ∧ ∀ item ∈ body.filterMap memberOf?, OneLine item.name
  | .functionDef name => OneLine name
  | .importModules items => ∀ item ∈ items, OneLine item.name
  | .importFrom _ module _ => Found OneLine module
  | .assign targets _ => ∀ target ∈ targets, target.Plain
  | .annotate target _ _ => target.Plain
  | .other => True

theorem Statement.Plain.member {statement : Statement} {item : InterfaceMember}
    (h : statement.Plain) (hi : memberOf? statement = some item) : OneLine item.name := by
  unfold memberOf? at hi
  split at hi
  · cases hi
    exact h _ (List.mem_singleton.mpr rfl)
  · split at hi
    · contradiction
    · cases hi
      exact h
  · contradiction

/-- A grammar that reads plain expressions and statements. -/
structure Grammar.Plain (g : Grammar) : Prop where
  expression : Ensures Expr.Plain g.expression
  statement : Ensures (∀ statement ∈ ·, statement.Plain) g.statement

variable {g : Grammar} (h : g.Plain)

theorem ensures_checked {reader : Parse Expr} (h : Ensures Expr.Plain reader) :
    Ensures Expr.Plain (checked reader) := by
  constructor
  intro ctx place e next names read
  unfold checked at read
  split at read
  · split at read
    · contradiction
    · cases read
      exact h.holds names ‹_›
  · contradiction

/-! ## Simple statements -/

include h in
theorem ensures_yieldOrRow : Ensures Expr.Plain (yieldOrRow g) :=
  .after fun _ => .ite (ensures_checked ensures_yieldExpression)
    (ensures_checked (ensures_starExpressions h.expression))

theorem ensures_refuseAt {α : Type} {P : α → Prop} (line : Nat) : Ensures P (refuseAt line) :=
  .after fun _ => .ite .reportLine .fail

include h in
theorem ensures_assignmentFrom (line : Nat) {first : Expr} (hf : first.Plain) :
    Ensures Statement.Plain (assignmentFrom g line first) := by
  have start : ∀ e ∈ [first], e.Plain := List.forall_mem_singleton.mpr hf
  refine .bind (P := (∀ e ∈ ·, e.Plain)) (.grow start fun parts hp => ?_) fun parts hp => ?_
  · cases parts with
    | nil => exact .pure .none
    | cons last rest =>
        refine .after fun _ => .ite (.pure .none) (.ite (ensures_refuseAt line) ?_)
        refine .after fun _ => .bind (ensures_yieldOrRow h) fun value hv => .pure (.some ?_)
        exact List.forall_mem_cons.mpr ⟨hv, hp⟩
  · cases parts with
    | nil => exact .fail
    | cons value targets =>
        refine .pure fun target ht => hp target (List.mem_cons_of_mem value ?_)
        exact List.mem_reverse.mp ht

theorem ensures_annotatedFrom (line : Nat) {target : Expr} (ht : target.Plain) :
    Ensures Statement.Plain (annotatedFrom g line target) := by
  have annotated : ∀ mark value, Ensures Statement.Plain (pure (.annotate target mark value)) :=
    fun _ _ => .pure ht
  refine .after fun _ => .ite (.after fun _ => ?_) ?_
  all_goals
    refine .after fun _ => .after fun mark => .ite (.after fun _ => ?_) ?_
  all_goals
    exact .after fun _ => .ite (.after fun value => annotated mark value)
      (.after fun value => annotated mark value)

include h in
theorem ensures_expressionStatement : Ensures Statement.Plain (expressionStatement g) := by
  refine .after fun token => .bind (ensures_yieldOrRow h) fun first hf => ?_
  refine .after fun _ => .ite (ensures_assignmentFrom h token.line hf) ?_
  refine .after fun _ => .ite (ensures_annotatedFrom token.line hf) ?_
  refine .after fun _ => .ite (.ite (.after fun _ => ?_) ?_) (.pure trivial)
  all_goals exact .after fun _ => .after fun _ => .pure trivial

theorem ensures_dotted : Ensures OneLine dotted :=
  .bind .identifier fun _ hf => .bind (.manyBehind .identifier ".") fun _ hr =>
    .pure (OneLine.intercalate (by decide) (List.forall_mem_cons.mpr ⟨hf, hr⟩))

theorem ensures_importAlias {name : Parse String} (hn : Ensures OneLine name) :
    Ensures (fun item => OneLine item.name) (importAlias name) :=
  .bind hn fun _ hn => .after fun _ => .ite (.after fun _ => .pure hn) (.pure hn)

theorem ensures_importModules : Ensures Statement.Plain importModules := by
  have item := ensures_importAlias ensures_dotted
  exact .bind item fun first hf => .bind (.manyBehind item ",") fun rest hr =>
    .pure (List.forall_mem_cons.mpr ⟨hf, hr⟩)

theorem ensures_importFrom : Ensures Statement.Plain importFrom := by
  have dotted : Ensures (Found OneLine) (some <$> dotted) :=
    .map ensures_dotted fun _ hm => .some hm
  refine .after fun level => .after fun _ => .ite
    (.bind (.pure (P := Found OneLine) .none) ?_) (.bind dotted ?_)
  all_goals
    intro module hm
    refine .after fun _ => .after fun _ => .ite (.pure hm) (.after fun _ => .ite ?_ ?_)
    · exact .after fun _ => .after fun _ => .after fun _ => .pure hm
    · exact .after fun _ => .after fun _ => .pure hm

theorem ensures_keywordStatement (keyword : String) :
    Ensures Statement.Plain (keywordStatement g keyword) := by
  have other : Ensures Statement.Plain (pure .other) := .pure trivial
  unfold keywordStatement
  dsimp only
  split
  · exact .after fun _ => .ite (.after fun _ => other) other
  · refine .after fun _ => .ite (.after fun _ => .after fun _ => ?_) other
    exact .ite (.after fun _ => other) other
  · exact .after fun _ => other
  · exact .after fun _ => other
  · exact .after fun _ => other
  · exact .after fun _ => .after fun _ => .ite (.after fun _ => other) other
  · exact other

include h in
theorem ensures_simpleStatement : Ensures Statement.Plain (simpleStatement g) := by
  refine .after fun found => ?_
  cases found with
  | some keyword => exact ensures_keywordStatement keyword
  | none =>
      refine .after fun _ => .ite ensures_importModules ?_
      exact .after fun _ => .ite ensures_importFrom (ensures_expressionStatement h)

include h in
theorem ensures_simpleStatements :
    Ensures (∀ statement ∈ ·, statement.Plain) (simpleStatements g) := by
  refine .bind (ensures_simpleStatement h) fun first hf =>
    .bind (.many (P := Statement.Plain) ?_) fun rest hr => ?_
  · refine .after fun _ => .ite (.after fun _ => .ite (.pure .none) ?_) (.pure .none)
    exact .bind (ensures_simpleStatement h) fun _ hs => .pure (.some hs)
  · exact .after fun _ => .pure (List.forall_mem_cons.mpr ⟨hf, hr⟩)

/-! ## Compound statements -/

include h in
theorem ensures_statementsUntilDedent :
    Ensures (∀ statement ∈ ·, statement.Plain) (statementsUntilDedent g) := by
  refine .bind h.statement fun first hf =>
    .bind (.many (P := (∀ statement ∈ ·, statement.Plain)) ?_) fun rest hr => .pure ?_
  · exact .after fun _ => .ite (.pure .none) (.bind h.statement fun _ hs => .pure (.some hs))
  · intro statement hs
    rcases List.mem_append.mp hs with hs | hs
    · exact hf statement hs
    · obtain ⟨block, hb, hs⟩ := List.mem_flatten.mp hs
      exact hr block hb statement hs

include h in
theorem ensures_block : Ensures (∀ statement ∈ ·, statement.Plain) (block g) :=
  .after fun _ => .after fun _ =>
    .ite (.after fun _ => ensures_statementsUntilDedent h) (ensures_simpleStatements h)

theorem ensures_functionDefinition : Ensures Statement.Plain (functionDefinition g) := by
  refine .bind .identifier fun name hn => .after fun _ => .after fun _ => .after fun _ =>
    .after fun _ => .ite (.after fun _ => ?_) ?_
  all_goals exact .after fun _ => .pure hn

include h in
theorem ensures_classDefinition : Ensures Statement.Plain (classDefinition g) := by
  refine .bind .identifier fun name hn => .after fun _ => .ite (.after fun _ => ?_)
    (.after fun _ => ?_)
  all_goals
    refine .bind (ensures_block h) fun body hb => .pure ⟨hn, fun item hi => ?_⟩
    obtain ⟨statement, hs, hi⟩ := List.mem_filterMap.mp hi
    exact (hb statement hs).member hi

include h in
theorem ensures_definition : Ensures Statement.Plain (definition g) :=
  .after fun _ => .after fun _ => .ite (ensures_classDefinition h)
    (.after fun _ => .after fun _ => ensures_functionDefinition)

include h in
theorem ensures_statementRule :
    Ensures (∀ statement ∈ ·, statement.Plain) (statementRule g) := by
  have one : ∀ {statement : Statement}, statement.Plain →
      Ensures (∀ statement ∈ ·, statement.Plain) (pure [statement]) :=
    fun hs => .pure (List.forall_mem_singleton.mpr hs)
  have definition : Ensures (∀ statement ∈ ·, statement.Plain) (do return [← definition g]) :=
    .bind (ensures_definition h) fun _ hs => one hs
  refine .after fun found => ?_
  cases found with
  | some keyword => exact .after fun _ => one trivial
  | none =>
      refine .after fun token => .ite definition (.ite (.after fun _ => .ite definition ?_) ?_)
      · refine .after fun _ => .after fun found => ?_
        cases found with
        | some keyword => exact .after fun _ => one trivial
        | none => exact .fail
      · refine .ite (.orElse ?_ ?_) ?_
        · exact .after fun _ => one trivial
        · exact ensures_simpleStatements h
        · exact ensures_simpleStatements h

/-! ## Modules -/

theorem plain_ofDepth (depth : Nat) : (Grammar.ofDepth depth).Plain := by
  induction depth with
  | zero => exact ⟨.fail, .fail⟩
  | succ depth ih => exact ⟨ensures_expressionRule ih.expression, ensures_statementRule ih⟩

include h in
theorem ensures_moduleRule : Ensures (∀ statement ∈ ·, statement.Plain) (moduleRule g) := by
  refine .bind (.many (P := (∀ statement ∈ ·, statement.Plain)) ?_) fun blocks hb => .pure ?_
  · exact .after fun _ => .ite (.pure .none) (.bind h.statement fun _ hs => .pure (.some hs))
  · intro statement hs
    obtain ⟨block, member, hs⟩ := List.mem_flatten.mp hs
    exact hb block member statement hs

/-- The statements of a module are plain. -/
theorem plain_of_parseModule {text : String} {statements : List Statement}
    (h : parseModule text = .ok statements) : ∀ statement ∈ statements, statement.Plain := by
  unfold parseModule at h
  split at h
  · contradiction
  · dsimp only at h
    split at h
    · rename_i read
      cases h
      refine (ensures_moduleRule (plain_ofDepth _)).holds ?_ read
      exact plain_lexFrom 1 _
    all_goals contradiction

end CommitLens.Python
