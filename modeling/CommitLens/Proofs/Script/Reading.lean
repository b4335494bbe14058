import CommitLens.Proofs.Script.Rule
import CommitLens.Proofs.Script.Token

/-!
# What rules read

The grammar tries its rules in order, so what is read at a place depends on the rules that
fail there.  A sequence fails with its first rule, a choice passes on, and a repetition reads
as long as it gets further.  Main statement: items that stand one after another are read by a
repetition, whatever stands behind them, if the next item does not stand there.
-/

namespace CommitLens.Script

open Source

/-- The way from the place of one token to that of a later one. -/
structure Onward (c next : Cursor) : Prop where
  here_lt : c.here < next.past
  past_le : next.past ≤ next.here

instance (c next : Cursor) : Decidable (Onward c next) :=
  decidable_of_iff (_ ∧ _) ⟨fun ⟨start, stop⟩ => ⟨start, stop⟩, fun h => ⟨h.here_lt, h.past_le⟩⟩

namespace Onward

variable {c middle next : Cursor}

theorem here_lt_here (h : Onward c next) : c.here < next.here :=
  Nat.lt_of_lt_of_le h.here_lt h.past_le

theorem trans (h : Onward c middle) (later : Onward middle next) : Onward c next :=
  ⟨Nat.lt_trans h.here_lt_here later.here_lt, later.past_le⟩

theorem afterToken (src : Source) {stop : Nat} (h : c.here < stop) :
    Onward c (.afterToken src stop) :=
  ⟨h, le_skipGap src stop⟩

end Onward

theorem NameAt.onward {src : Source} {text : String} {c next : Cursor}
    (h : NameAt src text c next) : Onward c next := by
  have long : 0 < text.length := Nat.pos_of_ne_zero (by simpa using h.ne_empty)
  rw [h.next_eq]
  exact .afterToken src (Nat.lt_add_of_pos_right long)

theorem MarkAt.onward {src : Source} {text : String} {c next : Cursor}
    (h : MarkAt src text c next) (some : text ≠ "") : Onward c next := by
  have long : 0 < text.length := Nat.pos_of_ne_zero (by simpa using some)
  rw [h.next_eq]
  exact .afterToken src (Nat.lt_add_of_pos_right long)

theorem StringAt.onward {src : Source} {text : String} {c next : Cursor}
    (h : StringAt src text c next) : Onward c next := by
  rw [h.next_eq]
  exact .afterToken src (Nat.lt_add_of_pos_right (Nat.succ_pos _))

namespace Rule

variable {src : Source} {c middle next : Cursor} {rule first : Rule} {rules : List Rule}
  {trees front back : List Tree} {kind : Kind} {part : Role}

/-! ## Failure -/

section Failure

theorem all_of_none (h : rule src c = none) : all (rule :: rules) src c = none := by
  simp [all, h]

/-- A sequence that goes on as it may not. -/
theorem all_of_read_none (h : rule src c = some (front, middle))
    (later : all rules src middle = none) : all (rule :: rules) src c = none := by
  simp [all, h, later]

theorem any_nil : any [] src c = none :=
  rfl

theorem any_of_none (h : rule src c = none) : any (rule :: rules) src c = any rules src c := by
  simp [any, h]

theorem any_of_forall_none (h : ∀ rule ∈ rules, rule src c = none) : any rules src c = none := by
  induction rules with
  | nil => rfl
  | cons rule rules ih =>
      rw [List.forall_mem_cons] at h
      rw [any_of_none h.1, ih h.2]

theorem node_of_none (h : rule src c = none) : node kind rule src c = none := by
  simp [node, h]

theorem group_of_none (h : rule src c = none) : group kind rule src c = none := by
  simp [group, h]

theorem role_of_none (h : rule src c = none) : role part rule src c = none := by
  simp [role, h]

theorem all_guard_of_none {test : Source → Cursor → Bool} (h : all rules src c = none) :
    all (guard test :: rules) src c = none := by
  cases ht : test src c <;> simp [all, guard, ht, h]

theorem typed_of_none (h : rule src c = none) : typed rule src c = none :=
  all_guard_of_none (all_of_none h)

theorem untyped_of_none (h : rule src c = none) : untyped rule src c = none :=
  all_guard_of_none (all_of_none h)

theorem opt_of_none (h : rule src c = none) : opt rule src c = some ([], c) := by
  simp [opt, any, nothing, h]

theorem any_one : any [rule] src c = rule src c := by
  cases h : rule src c <;> simp [any, fail, h]

theorem optionally_of_none (h : first src c = none) :
    optionally first rule src c = rule src c := by
  rw [optionally, any_of_none (all_of_none h), any_one]

theorem many_of_none (h : rule src c = none) : many rule src c = some ([], c) := by
  simp [many, left, manyUpTo, h]

theorem all_opt_of_none (h : rule src c = none) :
    all (opt rule :: rules) src c = all rules src c := by
  cases later : all rules src c <;> simp [all, opt_of_none h, later]

theorem all_many_of_none (h : rule src c = none) :
    all (many rule :: rules) src c = all rules src c := by
  cases later : all rules src c <;> simp [all, many_of_none h, later]

theorem sepBy1_of_none (h : rule src c = none) : sepBy1 first rule src c = none :=
  all_of_none h

theorem listed_of_none {opening closing : String} (h : mark opening src c = none) :
    listed opening rule closing src c = none :=
  all_of_none h

theorem listedWithHoles_of_none {opening closing : String} (h : mark opening src c = none) :
    listedWithHoles opening rule closing src c = none :=
  all_of_none h

theorem guard_of_false {test : Source → Cursor → Bool} (h : test src c = false) :
    guard test src c = none :=
  if_neg (by simp [h])

theorem ahead_of_none (h : rule src c = none) : ahead rule src c = none :=
  guard_of_false (by rw [h]; rfl)

theorem token_of_none {read : Source → Nat → Option Nat} (h : read src c.here = none) :
    token kind read src c = none := by
  simp [token, h]

theorem words_of_notMem {text : String} {texts : List String} (h : NameAt src text c next)
    (marks : ∀ word ∈ texts, IsWord word) (other : text ∉ texts) : words texts src c = none := by
  unfold words
  induction texts with
  | nil => rfl
  | cons word texts ih =>
      rw [List.forall_mem_cons] at marks
      rw [List.mem_cons, not_or] at other
      rw [List.map_cons, any_of_none (h.word_of_ne marks.1 (Ne.symm other.1))]
      exact ih marks.2 other.2

end Failure

/-! ## Success -/

theorem all_nil : all [] src c = some ([], c) :=
  rfl

theorem all_of_read (h : rule src c = some (front, middle))
    (later : all rules src middle = some (back, next)) :
    all (rule :: rules) src c = some (front ++ back, next) := by
  simp [all, h, later]

theorem any_of_read (h : rule src c = some (trees, next)) :
    any (rule :: rules) src c = some (trees, next) := by
  simp [any, h]

/-- A choice with further rules at its end. -/
theorem any_append_of_read (h : any rules src c = some (trees, next)) (more : List Rule) :
    any (rules ++ more) src c = some (trees, next) := by
  induction rules with
  | nil => exact nomatch h
  | cons rule rules ih =>
      cases first : rule src c with
      | none => exact (any_of_none first).trans (ih ((any_of_none first).symm.trans h))
      | some read => exact (any_of_read first).trans ((any_of_read first).symm.trans h)

theorem guard_of_true {test : Source → Cursor → Bool} (h : test src c = true) :
    guard test src c = some ([], c) :=
  if_pos h

theorem ahead_of_read (h : rule src c = some (trees, next)) :
    ahead rule src c = some ([], c) :=
  guard_of_true (by rw [h]; rfl)

theorem ofKind_of_read {kinds : List Kind} (h : rule src c = some (trees, next))
    (hk : ∀ tree ∈ trees, kinds.contains tree.kind = true) :
    ofKind kinds rule src c = some (trees, next) := by
  have kept : (trees.all fun tree => kinds.contains tree.kind) = true := by
    rw [List.all_eq_true]
    exact hk
  simp only [ofKind, h, Option.bind_eq_bind, Option.bind_some, kept, if_true]
  rfl

theorem opt_of_read (h : rule src c = some (trees, next)) :
    opt rule src c = some (trees, next) :=
  any_of_read h

theorem node_of_read (h : rule src c = some (trees, next)) :
    node kind rule src c = some ([.node kind .plain c.here next.past trees], next) := by
  simp [node, h]

theorem role_of_read (h : rule src c = some (trees, next)) :
    role part rule src c = some (trees.map (Tree.withRole part), next) := by
  simp [role, h]

theorem group_of_one {tree : Tree} (h : rule src c = some ([tree], next)) :
    group kind rule src c = some ([tree], next) := by
  simp [group, h]

theorem typed_of_read (ht : src.dialect.hasTypes = true) (h : rule src c = some (trees, next)) :
    typed rule src c = some (trees, next) := by
  simp [typed, all, nothing, guard, ht, h]

theorem typed_of_untyped (ht : src.dialect.hasTypes = false) : typed rule src c = none :=
  all_of_none (guard_of_false ht)

/-! ## Repetition -/

/-- A rule reads on from a place, again and again, up to a place where it fails. -/
inductive Repeats (rule : Rule) (src : Source) : List Tree → Cursor → Cursor → Prop
  | stop {c : Cursor} (failed : rule src c = none) : Repeats rule src [] c c
  | step {front back : List Tree} {c middle next : Cursor}
      (read : rule src c = some (front, middle)) (further : c.past < middle.past)
      (inside : c.past < src.chars.size) (later : Repeats rule src back middle next) :
      Repeats rule src (front ++ back) c next

theorem many_of_repeats (h : Repeats rule src trees c next) :
    many rule src c = some (trees, next) := by
  have run (fuel : Nat) (enough : src.left c.past ≤ fuel) :
      manyUpTo rule fuel src c = some (trees, next) := by
    induction h generalizing fuel with
    | @stop c failed =>
        cases fuel with
        | zero => rfl
        | succ fuel => simp [manyUpTo, failed]
    | @step front back c middle next read further inside later ih =>
        cases fuel with
        | zero => simp [left] at enough
        | succ fuel =>
            have rest := ih fuel (by simp only [left] at enough ⊢; omega)
            simp [manyUpTo, read, Nat.not_le.mpr further, rest]
  exact run _ (Nat.le_refl _)

end Rule

end CommitLens.Script
