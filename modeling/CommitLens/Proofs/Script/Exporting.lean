import CommitLens.Proofs.Script.Declaring

/-!
# Exports of declarations and values

A declaration behind the keyword `export`, a default export, and an assignment to what a
module exports.  Main statement: the grammar reads each of them where it stands, and its
exchange is the names that are bound, the word `default`, or the name at the end of the target.
-/

namespace CommitLens.Script

open Source Script.Rule

variable {src : Source} {c middle next : Cursor} {text : String} {names : List String}
  {g : Grammar}

/-! ## Exports with a keyword behind `export` -/

/-- What may stand behind the words `export default`. -/
def exportedValue (g : Grammar) : Rule :=
  any [role .declaration (declaration openingWord g), all [g.expression, semicolon true]]

/-- The last form of an export is read if a name other than those of the first forms follows. -/
theorem exportStatement_of_name {after : Cursor} {trees : List Tree}
    (keyword : NameAt src "export" c middle) (opening : NameAt src text middle after)
    (other : text ∉ ["import", "as"]) (type : text = "type" → Clear ['\x7b'] src after.here)
    (read : any [all [word "default", exportedValue g], role .declaration (declaration word g)]
      src middle = some (trees, next)) :
    exportStatement g src c = some ([.node .exportStatement .plain c.here next.past
      (.leaf .mark c.here (c.here + "export".length) :: trees)], next) := by
  rw [List.mem_pair, not_or] at other
  have export_ := keyword.word_self (by decide)
  have clear : Clear ['*', '\x7b', '='] src middle.here := opening.clear (by decide)
  have star : mark "*" src middle = none := clear.mark (m := '*') rfl (by decide)
  have list : optionally (typed (word "type")) exportClause src middle = none := by
    have here : exportClause src middle = none :=
      node_of_none (listed_of_none (clear.mark (m := '\x7b') rfl (by decide)))
    have behind : all [typed (word "type"), exportClause] src middle = none := by
      by_cases same : text = "type"
      · obtain rfl := same
        cases types : src.dialect.hasTypes with
        | false => exact all_of_none (typed_of_untyped types)
        | true =>
            have braces : mark "\x7b" src after = none := (type rfl).mark rfl (by decide)
            exact all_of_read_none (typed_of_read types (opening.word_self (by decide)))
              (all_of_none (node_of_none (listed_of_none braces)))
      · exact all_of_none (typed_of_none (opening.word_of_ne (by decide) (Ne.symm same)))
    exact (any_of_none behind).trans ((any_of_none here).trans any_nil)
  have alias_ : importAlias src middle = none :=
    node_of_none (all_of_none (opening.word_of_ne (by decide) (Ne.symm other.1)))
  have equals : equalsMark src middle = none := clear.equalsMark (by decide)
  have as_ : word "as" src middle = none := opening.word_of_ne (by decide) (Ne.symm other.2)
  have last : all [many (decorator g), word "export",
      any [all [word "default", exportedValue g], role .declaration (declaration word g)]] src c =
        some (_, next) :=
    (all_many_of_none (decorators_of_name keyword g)).trans
      (all_of_read export_ (all_of_read read all_nil))
  have statement : exportStatement g src c = some (_, next) := node_of_read
    ((any_of_none (all_of_read_none export_ (all_of_none (node_of_none (all_of_none star))))).trans
    ((any_of_none (all_of_read_none export_ (all_of_none star))).trans
    ((any_of_none (all_of_read_none export_ (all_of_none list))).trans
    ((any_of_none (typed_of_none (all_of_read_none export_ (all_of_none alias_)))).trans
    ((any_of_none (typed_of_none (all_of_read_none export_ (all_of_none equals)))).trans
    ((any_of_none (typed_of_none (all_of_read_none export_ (all_of_none as_)))).trans
      (any_of_read last)))))))
  simpa using statement

theorem declare_withRole (part : Role) (tree : Tree) :
    declare src (tree.withRole part) = declare src tree := by
  by_cases ha : tree.kind = .ambientDeclaration
  · obtain ⟨kind, role, start, stop, children⟩ := tree
    obtain rfl : kind = .ambientDeclaration := ha
    rw [Tree.withRole, declare, declare]
  · by_cases hv : tree.kind = .variableDeclaration
    · rw [declare_of_variables hv, declare_of_variables (by simpa using hv)]
      cases tree
      rfl
    · rw [declare_of_named ha hv, declare_of_named (by simpa using ha) (by simpa using hv)]
      cases tree
      rfl

/-- An exported declaration is read, and gives the names that it binds. -/
theorem reads_exportDeclaration {depth : Nat} (keyword : NameAt src "export" c middle)
    (declared : DeclarationAt (.ofDepth depth) src names middle next)
    (enough : src.chars.size ≤ depth) :
    ∃ tree, exportStatement (.ofDepth depth) src c = some ([tree], next) ∧
      tree.kind = .exportStatement ∧ (exportOf src tree).exchange = { exports := names } := by
  obtain ⟨text, after, opening, known, type⟩ := declared.opens
  obtain ⟨tree, read, named, bound⟩ := declared.reads enough
  have other := (by decide : ∀ word ∈ declaringWords, word ∉ ["import", "as"] ∧ word ≠ "default")
    text known
  have default : all [word "default", exportedValue (.ofDepth depth)] src middle = none :=
    all_of_none (opening.word_of_ne (by decide) (Ne.symm other.2))
  have choice : any [all [word "default", exportedValue (.ofDepth depth)],
      role .declaration (declaration word (.ofDepth depth))] src middle = some (_, next) :=
    (any_of_none default).trans (any_of_read (role_of_read (any_of_read read)))
  refine ⟨_, exportStatement_of_name keyword opening other.1 type choice, rfl, ?_⟩
  have kind : tree.kind ≠ .mark := by simpa [Tree.isNamed] using named
  simp [exportOf, Tree.child?, hasMark, slice_of_has keyword.has, kind, Surface.exchange_append,
    exchange_declare, declare_withRole, bound]
  rfl

theorem reads_exportDefault {value : Cursor} (keyword : NameAt src "export" c middle)
    (default : NameAt src "default" middle value)
    (stands : Stands (exportedValue g) src value next) :
    ∃ tree, exportStatement g src c = some ([tree], next) ∧
      tree.kind = .exportStatement ∧ (exportOf src tree).exchange = { exports := ["default"] } := by
  obtain ⟨trees, read⟩ := stands.read
  have choice : any [all [word "default", exportedValue g], role .declaration (declaration word g)]
      src middle = some (_, next) :=
    any_of_read (all_of_read (default.word_self (by decide)) (all_of_read read all_nil))
  refine ⟨_, exportStatement_of_name keyword default (by decide) (by simp) choice, rfl, ?_⟩
  have marked : hasMark src (.node .exportStatement .plain c.here next.past
      (.leaf .mark c.here (c.here + "export".length) ::
        ([.leaf .mark middle.here (middle.here + "default".length)] ++ (trees ++ [])))) "default" =
          true := by
    simp [hasMark, slice_of_has default.has]
  unfold exportOf
  rw [marked]
  split
  · rw [Surface.exchange_append, exchange_declare]
    rfl
  · rfl

end CommitLens.Script
