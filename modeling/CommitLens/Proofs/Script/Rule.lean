import CommitLens.Proofs.Script.Source
import CommitLens.Script.Program

/-!
# What rules build

A parent looks up some of its children for their texts.  Which texts these can be is a
condition on every node of a tree, and a rule meets it if the rules that it is made of
do.  Main statement: so does every rule of the grammar, at any depth.
-/

namespace CommitLens.Script

open Text Source

/-! ## Conditions on trees -/

/-- Is a child with this part looked up for its text? -/
def Role.isText : Role → Bool
  | .name | .newName | .source => true
  | _ => false

/-- A name in square brackets, if it is no empty text. -/
def Computed (text : String) : Prop :=
  ∀ first rest, text.toList = first :: rest → first = '['

def ExportName (text : String) : Prop :=
  OneLine text ∨ Quoted text

def MemberName (text : String) : Prop :=
  OneLine text ∨ Quoted text ∨ Computed text

/-- The texts that are looked up in a node. -/
def Kind.Takes : Kind → String → Prop
  | .classDeclaration | .functionDeclaration | .interfaceDeclaration | .enumDeclaration
  | .typeAliasDeclaration => OneLine
  | .exportSpecifier => ExportName
  | .propertySignature | .methodSignature => MemberName
  | .importStatement | .importRequireClause => Quoted
  | _ => fun _ => True

/-- Kinds of nodes about whose texts nothing is said beyond those of their children. -/
def Kind.isInner : Kind → Bool
  | .identifier | .shorthandBinding | .namespaceExport | .broken => false
  | _ => true

/-- Kinds of nodes that may have children with any texts. -/
def Kind.isFree : Kind → Bool
  | .classDeclaration | .functionDeclaration | .interfaceDeclaration | .enumDeclaration
  | .typeAliasDeclaration | .exportSpecifier | .propertySignature | .methodSignature
  | .importStatement | .importRequireClause => false
  | kind => kind.isInner

theorem Kind.isInner_of_isFree {kind : Kind} (h : kind.isFree = true) : kind.isInner = true := by
  cases kind <;> first | rfl | contradiction

theorem Kind.takes_of_isFree {kind : Kind} (h : kind.isFree = true) (text : String) :
    kind.Takes text := by
  cases kind <;> trivial

/-- The condition on one node. -/
structure Tree.Fits (src : Source) (tree : Tree) : Prop where
  whole : tree.kind ≠ .broken
  binding : tree.kind = .identifier ∨ tree.kind = .shorthandBinding → OneLine (src.text tree)
  texts : ∀ child ∈ tree.children, child.role.isText = true → tree.kind.Takes (src.text child)
  /-- The name that everything is exported under. -/
  last : tree.kind = .namespaceExport → ∃ child, tree.children.getLast? = some child ∧
    child.isNamed = true ∧ ExportName (src.text child)

namespace Tree

variable {src : Source} {tree : Tree} {trees : List Tree} {role : Role}

theorem mem_nodesOf : tree ∈ nodesOf trees ↔ ∃ top ∈ trees, tree ∈ top.nodes := by
  induction trees with
  | nil => simp [nodesOf]
  | cons first rest ih => simp [nodesOf, ih]

/-- All nodes of the tree fit. -/
def Good (src : Source) (tree : Tree) : Prop :=
  ∀ inner ∈ tree.nodes, inner.Fits src

theorem good_iff : tree.Good src ↔ tree.Fits src ∧ ∀ child ∈ tree.children, child.Good src := by
  rw [Good, nodes_eq, List.forall_mem_cons]
  simp only [mem_nodesOf]
  constructor
  · rintro ⟨root, below⟩
    exact ⟨root, fun child member inner found => below inner ⟨child, member, found⟩⟩
  · rintro ⟨root, below⟩
    exact ⟨root, fun inner ⟨child, member, found⟩ => below child member inner found⟩

theorem Good.withRole (h : tree.Good src) (role : Role) : (tree.withRole role).Good src := by
  obtain ⟨kind, old, start, stop, children⟩ := tree
  obtain ⟨root, below⟩ := good_iff.mp h
  exact good_iff.mpr ⟨⟨root.whole, root.binding, root.texts, root.last⟩, below⟩

@[simp] theorem role_withRole : (tree.withRole role).role = role := by
  cases tree
  rfl

@[simp] theorem text_withRole : src.text (tree.withRole role) = src.text tree := by
  cases tree
  rfl

theorem good_leaf {kind : Kind} {start stop : Nat} (hl : kind ≠ .namespaceExport)
    (hw : kind ≠ .broken) (h : kind.isInner = false → src.OnOneLine start stop) :
    (leaf kind start stop).Good src := by
  refine good_iff.mpr ⟨⟨hw, fun binds => oneLine_slice (h ?_), ?_, fun he => absurd he hl⟩, ?_⟩
  · rcases binds with rfl | rfl <;> rfl
  · exact fun _ h => nomatch h
  · exact fun _ h => nomatch h

theorem good_node {kind : Kind} (hk : kind.isInner = true) {start stop : Nat}
    (taken : ∀ tree ∈ trees, tree.role.isText = true → kind.Takes (src.text tree))
    (h : ∀ tree ∈ trees, tree.Good src) : (node kind role start stop trees).Good src := by
  refine good_iff.mpr ⟨⟨?_, ?_, taken, ?_⟩, h⟩
  · rintro rfl
    contradiction
  · rintro (rfl | rfl) <;> contradiction
  · rintro rfl
    contradiction

/-- A good tree, with a condition on its text if it is one to look up. -/
structure Part (accepts : String → Prop) (src : Source) (tree : Tree) : Prop where
  good : tree.Good src
  text : tree.role.isText = true → accepts (src.text tree)

end Tree

/-- A rule that builds only such trees. -/
class Rule.Gives (accepts : String → Prop) (rule : Rule) : Prop where
  part : ∀ {src c trees next}, rule src c = some (trees, next) →
    ∀ tree ∈ trees, tree.Part accepts src

/-- A rule whose trees all have such texts. -/
class Rule.Reads (accepts : String → Prop) (rule : Rule) : Prop where
  text : ∀ {src c trees next}, rule src c = some (trees, next) →
    ∀ tree ∈ trees, accepts (src.text tree)

namespace Rule

variable {accepts : String → Prop} {rule : Rule} {rules : List Rule} {src : Source}
  {c next : Cursor} {trees : List Tree}

/-! ## What a rule has read -/

theorem exists_of_all_cons (h : all (rule :: rules) src c = some (trees, next)) :
    ∃ front middle back, rule src c = some (front, middle) ∧
      all rules src middle = some (back, next) ∧ trees = front ++ back := by
  obtain ⟨⟨front, middle⟩, first, h⟩ := Option.bind_eq_some_iff.mp h
  obtain ⟨⟨back, last⟩, rest, h⟩ := Option.bind_eq_some_iff.mp h
  cases h
  exact ⟨front, middle, back, first, rest, rfl⟩

theorem or_of_any_cons (h : any (rule :: rules) src c = some (trees, next)) :
    rule src c = some (trees, next) ∨ any rules src c = some (trees, next) := by
  rw [any] at h
  cases first : rule src c with
  | none => exact .inr (by simpa [first] using h)
  | some read => exact .inl (by simpa [first] using h)

theorem exists_of_node {kind : Kind} (h : node kind rule src c = some (trees, next)) :
    ∃ inner, rule src c = some (inner, next) ∧
      trees = [.node kind .plain c.here next.past inner] := by
  obtain ⟨⟨inner, last⟩, read, h⟩ := Option.bind_eq_some_iff.mp h
  cases h
  exact ⟨inner, read, rfl⟩

theorem exists_of_token {kind : Kind} {read : Source → Nat → Option Nat}
    (h : token kind read src c = some (trees, next)) :
    ∃ stop, read src c.here = some stop ∧ trees = [.leaf kind c.here stop] := by
  obtain ⟨stop, found, h⟩ := Option.bind_eq_some_iff.mp h
  cases h
  exact ⟨stop, found, rfl⟩

theorem exists_of_identifier (h : identifier src c = some (trees, next)) :
    ∃ kind stop, variableName? src c.here = some stop ∧ trees = [.leaf kind c.here stop] ∧
      (kind = .identifier ∨ kind = .word) := by
  obtain ⟨stop, name, h⟩ := Option.bind_eq_some_iff.mp h
  cases h
  refine ⟨_, stop, name, rfl, ?_⟩
  split
  · exact .inr rfl
  · exact .inl rfl

/-! ## Rules made of rules -/

instance gives_fail : Gives accepts fail := ⟨fun h => nomatch h⟩

instance gives_nothing : Gives accepts nothing where
  part h := by
    cases h
    exact fun _ member => nomatch member

instance gives_all_nil : Gives accepts (all []) := gives_nothing

instance gives_all_cons [first : Gives accepts rule] [rest : Gives accepts (all rules)] :
    Gives accepts (all (rule :: rules)) where
  part h tree member := by
    obtain ⟨front, middle, back, hf, hb, rfl⟩ := exists_of_all_cons h
    rcases List.mem_append.mp member with member | member
    · exact first.part hf tree member
    · exact rest.part hb tree member

instance gives_any_nil : Gives accepts (any []) := gives_fail

instance gives_any_cons [first : Gives accepts rule] [rest : Gives accepts (any rules)] :
    Gives accepts (any (rule :: rules)) where
  part h := (or_of_any_cons h).elim first.part rest.part

instance gives_opt [Gives accepts rule] : Gives accepts (opt rule) :=
  inferInstanceAs (Gives accepts (any [rule, nothing]))

instance gives_manyUpTo [each : Gives accepts rule] (fuel : Nat) :
    Gives accepts (manyUpTo rule fuel) := by
  induction fuel with
  | zero => exact gives_nothing
  | succ fuel ih =>
      refine ⟨fun {src c _ _} h tree member => ?_⟩
      rw [manyUpTo] at h
      cases front : rule src c with
      | none =>
          simp only [front] at h
          cases h
          contradiction
      | some read =>
          obtain ⟨trees, next⟩ := read
          simp only [front] at h
          split at h
          · cases h
            contradiction
          · obtain ⟨⟨more, last⟩, back, h⟩ := Option.map_eq_some_iff.mp h
            cases h
            rcases List.mem_append.mp member with member | member
            · exact each.part front tree member
            · exact ih.part back tree member

instance gives_many [Gives accepts rule] : Gives accepts (many rule) :=
  ⟨fun h => (gives_manyUpTo _).part h⟩

instance gives_many1 [Gives accepts rule] : Gives accepts (many1 rule) :=
  inferInstanceAs (Gives accepts (all [rule, many rule]))

instance gives_optionally {first : Rule} [Gives accepts first] [Gives accepts rule] :
    Gives accepts (optionally first rule) :=
  inferInstanceAs (Gives accepts (any [all [first, rule], rule]))

instance gives_sepBy1 {separator : Rule} [Gives accepts separator] [Gives accepts rule] :
    Gives accepts (sepBy1 separator rule) :=
  inferInstanceAs (Gives accepts (all [rule, many (all [separator, rule])]))

instance gives_guard {test : Source → Cursor → Bool} : Gives accepts (guard test) where
  part h := by
    unfold guard at h
    split at h <;> cases h
    exact fun _ member => nomatch member

instance gives_ahead : Gives accepts (ahead rule) := gives_guard

instance gives_notAhead : Gives accepts (notAhead rule) := gives_guard

instance gives_onSameLine : Gives accepts onSameLine := gives_guard

instance gives_typed [Gives accepts rule] : Gives accepts (typed rule) :=
  inferInstanceAs (Gives accepts (all [guard _, rule]))

instance gives_untyped [Gives accepts rule] : Gives accepts (untyped rule) :=
  inferInstanceAs (Gives accepts (all [guard _, rule]))

instance gives_ofKind {kinds : List Kind} [each : Gives accepts rule] :
    Gives accepts (ofKind kinds rule) where
  part h := by
    obtain ⟨⟨trees, next⟩, read, h⟩ := Option.bind_eq_some_iff.mp h
    dsimp only at h
    split at h
    · cases h
      exact each.part read
    · contradiction

instance gives_modified {keywords : List String} [Gives accepts (words keywords)]
    [Gives accepts rule] (fuel : Nat) : Gives accepts (modified keywords rule fuel) := by
  induction fuel with
  | zero => assumption
  | succ fuel ih =>
      exact inferInstanceAs
        (Gives accepts (any [all [words keywords, modified keywords rule fuel], rule]))

/-! ## Nodes -/

/-- A node fits if its children do and have the texts that it takes. -/
theorem Gives.nodeTaking {kind : Kind} (hk : kind.isInner = true)
    [inside : Gives kind.Takes rule] : Gives accepts (node kind rule) where
  part h tree member := by
    obtain ⟨inner, read, rfl⟩ := exists_of_node h
    obtain rfl := List.mem_singleton.mp member
    exact ⟨Tree.good_node hk (fun child hc => (inside.part read child hc).text)
      fun child hc => (inside.part read child hc).good, fun h => nomatch h⟩

/-- Good trees, whatever texts they have. -/
abbrev Sound (rule : Rule) : Prop := Gives (fun _ => True) rule

theorem Gives.node {kind : Kind} (hk : kind.isFree = true) [inside : rule.Sound] :
    Gives accepts (node kind rule) := by
  have : Gives kind.Takes rule := ⟨fun read tree member =>
    ⟨(inside.part read tree member).good, fun _ => kind.takes_of_isFree hk _⟩⟩
  exact .nodeTaking (kind.isInner_of_isFree hk)

theorem Gives.group {kind : Kind} (hk : kind.isFree = true) [inside : Gives accepts rule] :
    Gives accepts (group kind rule) where
  part {src c built last} h := by
    obtain ⟨⟨trees, next⟩, read, h⟩ := Option.bind_eq_some_iff.mp h
    dsimp only at h
    split at h
    · cases h
      exact inside.part read
    · have whole : Rule.node kind rule src c = some (built, last) :=
        Option.bind_eq_some_iff.mpr ⟨(trees, next), read, h⟩
      have sound : rule.Sound := ⟨fun read tree member =>
        ⟨(inside.part read tree member).good, fun _ => trivial⟩⟩
      exact (Gives.node hk).part whole

instance gives_node_pattern [rule.Sound] : Gives accepts (Rule.node .pattern rule) := .node rfl

instance gives_node_otherMember [rule.Sound] : Gives accepts (Rule.node .otherMember rule) :=
  .node rfl

instance gives_node_otherExpression [rule.Sound] :
    Gives accepts (Rule.node .otherExpression rule) :=
  .node rfl

instance gives_node_word [rule.Sound] : Gives accepts (Rule.node .word rule) := .node rfl

instance gives_group_pattern [Gives accepts rule] : Gives accepts (Rule.group .pattern rule) :=
  .group rfl

instance gives_group_type [Gives accepts rule] : Gives accepts (Rule.group .type rule) :=
  .group rfl

instance gives_group_expression [Gives accepts rule] :
    Gives accepts (Rule.group .otherExpression rule) :=
  .group rfl

instance gives_group_member [Gives accepts rule] : Gives accepts (Rule.group .member rule) :=
  .group rfl

/-! ## Parts in a parent -/

/-- A part that is looked up has the text that the rule reads. -/
theorem Gives.role {role : Role} [inside : rule.Sound]
    (h : role.isText = true → rule.Reads accepts) : Gives accepts (rule.role role) where
  part read tree member := by
    obtain ⟨⟨trees, next⟩, found, same⟩ := Option.map_eq_some_iff.mp read
    cases same
    obtain ⟨before, hb, rfl⟩ := List.mem_map.mp member
    refine ⟨(inside.part found before hb).good.withRole role, fun hr => ?_⟩
    rw [Tree.role_withRole] at hr
    rw [Tree.text_withRole]
    exact (h hr).text found before hb

instance gives_role_body [rule.Sound] : Gives accepts (rule.role .body) :=
  .role fun h => nomatch h

instance gives_role_declaration [rule.Sound] : Gives accepts (rule.role .declaration) :=
  .role fun h => nomatch h

instance gives_role_left [rule.Sound] : Gives accepts (rule.role .left) :=
  .role fun h => nomatch h

instance gives_role_value [rule.Sound] : Gives accepts (rule.role .value) :=
  .role fun h => nomatch h

instance gives_role_text {role : Role} [rule.Sound] [rule.Reads accepts] :
    Gives accepts (rule.role role) :=
  .role fun _ => inferInstance

instance reads_true : rule.Reads fun _ => True := ⟨fun _ _ _ => trivial⟩

/-! ## Trees that grow to the right -/

/-- Each step puts what was read so far under a node of a kind that takes any texts. -/
theorem Gives.extend {first : Rule} {tails : List (Kind × Rule)} [begun : Gives accepts first]
    (h : ∀ entry ∈ tails, entry.1.isFree = true ∧ entry.2.Sound) :
    Gives accepts (extend first tails) where
  part {src c built last} read := by
    obtain ⟨⟨trees, next⟩, found, read⟩ := Option.bind_eq_some_iff.mp read
    dsimp only at read
    have start := begun.part found
    generalize src.left next.past = fuel at read
    clear found
    induction fuel generalizing trees next with
    | zero =>
        cases read
        exact start
    | succ fuel ih =>
        rw [extendUpTo] at read
        dsimp only at read
        split at read
        · cases read
          exact start
        · rename_i kind more after tail
          obtain ⟨⟨_, rule⟩, member, same⟩ := List.exists_of_findSome?_eq_some tail
          obtain ⟨⟨_, _⟩, found, same⟩ := Option.map_eq_some_iff.mp same
          cases same
          obtain ⟨hk, inside⟩ := h _ member
          refine ih _ _ (fun tree added => ?_) read
          obtain rfl := List.mem_singleton.mp added
          refine ⟨Tree.good_node (Kind.isInner_of_isFree hk)
            (fun _ _ _ => Kind.takes_of_isFree hk _) fun tree added => ?_, fun h => nomatch h⟩
          rcases List.mem_append.mp added with added | added
          · exact (start tree added).good
          · exact (inside.part found tree added).good

/-! ## Tokens -/

theorem Gives.token {kind : Kind} {read : Source → Nat → Option Nat}
    (hl : kind ≠ .namespaceExport) (hw : kind ≠ .broken)
    (h : kind.isInner = false → ∀ {src i stop}, read src i = some stop → src.OnOneLine i stop) :
    Gives accepts (token kind read) where
  part built tree member := by
    obtain ⟨stop, found, rfl⟩ := exists_of_token built
    obtain rfl := List.mem_singleton.mp member
    exact ⟨Tree.good_leaf hl hw fun binds => h binds found, fun h => nomatch h⟩

instance gives_token_mark {read : Source → Nat → Option Nat} :
    Gives accepts (token .mark read) :=
  .token (by decide) (by decide) fun h => nomatch h

instance gives_token_word {read : Source → Nat → Option Nat} :
    Gives accepts (token .word read) :=
  .token (by decide) (by decide) fun h => nomatch h

theorem Gives.tokenAtOnce {kind : Kind} {read : Source → Nat → Option Nat}
    (hk : kind.isFree = true) : Gives accepts (tokenAtOnce kind read) where
  part built := by
    obtain ⟨stop, found, same⟩ := Option.bind_eq_some_iff.mp built
    cases same
    intro tree member
    obtain rfl := List.mem_singleton.mp member
    refine ⟨Tree.good_node (kind.isInner_of_isFree hk) ?_ ?_, fun h => nomatch h⟩
    · exact fun _ h => nomatch h
    · exact fun _ h => nomatch h

instance gives_tokenAtOnce_mark {read : Source → Nat → Option Nat} :
    Gives accepts (tokenAtOnce .mark read) :=
  .tokenAtOnce rfl

instance gives_tokenAtOnce_word {read : Source → Nat → Option Nat} :
    Gives accepts (tokenAtOnce .word read) :=
  .tokenAtOnce rfl

instance gives_mark {text : String} : Gives accepts (mark text) := gives_token_mark

instance gives_markNot {text after : String} : Gives accepts (markNot text after) :=
  gives_token_mark

instance gives_equalsMark : Gives accepts equalsMark := gives_markNot

instance gives_word {text : String} : Gives accepts (word text) := gives_token_mark

instance gives_words {texts : List String} : Gives accepts (words texts) := by
  unfold words
  induction texts with
  | nil => exact gives_any_nil
  | cons text texts ih => exact gives_any_cons

instance gives_anyName : Gives accepts anyName := gives_token_word

instance gives_typeName : Gives accepts typeName := gives_token_word

instance gives_privateName : Gives accepts privateName := gives_token_word

instance gives_string : Gives accepts string := gives_token_word

instance gives_number : Gives accepts number := gives_token_word

instance gives_comma : Gives accepts comma := gives_mark

instance gives_semicolon {afterExpression : Bool} : Gives accepts (semicolon afterExpression) :=
  inferInstanceAs (Gives accepts (any [_, guard _]))

instance gives_listed {opening closing : String} [Gives accepts rule] :
    Gives accepts (listed opening rule closing) :=
  inferInstanceAs (Gives accepts (all [mark _, opt (sepBy1 comma rule), opt comma, mark _]))

instance gives_listedWithHoles {opening closing : String} [Gives accepts rule] :
    Gives accepts (listedWithHoles opening rule closing) :=
  inferInstanceAs
    (Gives accepts (all [mark _, opt rule, many (all [comma, opt rule]), mark _]))

/-! ## Names -/

theorem onOneLine_variableName? {i stop : Nat}
    (h : variableName? src i = some stop) : src.OnOneLine i stop := by
  obtain ⟨past, name, h⟩ := Option.bind_eq_some_iff.mp h
  split at h
  · contradiction
  · cases h
    exact onOneLine_name? name

theorem Reads.token {kind : Kind} {read : Source → Nat → Option Nat}
    (h : ∀ {src i stop}, read src i = some stop → accepts (src.slice i stop)) :
    Reads accepts (token kind read) where
  text built tree member := by
    obtain ⟨stop, found, rfl⟩ := exists_of_token built
    obtain rfl := List.mem_singleton.mp member
    exact h found

instance reads_anyName : Reads OneLine anyName :=
  .token fun h => oneLine_slice (onOneLine_name? h)

instance reads_typeName : Reads OneLine typeName :=
  .token fun h => oneLine_slice (onOneLine_variableName? h)

instance reads_privateName : Reads OneLine privateName := by
  refine .token fun {src i stop} h => oneLine_slice ?_
  split at h
  · rename_i mark
    exact .cons (char_ne_of_beq (by decide) mark) (onOneLine_name? h)
  · contradiction

instance reads_number : Reads OneLine number :=
  .token fun h => oneLine_slice (onOneLine_number? h)

instance reads_string : Reads Quoted string := .token quoted_string?

instance gives_identifier : Gives accepts identifier where
  part built tree member := by
    obtain ⟨kind, stop, name, rfl, hk⟩ := exists_of_identifier built
    obtain rfl := List.mem_singleton.mp member
    refine ⟨Tree.good_leaf ?_ ?_ fun _ => onOneLine_variableName? name, fun h => nomatch h⟩
    · rcases hk with rfl | rfl <;> decide
    · rcases hk with rfl | rfl <;> decide

instance reads_identifier : Reads OneLine identifier where
  text built tree member := by
    obtain ⟨kind, stop, name, rfl, -⟩ := exists_of_identifier built
    obtain rfl := List.mem_singleton.mp member
    exact oneLine_slice (onOneLine_variableName? name)

instance gives_shorthandBinding : Gives accepts (token .shorthandBinding variableName?) :=
  .token (by decide) (by decide) fun _ => onOneLine_variableName?

instance reads_any_nil : Reads accepts (any []) := ⟨fun h => nomatch h⟩

instance reads_any_cons [first : Reads accepts rule] [rest : Reads accepts (any rules)] :
    Reads accepts (any (rule :: rules)) where
  text h := (or_of_any_cons h).elim first.text rest.text

theorem Reads.mono {others : String → Prop} (h : Reads accepts rule)
    (implied : ∀ text, accepts text → others text) : Reads others rule :=
  ⟨fun built tree member => implied _ (h.text built tree member)⟩

end Rule

end CommitLens.Script
