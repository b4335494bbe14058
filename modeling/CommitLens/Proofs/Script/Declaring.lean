import CommitLens.Proofs.Script.Clauses

/-!
# Declarations that are exported

A declaration stands behind the keyword `export`: of variables and patterns, of a function or
a class, and in the languages with types of an interface, an enumeration or an alias.  What is
inside of values, types and bodies does not matter.  Main statement: the grammar reads the
declaration where it stands, and the names that it binds are the ones that stand there.
-/

namespace CommitLens.Script

open Source Script.Rule

variable {src : Source} {c middle next : Cursor} {text : String} {names : List String}
  {g : Grammar}

/-! ## Variables -/

/-- A variable or a pattern stands at a cursor, maybe with a type and a value. -/
inductive DeclaratorAt (g : Grammar) (src : Source) : List String → Cursor → Cursor → Prop
  | target {names : List String} {c type value next : Cursor}
      (target : BindsAt src .target names c type)
      (typing : value = type ∨ src.dialect.hasTypes = true ∧ Stands (typeMark g) src type value)
      (initial : next = value ∨ Stands (initializer g) src value next) :
      DeclaratorAt g src names c next

/-- Declarators with commas between them stand up to the end of a statement. -/
inductive DeclaratorsAt (g : Grammar) (src : Source) : List String → Cursor → Cursor → Prop
  | last {names : List String} {c close next : Cursor} (last : DeclaratorAt g src names c close)
      (ends : EndsAt src close next) : DeclaratorsAt g src names c next
  | more {names others : List String} {c comma place next : Cursor}
      (first : DeclaratorAt g src names c comma) (mark : MarkAt src "," comma place)
      (more : DeclaratorsAt g src others place next) : DeclaratorsAt g src (names ++ others) c next

theorem next?_of_typeMark (h : Stands (typeMark g) src c next) : src.next? c.here = some ':' := by
  obtain ⟨trees, read⟩ := h.read
  obtain ⟨_, _, _, colon, -⟩ := exists_of_all_cons read
  exact next?_of_has (by decide) (has_of_mark colon)

theorem next?_of_initializer (h : Stands (initializer g) src c next) :
    src.next? c.here = some '=' := by
  obtain ⟨trees, read⟩ := h.read
  obtain ⟨_, _, _, equals, -⟩ := exists_of_all_cons read
  exact next?_of_equalsMark equals

/-- The marks that read on behind a declarator. -/
def declaratorMarks : List Char :=
  ['!', ':', '=']

theorem boundNames_withRole {tree : Tree} (part : Role) :
    boundNames src (tree.withRole part) = boundNames src tree := by
  cases tree
  rw [boundNames_eq, boundNames_eq]
  rfl

/-- The names that are bound by a declarator in a tree. -/
def declaratorNames (src : Source) (tree : Tree) : List String :=
  (tree.child? .name).elim [] (boundNames src)

/-- What follows the target of a declarator is read. -/
theorem reads_typing {type value : Cursor}
    (typing : value = type ∨ src.dialect.hasTypes = true ∧ Stands (typeMark g) src type value)
    (initial : next = value ∨ Stands (initializer g) src value next)
    (ends : Clear declaratorMarks src next.here) :
    Clear ['!'] src type.here ∧ ∃ front back,
      opt (typed (typeMark g)) src type = some (front, value) ∧
      opt (initializer g) src value = some (back, next) := by
  have behind : Clear ['!', ':'] src value.here := by
    rcases initial with rfl | initial
    · exact ends.mono (by decide)
    · exact .of_next (next?_of_initializer initial) (by decide)
  obtain ⟨back, valued⟩ : ∃ back, opt (initializer g) src value = some (back, next) := by
    rcases initial with rfl | initial
    · exact ⟨[], opt_of_none (all_of_none (ends.equalsMark (by decide)))⟩
    · obtain ⟨trees, read⟩ := initial.read
      exact ⟨trees, opt_of_read read⟩
  rcases typing with rfl | ⟨types, typing⟩
  · have none : typed (typeMark g) src value = none :=
      typed_of_none (all_of_none (behind.mark (m := ':') rfl (by decide)))
    exact ⟨behind.mono (by decide), [], back, opt_of_none none, valued⟩
  · obtain ⟨trees, read⟩ := typing.read
    exact ⟨.of_next (next?_of_typeMark typing) (by decide), trees, back,
      opt_of_read (typed_of_read types read), valued⟩

/-- The target of a declarator is read, and no mark of certainty behind it. -/
theorem reads_target {depth : Nat} (h : BindsAt src .target names c next)
    (enough : src.chars.size ≤ depth) (ordered : c.past ≤ c.here)
    (ends : Clear ['!'] src next.here) (type : Rule) :
    typed (all [role .name identifier, mark "!", type]) src c = none ∧
      ∃ tree, any [destructuring (.ofDepth depth), identifier] src c = some ([tree], next) ∧
        boundNames src tree = names := by
  cases h with
  | single name =>
      refine ⟨typed_of_none (all_of_read_none (role_of_read name.identifier)
        (all_of_none (ends.mark rfl (by decide)))), _, ?_, boundNames_variable name⟩
      exact (any_of_none (destructuring_of_clear _ (name.clear (by decide)))).trans
        (any_of_read name.identifier)
  | nested pattern =>
      obtain ⟨tree, read, bound⟩ := pattern.destructuring ordered enough
      refine ⟨typed_of_none (all_of_none (role_of_none ?_)), tree, any_of_read read, bound⟩
      cases pattern with
      | @pattern bracket _ _ _ _ _ opening _ _ =>
          have hn := opening.next?_eq bracket.opening_ne
          have name : name? src c.here = none := by
            cases bracket with
            | braces => exact name?_eq_none hn (.inr (by decide))
            | squares => exact name?_eq_none hn (.inr (by decide))
          simp [identifier, variableName?, name]

theorem DeclaratorAt.onward (h : DeclaratorAt g src names c next) : Onward c next := by
  cases h with
  | target target typing initial =>
      rename_i type value
      have begun : Onward c type := target.reaches
      have further : Onward c value := by
        rcases typing with rfl | ⟨-, typing⟩
        · exact begun
        · exact begun.trans typing.onward
      rcases initial with rfl | initial
      · exact further
      · exact further.trans initial.onward

theorem DeclaratorAt.reads {depth : Nat} (h : DeclaratorAt (.ofDepth depth) src names c next)
    (enough : src.chars.size ≤ depth) (ordered : c.past ≤ c.here)
    (ends : Clear declaratorMarks src next.here) :
    ∃ tree, declarator (.ofDepth depth) src c = some ([tree], next) ∧
      tree.kind = .variableDeclarator ∧ declaratorNames src tree = names := by
  cases h with
  | target target typing initial =>
      obtain ⟨clear, front, back, typed_, valued⟩ := reads_typing typing initial ends
      obtain ⟨certain, tree, read, rfl⟩ :=
        reads_target target enough ordered clear (typeMark (.ofDepth depth))
      have declared : declarator (.ofDepth depth) src c = some (_, next) :=
        node_of_read ((any_of_none certain).trans (any_of_read (all_of_read (role_of_read read)
          (all_of_read typed_ (all_of_read valued all_nil)))))
      refine ⟨_, declared, rfl, ?_⟩
      simp [declaratorNames, Tree.child?, boundNames_withRole]

/-- The names that are bound by the declarators among some trees. -/
def declaredNames (src : Source) (trees : List Tree) : List String :=
  ((trees.filter Tree.isNamed).filter fun tree => tree.kind == .variableDeclarator).flatMap
    (declaratorNames src)

theorem declaredNames_append (a b : List Tree) :
    declaredNames src (a ++ b) = declaredNames src a ++ declaredNames src b := by
  simp [declaredNames]

theorem declaredNames_of_spells {trees : List Tree} (h : ∀ tree ∈ trees, tree.Spells src text) :
    declaredNames src trees = [] := by
  have named : trees.filter Tree.isNamed = [] := by
    refine List.filter_eq_nil_iff.mpr fun tree member => ?_
    simp [Tree.isNamed, (h tree member).kind]
  simp [declaredNames, named]

theorem declaredNames_one {tree : Tree} (hk : tree.kind = .variableDeclarator) :
    declaredNames src [tree] = declaratorNames src tree := by
  simp [declaredNames, Tree.isNamed, hk]

/-- The first declarator is read, the others by a repetition. -/
theorem DeclaratorsAt.reads {depth : Nat} (h : DeclaratorsAt (.ofDepth depth) src names c next)
    (enough : src.chars.size ≤ depth) (ordered : c.past ≤ c.here) :
    ∃ trees close, sepBy1 comma (declarator (.ofDepth depth)) src c = some (trees, close) ∧
      EndsAt src close next ∧ declaredNames src trees = names := by
  suffices step : ∃ tree middle trees close,
      declarator (.ofDepth depth) src c = some ([tree], middle) ∧ Onward c middle ∧
      Repeats (all [comma, declarator (.ofDepth depth)]) src trees middle close ∧
      EndsAt src close next ∧ declaredNames src (tree :: trees) = names by
    obtain ⟨tree, middle, trees, close, first, -, later, ends, rfl⟩ := step
    have list : sepBy1 comma (declarator (.ofDepth depth)) src c = some (_, close) :=
      all_of_read first (all_of_read (many_of_repeats later) all_nil)
    exact ⟨_, close, list, ends, by simp⟩
  induction h with
  | @last names c close next declarator ends =>
      obtain ⟨tree, read, kind, rfl⟩ := declarator.reads enough ordered (ends.clear (by decide))
      have clear : Clear [','] src close.here := ends.clear (by decide)
      have comma : comma src close = none := clear.mark rfl (by decide)
      exact ⟨tree, close, [], close, read, declarator.onward, .stop (all_of_none comma), ends,
        declaredNames_one kind⟩
  | @more names others c comma place next declarator mark _ ih =>
      have marked : Onward comma place := mark.onward (by decide)
      have clear : Clear declaratorMarks src comma.here :=
        .of_next (mark.next?_eq (by decide)) (by decide)
      obtain ⟨tree, read, kind, rfl⟩ := declarator.reads enough ordered clear
      obtain ⟨second, middle, trees, close, first, reach, later, ends, rfl⟩ := ih marked.past_le
      have inside : comma.here < src.chars.size := le_size_of_has (by decide) mark.has
      have further := declarator.onward.past_le
      have behind := (marked.trans reach).here_lt
      have longer :
          Repeats (all [Rule.comma, Script.declarator (.ofDepth depth)]) src _ comma close :=
        .step (all_of_read mark.mark (all_of_read first all_nil)) (by omega) (by omega) later
      refine ⟨tree, comma, _, close, read, declarator.onward, longer, ends, ?_⟩
      rw [← List.singleton_append, declaredNames_append, declaredNames_one kind]
      rfl

/-! ## Declarations -/

/-- What stands behind the name of a function. -/
def functionRest (g : Grammar) : Rule :=
  all [callSignature g, any [role .body (block g),
    typed (all [notAhead (mark "\x7b"), semicolon false])]]

/-- What stands behind the name of an interface. -/
def interfaceRest (g : Grammar) : Rule :=
  all [opt (typeParameters g), opt (all [word "extends", sepBy1 comma g.type]),
    role .body (node .interfaceBody (typeMembers g))]

/-- What stands behind the name of an enumeration. -/
def enumRest (g : Grammar) : Rule :=
  all [mark "\x7b", opt (all [sepBy1 comma (enumItem g), opt comma]), mark "\x7d"]

/-- What stands behind the name of an alias. -/
def aliasRest (g : Grammar) : Rule :=
  all [opt (typeParameters g), equalsMark, g.type, semicolon false]

/-- A declaration stands at a cursor and binds names. -/
inductive DeclarationAt (g : Grammar) (src : Source) : List String → Cursor → Cursor → Prop
  | ofVariables {keyword : String} {names : List String} {c first next : Cursor}
      (known : keyword ∈ ["const", "let", "var"]) (opening : NameAt src keyword c first)
      (declarators : DeclaratorsAt g src names first next) : DeclarationAt g src names c next
  | ofFunction {name : String} {c opening star place rest next : Cursor}
      (async : opening = c ∨ NameAt src "async" c opening ∧ opening.breaksLine src = false)
      (keyword : NameAt src "function" opening star)
      (generator : place = star ∨ MarkAt src "*" star place)
      (stands : VariableAt src name place rest) (rest : Stands (functionRest g) src rest next) :
      DeclarationAt g src [name] c next
  | ofClass {name : String} {c opening place rest next : Cursor}
      (abstract : opening = c ∨ src.dialect.hasTypes = true ∧ NameAt src "abstract" c opening)
      (keyword : NameAt src "class" opening place) (stands : VariableAt src name place rest)
      (rest : Stands (classRest g) src rest next) : DeclarationAt g src [name] c next
  | ofInterface {name : String} {c place rest next : Cursor} (types : src.dialect.hasTypes = true)
      (keyword : NameAt src "interface" c place) (stands : VariableAt src name place rest)
      (rest : Stands (interfaceRest g) src rest next) : DeclarationAt g src [name] c next
  | ofEnum {name : String} {c opening place rest next : Cursor}
      (types : src.dialect.hasTypes = true)
      (const : opening = c ∨ NameAt src "const" c opening ∧ place.breaksLine src = false)
      (keyword : NameAt src "enum" opening place) (stands : VariableAt src name place rest)
      (rest : Stands (enumRest g) src rest next) : DeclarationAt g src [name] c next
  | ofAlias {name : String} {c place rest next : Cursor} (types : src.dialect.hasTypes = true)
      (keyword : NameAt src "type" c place) (stands : VariableAt src name place rest)
      (rest : Stands (aliasRest g) src rest next) : DeclarationAt g src [name] c next

/-! ## Declarations of other kinds -/

theorem afterDeclarators_of_none {rule : Rule} (h : rule src c = none) :
    afterDeclarators rule src c = none := by
  simp [afterDeclarators, h]

section Others

variable (h : NameAt src text c next)

include h

theorem decorators_of_name (g : Grammar) : decorator g src c = none := by
  have clear : Clear ['@'] src c.here := h.clear (by decide)
  exact node_of_none (all_of_none (clear.mark rfl (by decide)))

theorem function_of_name (g : Grammar) (other : text ∉ ["async", "function"]) :
    functionDeclaration g src c = none := by
  rw [List.mem_pair, not_or] at other
  have async : word "async" src c = none := h.word_of_ne (by decide) (Ne.symm other.1)
  have function : word "function" src c = none := h.word_of_ne (by decide) (Ne.symm other.2)
  refine node_of_none (all_of_none (all_of_none ?_))
  exact (optionally_of_none (all_of_none async)).trans function

theorem class_of_name (g : Grammar) (other : text ∉ ["abstract", "class"]) :
    classDeclaration g src c = none := by
  rw [List.mem_pair, not_or] at other
  have abstract : word "abstract" src c = none := h.word_of_ne (by decide) (Ne.symm other.1)
  have class_ : word "class" src c = none := h.word_of_ne (by decide) (Ne.symm other.2)
  refine node_of_none ((all_many_of_none (decorators_of_name h g)).trans ?_)
  exact (all_opt_of_none (typed_of_none abstract)).trans (all_of_none class_)

theorem lexical_of_name (g : Grammar) (opening : String → Rule) (free : opening "let" src c = none)
    (other : text ≠ "const") : lexicalDeclaration opening g src c = none := by
  have const : word "const" src c = none := h.word_of_ne (by decide) (Ne.symm other)
  refine node_of_none (afterDeclarators_of_none (all_of_none ?_))
  rw [any_of_none const, any_of_none free, any_nil]

theorem variable_of_name (g : Grammar) (other : text ≠ "var") :
    variableDeclaration g src c = none :=
  node_of_none (afterDeclarators_of_none
    (all_of_none (h.word_of_ne (by decide) (Ne.symm other))))

theorem enum_of_name (g : Grammar) (other : text ∉ ["const", "enum"]) :
    enumDeclaration g src c = none := by
  rw [List.mem_pair, not_or] at other
  have const : word "const" src c = none := h.word_of_ne (by decide) (Ne.symm other.1)
  exact node_of_none ((all_opt_of_none const).trans
    (all_of_none (h.word_of_ne (by decide) (Ne.symm other.2))))

theorem interface_of_name (g : Grammar) (other : text ≠ "interface") :
    interfaceDeclaration g src c = none :=
  node_of_none (all_of_none (h.word_of_ne (by decide) (Ne.symm other)))

end Others

/-! ## Names of declarations -/

/-- Kinds of declarations that bind one name. -/
def namingKinds : List Kind :=
  [.classDeclaration, .interfaceDeclaration, .functionDeclaration, .enumDeclaration,
    .typeAliasDeclaration]

/-- A declaration with a name binds it. -/
theorem names_declare_of_text {tree : Tree} (known : tree.kind ∈ namingKinds)
    (found : textOf src (tree.child? .name) = text) (some : text ≠ "") :
    (declare src tree).names = [text] := by
  have other : tree.kind ≠ .ambientDeclaration ∧ tree.kind ≠ .variableDeclaration := by
    constructor
    · intro same
      rw [same] at known
      contradiction
    · intro same
      rw [same] at known
      contradiction
  rw [declare_of_named other.1 other.2, declareNamed]
  simp only [found, String.isEmpty_iff, some, if_false]
  simp only [namingKinds, List.mem_cons, List.not_mem_nil, or_false] at known
  rcases known with same | same | same | same | same <;> rw [same]

/-- The name is the first child that is more than a keyword. -/
theorem textOf_name {tree : Tree} {kind : Kind} {i : Nat} {front back : List Tree}
    (children : tree.children =
      front ++ (Tree.leaf kind i (i + text.length)).withRole .name :: back)
    (plain : ∀ tree ∈ front, tree.role = .plain) (has : src.has i text = true) :
    textOf src (tree.child? .name) = text := by
  have none : front.find? (fun tree => tree.role == .name) = Option.none := by
    refine List.find?_eq_none.mpr fun tree member => ?_
    simp [plain tree member]
  simp [Tree.child?, children, List.find?_append, none, textOf, slice_of_has has]

/-! ## Reading -/

theorem VariableAt.typeName (h : VariableAt src text c next) :
    Rule.typeName src c = some ([.leaf .word c.here (c.here + text.length)], next) := by
  simp [Rule.typeName, token, h.variableName? h.free, h.next_eq]

/-- A keyword that may stand in front is read, or nothing. -/
theorem reads_opt {rule : Rule} (h : next = c ∧ rule src c = none ∨
      ∃ tree, rule src c = some ([tree], next) ∧ tree.role = .plain) :
    ∃ trees, opt rule src c = some (trees, next) ∧ ∀ tree ∈ trees, tree.role = .plain := by
  rcases h with ⟨rfl, none⟩ | ⟨tree, read, plain⟩
  · exact ⟨[], opt_of_none none, List.forall_mem_nil _⟩
  · exact ⟨[tree], opt_of_read read, List.forall_mem_singleton.mpr plain⟩

theorem afterDeclarators_of_read {rule : Rule} {trees : List Tree} {close : Cursor}
    (h : rule src c = some (trees, close)) (ends : EndsAt src close next) :
    ∃ semicolons, afterDeclarators rule src c = some (trees ++ semicolons, next) ∧
      ∀ tree ∈ semicolons, tree.Spells src ";" := by
  obtain ⟨semicolons, read, spelled⟩ :=
    ends.read (trees.getLast?.bind fun tree => tree.child? .value).isSome
  exact ⟨semicolons, by simp [afterDeclarators, h, read], spelled⟩

/-- A keyword with declarators is read, and binds the names of them all. -/
theorem reads_declarators {depth : Nat} {keyword : String} {first : Cursor} {rule : Rule}
    (opening : NameAt src keyword c first)
    (read : rule src c = some ([.leaf .mark c.here (c.here + keyword.length)], first))
    (declarators : DeclaratorsAt (.ofDepth depth) src names first next)
    (enough : src.chars.size ≤ depth) :
    ∃ tree, node .variableDeclaration (afterDeclarators
        (all [rule, sepBy1 comma (declarator (.ofDepth depth))])) src c = some ([tree], next) ∧
      tree.isNamed = true ∧ (declare src tree).names = names := by
  obtain ⟨trees, close, list, ends, declared⟩ := declarators.reads enough opening.onward.past_le
  obtain ⟨semicolons, closed, spelled⟩ :=
    afterDeclarators_of_read (all_of_read read (all_of_read list all_nil)) ends
  refine ⟨_, node_of_read closed, rfl, ?_⟩
  rw [declare_of_variables rfl]
  change declaredNames src _ = names
  rw [Tree.children_node, declaredNames_append, declaredNames_of_spells spelled, List.append_nil,
    List.append_nil, declaredNames_append, declared]
  rfl

theorem reads_ofVariables {depth : Nat} {keyword : String} {first : Cursor}
    (known : keyword ∈ ["const", "let", "var"]) (opening : NameAt src keyword c first)
    (declarators : DeclaratorsAt (.ofDepth depth) src names first next)
    (enough : src.chars.size ≤ depth) :
    ∃ tree, declarationRule word (.ofDepth depth) src c = some ([tree], next) ∧
      tree.isNamed = true ∧ (declare src tree).names = names := by
  have marks : IsWord keyword := (by decide : ∀ word ∈ ["const", "let", "var"], IsWord word) _ known
  have read := opening.word_self marks
  have function := function_of_name opening (.ofDepth depth)
    ((by decide : ∀ word ∈ ["const", "let", "var"], word ∉ ["async", "function"]) _ known)
  have class_ := class_of_name opening (.ofDepth depth)
    ((by decide : ∀ word ∈ ["const", "let", "var"], word ∉ ["abstract", "class"]) _ known)
  simp only [List.mem_cons, List.not_mem_nil, or_false] at known
  have lexical (choice : any [word "const", word "let"] src c =
      some ([.leaf .mark c.here (c.here + keyword.length)], first)) :
      ∃ tree, declarationRule word (.ofDepth depth) src c = some ([tree], next) ∧
        tree.isNamed = true ∧ (declare src tree).names = names := by
    obtain ⟨tree, declared, named, bound⟩ := reads_declarators opening choice declarators enough
    exact ⟨tree, (any_of_none function).trans ((any_of_none class_).trans (any_of_read declared)),
      named, bound⟩
  rcases known with rfl | rfl | rfl
  · exact lexical (any_of_read read)
  · exact lexical ((any_of_none (opening.word_of_ne (by decide) (by decide))).trans
      (any_of_read read))
  · obtain ⟨tree, declared, named, bound⟩ := reads_declarators opening read declarators enough
    have none := lexical_of_name opening (.ofDepth depth) word
      (opening.word_of_ne (by decide) (by decide)) (by decide)
    exact ⟨tree, (any_of_none function).trans ((any_of_none class_).trans ((any_of_none none).trans
      (any_of_read declared))), named, bound⟩

theorem reads_ofFunction {opening star place rest : Cursor}
    (async : opening = c ∨ NameAt src "async" c opening ∧ opening.breaksLine src = false)
    (keyword : NameAt src "function" opening star)
    (generator : place = star ∨ MarkAt src "*" star place)
    (stands : VariableAt src text place rest) (behind : Stands (functionRest g) src rest next) :
    ∃ tree, declarationRule word g src c = some ([tree], next) ∧
      tree.isNamed = true ∧ (declare src tree).names = [text] := by
  obtain ⟨trees, read⟩ := behind.read
  obtain ⟨signature, body, more, hs, hm, rfl⟩ := exists_of_all_cons read
  have function := keyword.word_self (by decide)
  obtain ⟨front, opened, plain⟩ : ∃ front, optionally (all [word "async", onSameLine])
      (word "function") src c = some (front, star) ∧ ∀ tree ∈ front, tree.role = .plain := by
    rcases async with rfl | ⟨async, same⟩
    · have none : word "async" src opening = none := keyword.word_of_ne (by decide) (by decide)
      exact ⟨_, (optionally_of_none (all_of_none none)).trans function,
        List.forall_mem_singleton.mpr rfl⟩
    · have line : onSameLine src opening = some ([], opening) := guard_of_true (by simp [same])
      refine ⟨_, any_of_read (all_of_read (all_of_read (async.word_self (by decide))
        (all_of_read line all_nil)) (all_of_read function all_nil)), ?_⟩
      simp
  obtain ⟨stars, starred, plain'⟩ : ∃ stars, opt (mark "*") src star = some (stars, place) ∧
      ∀ tree ∈ stars, tree.role = .plain := by
    refine reads_opt ?_
    rcases generator with rfl | generator
    · have clear : Clear ['*'] src place.here := stands.clear (by decide)
      exact .inl ⟨rfl, clear.mark rfl (by decide)⟩
    · exact .inr ⟨_, generator.mark, rfl⟩
  have head : functionHead g src c = some (_, body) :=
    all_of_read opened (all_of_read starred (all_of_read (role_of_read stands.identifier)
      (all_of_read hs all_nil)))
  have declared : functionDeclaration g src c = some (_, next) :=
    node_of_read (all_of_read head hm)
  refine ⟨_, any_of_read declared, rfl, names_declare_of_text
    (show Kind.functionDeclaration ∈ namingKinds by decide) ?_ stands.ne_empty⟩
  refine textOf_name (show _ = (front ++ stars) ++ _ :: (signature ++ more) by simp; rfl) ?_
    stands.has
  rw [List.forall_mem_append]
  exact ⟨plain, plain'⟩

theorem reads_ofClass {opening place rest : Cursor}
    (abstract : opening = c ∨ src.dialect.hasTypes = true ∧ NameAt src "abstract" c opening)
    (keyword : NameAt src "class" opening place) (stands : VariableAt src text place rest)
    (behind : Stands (classRest g) src rest next) :
    ∃ tree, declarationRule word g src c = some ([tree], next) ∧
      tree.isNamed = true ∧ (declare src tree).names = [text] := by
  obtain ⟨more, hm⟩ := behind.read
  obtain ⟨front, opened, plain⟩ : ∃ front, opt (typed (word "abstract")) src c =
      some (front, opening) ∧ ∀ tree ∈ front, tree.role = .plain := by
    refine reads_opt ?_
    rcases abstract with rfl | ⟨types, abstract⟩
    · exact .inl ⟨rfl, typed_of_none (keyword.word_of_ne (by decide) (by decide))⟩
    · exact .inr ⟨_, typed_of_read types (abstract.word_self (by decide)), rfl⟩
  obtain ⟨function, decorators⟩ :
      functionDeclaration g src c = none ∧ decorator g src c = none := by
    rcases abstract with rfl | ⟨-, abstract⟩
    · exact ⟨function_of_name keyword g (by decide), decorators_of_name keyword g⟩
    · exact ⟨function_of_name abstract g (by decide), decorators_of_name abstract g⟩
  have declared : classDeclaration g src c = some (_, next) :=
    node_of_read ((all_many_of_none decorators).trans (all_of_read opened
      (all_of_read (keyword.word_self (by decide)) (all_of_read (role_of_read stands.typeName)
        (all_of_read hm all_nil)))))
  refine ⟨_, (any_of_none function).trans (any_of_read declared), rfl, names_declare_of_text
    (show Kind.classDeclaration ∈ namingKinds by decide) ?_ stands.ne_empty⟩
  refine textOf_name (show _ = (front ++ [_]) ++ _ :: more by simp; exact ⟨rfl, rfl⟩) ?_ stands.has
  rw [List.forall_mem_append]
  exact ⟨plain, List.forall_mem_singleton.mpr rfl⟩

/-- The declarations that only languages with types have come last. -/
theorem declarationRule_of_typed {trees : List Tree} (types : src.dialect.hasTypes = true)
    (h : NameAt src text c middle)
    (other : text ∉ ["async", "function", "abstract", "class", "let", "var"])
    (lexical : lexicalDeclaration word g src c = none)
    (read : any [enumDeclaration g, interfaceDeclaration g, typeAliasDeclaration word g,
      moduleDeclaration word g, importAlias] src c = some (trees, next)) :
    declarationRule word g src c = some (trees, next) := by
  simp only [List.mem_cons, List.not_mem_nil, or_false, not_or] at other
  have function := function_of_name h g (by simp [other.1, other.2.1])
  have class_ := class_of_name h g (by simp [other.2.2.1, other.2.2.2.1])
  have variable_ := variable_of_name h g other.2.2.2.2.2
  rw [declarationRule, any_of_none function, any_of_none class_, any_of_none lexical,
    any_of_none variable_]
  exact any_of_read (typed_of_read types read)

theorem reads_ofInterface {place rest : Cursor} (types : src.dialect.hasTypes = true)
    (keyword : NameAt src "interface" c place) (stands : VariableAt src text place rest)
    (behind : Stands (interfaceRest g) src rest next) :
    ∃ tree, declarationRule word g src c = some ([tree], next) ∧
      tree.isNamed = true ∧ (declare src tree).names = [text] := by
  obtain ⟨more, hm⟩ := behind.read
  have declared : interfaceDeclaration g src c = some (_, next) :=
    node_of_read (all_of_read (keyword.word_self (by decide))
      (all_of_read (role_of_read stands.typeName) hm))
  have lexical := lexical_of_name keyword g word
    (keyword.word_of_ne (by decide) (by decide)) (by decide)
  have enum := enum_of_name keyword g (by decide)
  refine ⟨_, declarationRule_of_typed types keyword (by decide) lexical
    ((any_of_none enum).trans (any_of_read declared)), rfl, names_declare_of_text
      (show Kind.interfaceDeclaration ∈ namingKinds by decide) ?_ stands.ne_empty⟩
  exact textOf_name (show _ = [_] ++ _ :: more by rfl) (List.forall_mem_singleton.mpr rfl)
    stands.has

theorem reads_ofAlias {place rest : Cursor} (types : src.dialect.hasTypes = true)
    (keyword : NameAt src "type" c place) (stands : VariableAt src text place rest)
    (behind : Stands (aliasRest g) src rest next) :
    ∃ tree, declarationRule word g src c = some ([tree], next) ∧
      tree.isNamed = true ∧ (declare src tree).names = [text] := by
  obtain ⟨more, hm⟩ := behind.read
  have declared : typeAliasDeclaration word g src c = some (_, next) :=
    node_of_read (all_of_read (keyword.word_self (by decide))
      (all_of_read (role_of_read stands.typeName) hm))
  have lexical := lexical_of_name keyword g word
    (keyword.word_of_ne (by decide) (by decide)) (by decide)
  have enum := enum_of_name keyword g (by decide)
  have interface := interface_of_name keyword g (by decide)
  refine ⟨_, declarationRule_of_typed types keyword (by decide) lexical
    ((any_of_none enum).trans ((any_of_none interface).trans (any_of_read declared))),
      rfl, names_declare_of_text (show Kind.typeAliasDeclaration ∈ namingKinds by decide) ?_
        stands.ne_empty⟩
  exact textOf_name (show _ = [_] ++ _ :: more by rfl) (List.forall_mem_singleton.mpr rfl)
    stands.has

/-- On the same line, a name does not end a statement. -/
theorem semicolon_of_name (h : NameAt src text c next) (same : c.breaksLine src = false)
    (afterExpression : Bool) : semicolon afterExpression src c = none := by
  have clear : Clear [';', '}'] src c.here := h.clear (by decide)
  have brace : src.char c.here ≠ '}' := clear.char (by decide) (by decide)
  obtain ⟨ch, hn, -⟩ := h.exists_next?
  have inside := (next?_eq_some.mp hn).1
  have mark : Rule.mark ";" src c = none := clear.mark (m := ';') rfl (by decide)
  rw [semicolon, any_of_none mark, any_one]
  exact guard_of_false (by simp [closesStatement, inside, brace, same])

/-- The words `const enum` do not declare a variable, if a name follows on their line. -/
theorem lexical_of_enum {opening place rest : Cursor} (const : NameAt src "const" c opening)
    (keyword : NameAt src "enum" opening place) (stands : NameAt src text place rest)
    (same : place.breaksLine src = false) : lexicalDeclaration word g src c = none := by
  have name := keyword.identifier (by decide) (by decide)
  have clear : Clear declaratorMarks src place.here := stands.clear (by decide)
  have certain : typed (all [role .name identifier, mark "!", typeMark g]) src opening = none :=
    typed_of_none (all_of_read_none (role_of_read name) (all_of_none
      (clear.mark (m := '!') rfl (by decide))))
  have target : any [destructuring g, identifier] src opening = some (_, place) :=
    (any_of_none (destructuring_of_clear g (keyword.clear (by decide)))).trans (any_of_read name)
  have typing : opt (typed (typeMark g)) src place = some ([], place) :=
    opt_of_none (typed_of_none (all_of_none (clear.mark (m := ':') rfl (by decide))))
  have initial : opt (initializer g) src place = some ([], place) :=
    opt_of_none (all_of_none (clear.equalsMark (by decide)))
  have declared : declarator g src opening = some (_, place) :=
    node_of_read ((any_of_none certain).trans (any_of_read (all_of_read (role_of_read target)
      (all_of_read typing (all_of_read initial all_nil)))))
  have comma : Clear [','] src place.here := stands.clear (by decide)
  have list : sepBy1 Rule.comma (declarator g) src opening = some (_, place) :=
    all_of_read declared (all_of_read (many_of_none (all_of_none
      (comma.mark rfl (by decide)))) all_nil)
  have front : all [any [word "const", word "let"], sepBy1 Rule.comma (declarator g)] src c =
      some (_, place) :=
    all_of_read (any_of_read (const.word_self (by decide))) (all_of_read list all_nil)
  refine node_of_none ?_
  simp [afterDeclarators, front, semicolon_of_name stands same]

theorem reads_ofEnum {opening place rest : Cursor} (types : src.dialect.hasTypes = true)
    (const : opening = c ∨ NameAt src "const" c opening ∧ place.breaksLine src = false)
    (keyword : NameAt src "enum" opening place) (stands : VariableAt src text place rest)
    (behind : Stands (enumRest g) src rest next) :
    ∃ tree, declarationRule word g src c = some ([tree], next) ∧
      tree.isNamed = true ∧ (declare src tree).names = [text] := by
  obtain ⟨more, hm⟩ := behind.read
  obtain ⟨front, opened, plain⟩ : ∃ front, opt (word "const") src c = some (front, opening) ∧
      ∀ tree ∈ front, tree.role = .plain := by
    refine reads_opt ?_
    rcases const with rfl | ⟨const, -⟩
    · exact .inl ⟨rfl, keyword.word_of_ne (by decide) (by decide)⟩
    · exact .inr ⟨_, const.word_self (by decide), rfl⟩
  have declared : enumDeclaration g src c = some (_, next) :=
    node_of_read (all_of_read opened (all_of_read (keyword.word_self (by decide))
      (all_of_read (role_of_read stands.identifier) hm)))
  have rule {trees : List Tree} (read : enumDeclaration g src c = some (trees, next)) :
      declarationRule word g src c = some (trees, next) := by
    rcases const with rfl | ⟨const, same⟩
    · have lexical := lexical_of_name keyword g word
        (keyword.word_of_ne (by decide) (by decide)) (by decide)
      exact declarationRule_of_typed types keyword (by decide) lexical (any_of_read read)
    · exact declarationRule_of_typed types const (by decide)
        (lexical_of_enum const keyword stands.toNameAt same) (any_of_read read)
  refine ⟨_, rule declared, rfl,
    names_declare_of_text (show Kind.enumDeclaration ∈ namingKinds by decide) ?_
    stands.ne_empty⟩
  refine textOf_name (show _ = (front ++ [_]) ++ _ :: more by simp; exact ⟨rfl, rfl⟩) ?_ stands.has
  rw [List.forall_mem_append]
  exact ⟨plain, List.forall_mem_singleton.mpr rfl⟩

/-- A declaration is read where it stands, and binds its names. -/
theorem DeclarationAt.reads {depth : Nat} (h : DeclarationAt (.ofDepth depth) src names c next)
    (enough : src.chars.size ≤ depth) :
    ∃ tree, declarationRule word (.ofDepth depth) src c = some ([tree], next) ∧
      tree.isNamed = true ∧ (declare src tree).names = names := by
  cases h with
  | ofVariables known opening declarators =>
      exact reads_ofVariables known opening declarators enough
  | ofFunction async keyword generator stands rest =>
      exact reads_ofFunction async keyword generator stands rest
  | ofClass abstract keyword stands rest => exact reads_ofClass abstract keyword stands rest
  | ofInterface types keyword stands rest => exact reads_ofInterface types keyword stands rest
  | ofEnum types const keyword stands rest => exact reads_ofEnum types const keyword stands rest
  | ofAlias types keyword stands rest => exact reads_ofAlias types keyword stands rest

/-- The words that open declarations. -/
def declaringWords : List String :=
  ["const", "let", "var", "async", "function", "abstract", "class", "interface", "enum", "type"]

theorem DeclarationAt.opens (h : DeclarationAt g src names c next) :
    ∃ text first, NameAt src text c first ∧ text ∈ declaringWords ∧
      (text = "type" → Clear ['\x7b'] src first.here) := by
  cases h with
  | ofVariables known opening =>
      simp only [List.mem_cons, List.not_mem_nil, or_false] at known
      rcases known with rfl | rfl | rfl <;> exact ⟨_, _, opening, by decide, by simp⟩
  | ofFunction async keyword =>
      rcases async with rfl | ⟨async, -⟩
      · exact ⟨_, _, keyword, by decide, by simp⟩
      · exact ⟨_, _, async, by decide, by simp⟩
  | ofClass abstract keyword =>
      rcases abstract with rfl | ⟨-, abstract⟩
      · exact ⟨_, _, keyword, by decide, by simp⟩
      · exact ⟨_, _, abstract, by decide, by simp⟩
  | ofInterface _ keyword => exact ⟨_, _, keyword, by decide, by simp⟩
  | ofEnum _ const keyword =>
      rcases const with rfl | ⟨const, -⟩
      · exact ⟨_, _, keyword, by decide, by simp⟩
      · exact ⟨_, _, const, by decide, by simp⟩
  | ofAlias _ keyword stands => exact ⟨_, _, keyword, by decide, fun _ => stands.clear (by decide)⟩

/-! ## Extents -/

theorem DeclaratorsAt.onward (h : DeclaratorsAt g src names c next) : Onward c next := by
  induction h with
  | last declarator ends =>
      rcases ends.reaches with rfl | ends
      · exact declarator.onward
      · exact declarator.onward.trans ends
  | more declarator mark _ ih => exact (declarator.onward.trans (mark.onward (by decide))).trans ih

theorem DeclarationAt.onward (h : DeclarationAt g src names c next) : Onward c next := by
  cases h with
  | ofVariables _ opening declarators => exact opening.onward.trans declarators.onward
  | ofFunction async keyword generator stands behind =>
      rename_i opening star place rest
      have begun : Onward c star := by
        rcases async with rfl | ⟨async, -⟩
        · exact keyword.onward
        · exact async.onward.trans keyword.onward
      have further : Onward c place := by
        rcases generator with rfl | generator
        · exact begun
        · exact begun.trans (generator.onward (by decide))
      exact (further.trans stands.onward).trans behind.onward
  | ofClass abstract keyword stands behind =>
      have last := (keyword.onward.trans stands.onward).trans behind.onward
      rcases abstract with rfl | ⟨-, abstract⟩
      · exact last
      · exact abstract.onward.trans last
  | ofInterface _ keyword stands behind =>
      exact (keyword.onward.trans stands.onward).trans behind.onward
  | ofEnum _ const keyword stands behind =>
      have last := (keyword.onward.trans stands.onward).trans behind.onward
      rcases const with rfl | ⟨const, -⟩
      · exact last
      · exact const.onward.trans last
  | ofAlias _ keyword stands behind =>
      exact (keyword.onward.trans stands.onward).trans behind.onward

end CommitLens.Script
