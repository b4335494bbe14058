import CommitLens.Proofs.Script.Assigning
import CommitLens.Proofs.Script.Exporting
import CommitLens.Proofs.Script.Transfer

/-!
# What a module exchanges

A module consists of imports, exports and assignments to what it exports, one after another.
Main statement: in every dialect such a text has a surface, whose exports are the exported
names in source order without repetitions, with one entry for each import and one for each
export from elsewhere.
-/

namespace CommitLens.Script

open Source Script.Rule

variable {src : Source} {c middle next : Cursor} {text : String} {depth : Nat}

/-! ## Statements -/

/-- A statement of a module stands at a cursor, with what it exchanges. -/
inductive StatementAt (depth : Nat) (src : Source) : Exchange → Cursor → Cursor → Prop
  | importFrom {names : List String} {specifier : String}
      {c clause source place close next : Cursor}
      (keyword : NameAt src "import" c clause) (taken : ClauseAt src names clause source)
      (origin : NameAt src "from" source place) (stands : StringAt src specifier place close)
      (ends : EndsAt src close next) :
      StatementAt depth src { imports := [⟨specifier, names⟩] } c next
  | importPlain {specifier : String} {c place close next : Cursor}
      (keyword : NameAt src "import" c place) (stands : StringAt src specifier place close)
      (ends : EndsAt src close next) :
      StatementAt depth src { imports := [⟨specifier, []⟩] } c next
  | exportDeclaration {names : List String} {c place next : Cursor}
      (keyword : NameAt src "export" c place)
      (declaration : DeclarationAt (.ofDepth (depth + 1)) src names place next) :
      StatementAt depth src { exports := names } c next
  | exportDefault {c place value next : Cursor} (keyword : NameAt src "export" c place)
      (default : NameAt src "default" place value)
      (value : Stands (exportedValue (.ofDepth (depth + 1))) src value next) :
      StatementAt depth src { exports := ["default"] } c next
  | exportNames {items : List (String × String)} {c braces close next : Cursor}
      (keyword : NameAt src "export" c braces)
      (list : BracesAt src (ExportItemAt src) items braces close) (ends : EndsAt src close next) :
      StatementAt depth src { exports := items.map (·.1) } c next
  | exportNamesFrom {items : List (String × String)} {specifier : String}
      {c braces source place close next : Cursor} (keyword : NameAt src "export" c braces)
      (list : BracesAt src (ExportItemAt src) items braces source)
      (origin : NameAt src "from" source place) (stands : StringAt src specifier place close)
      (ends : EndsAt src close next) :
      StatementAt depth src
        { exports := items.map (·.1), reexports := [⟨specifier, items.map (·.2)⟩] } c next
  | exportAll {specifier : String} {c star source place close next : Cursor}
      (keyword : NameAt src "export" c star) (mark : MarkAt src "*" star source)
      (origin : NameAt src "from" source place) (stands : StringAt src specifier place close)
      (ends : EndsAt src close next) :
      StatementAt depth src { reexports := [⟨specifier, ["*"]⟩] } c next
  | exportAllAs {name specifier : String} {c star as newPlace source place close next : Cursor}
      (keyword : NameAt src "export" c star) (mark : MarkAt src "*" star as)
      (rename : NameAt src "as" as newPlace) (given : EntryAt src name newPlace source)
      (origin : NameAt src "from" source place) (stands : StringAt src specifier place close)
      (ends : EndsAt src close next) :
      StatementAt depth src { exports := [name], reexports := [⟨specifier, ["*"]⟩] } c next
  | assignment {name : String} {c equals close next : Cursor} (target : TargetAt src name c equals)
      (value : Stands (assignedValue (.ofDepth depth)) src equals close)
      (ends : EndsAt src close next) : StatementAt depth src { exports := [name] } c next

/-! ## Statements of other kinds -/

section Others

variable (h : NameAt src text c next)

include h

theorem block_of_name (g : Grammar) : blockStatement g src c = none := by
  have clear : Clear ['\x7b'] src c.here := h.clear (by decide)
  exact all_of_none (node_of_none (all_of_none (clear.mark rfl (by decide))))

theorem import_of_name (g : Grammar) (other : text ≠ "import") : importStatement g src c = none :=
  node_of_none (all_of_none (h.word_of_ne (by decide) (Ne.symm other)))

theorem export_of_name (g : Grammar) (other : text ≠ "export") :
    exportStatement g src c = none := by
  have export_ {rules : List Rule} : all (word "export" :: rules) src c = none :=
    all_of_none (h.word_of_ne (by decide) (Ne.symm other))
  refine node_of_none ?_
  rw [any_of_none export_, any_of_none export_, any_of_none export_,
    any_of_none (typed_of_none export_), any_of_none (typed_of_none export_),
    any_of_none (typed_of_none export_), any_one, all_many_of_none (decorators_of_name h g), export_]

end Others

/-- The words that open statements of other kinds. -/
def statementWords : List String :=
  ["if", "for", "while", "do", "switch", "try", "return", "throw", "debugger", "with", "break",
    "continue"]

/-- In front of a target, no other statement is read. -/
theorem other_of_base (g : Grammar) {name : String} {dot after : Cursor}
    (known : text ∈ ["module", "exports"]) (base : NameAt src text c dot)
    (field : FieldAt src name dot after) : otherStatement g src c = none := by
  have free := (by decide : ∀ word ∈ ["module", "exports"],
    word ∉ statementWords ∧ word ∉ reservedWords) text known
  have keyword {word : String} (member : word ∈ statementWords) {rules : List Rule} :
      all (Rule.word word :: rules) src c = none := by
    have marks : IsWord word := (by decide : ∀ word ∈ statementWords, IsWord word) word member
    refine all_of_none (base.word_of_ne marks fun same => free.1 ?_)
    rw [← same]
    exact member
  have clear : Clear [';'] src c.here := base.clear (by decide)
  have semicolon_ : mark ";" src c = none := clear.mark rfl (by decide)
  have jump : jumpStatement src c = none := by
    refine all_of_none (words_of_notMem base (by decide) fun member => free.1 ?_)
    rcases List.mem_pair.mp member with rfl | rfl <;> decide
  have colon : mark ":" src dot = none :=
    mark_of_next (m := ':') rfl (by rw [field.next?_eq]; decide)
  have name_ : token .word variableName? src c =
      some ([.leaf .word c.here (c.here + text.length)], dot) := by
    simp [token, base.variableName? free.2, base.next_eq]
  have labeled : labeledStatement g src c = none := all_of_read_none name_ (all_of_none colon)
  refine node_of_none (any_of_forall_none ?_)
  simp only [List.forall_mem_cons, List.not_mem_nil, false_implies, implies_true, and_true]
  exact ⟨semicolon_, keyword (by decide), keyword (by decide), keyword (by decide),
    keyword (by decide), keyword (by decide), keyword (by decide), keyword (by decide),
    keyword (by decide), jump, keyword (by decide), keyword (by decide), labeled⟩

/-- A target opens no namespace. -/
theorem module_of_base (g : Grammar) {name : String} {dot after : Cursor}
    (known : text ∈ ["module", "exports"]) (base : NameAt src text c dot)
    (field : FieldAt src name dot after) : moduleDeclaration openingWord g src c = none := by
  have space : openingWord "namespace" src c = none := by
    refine all_of_none (base.word_of_ne (by decide) ?_)
    exact (by decide : ∀ word ∈ ["module", "exports"], "namespace" ≠ word) text known
  refine node_of_none ?_
  rcases List.mem_pair.mp known with rfl | rfl
  · have goesOn : closesStatement src dot true = false := by
      obtain ⟨inside, point⟩ := next?_eq_some.mp field.next?_eq
      have line : dot.breaksLine src = false := by
        cases field with
        | intro before => simp [Cursor.breaksLine, breaksLine, left, breaksLine.go, before]
      simp [closesStatement, inside, point, line]
    have opening : openingWord "module" src c = some (_, dot) :=
      all_of_read (base.word_self (by decide))
        (all_of_read (guard_of_true (by simp [goesOn])) all_nil)
    exact all_of_read_none (any_of_read opening) (all_of_none
      (role_of_none (namespaceName_of_field field)))
  · have opening : openingWord "module" src c = none :=
      all_of_none (base.word_of_ne (by decide) (by decide))
    refine all_of_none ?_
    rw [any_of_none opening, any_of_none space, any_nil]

/-- In front of a target, no declaration is read. -/
theorem declaration_of_base (g : Grammar) {name : String} {dot after : Cursor}
    (known : text ∈ ["module", "exports"]) (base : NameAt src text c dot)
    (field : FieldAt src name dot after) : declaration openingWord g src c = none := by
  have free := (by decide : ∀ word ∈ ["module", "exports"], word ∉ ["async", "function"] ∧
    word ∉ ["abstract", "class"] ∧ word ∉ ["const", "enum"] ∧ word ∉ ["let", "type", "declare",
      "import", "using", "await", "interface", "var"]) text known
  obtain ⟨function, class_, enum, others⟩ := free
  have keyword {word : String} (member : word ∈ ["let", "type", "declare", "import", "using",
      "await", "interface", "var"]) : Rule.word word src c = none := by
    have marks : IsWord word := (by decide : ∀ word ∈ ["let", "type", "declare", "import", "using",
      "await", "interface", "var"], IsWord word) word member
    refine base.word_of_ne marks fun same => others ?_
    rw [← same]
    exact member
  have ne {word : String} (member : word ∈ ["let", "type", "declare", "import", "using", "await",
      "interface", "var"]) : text ≠ word := fun same => others (same ▸ member)
  have const : text ≠ "const" := by
    intro same
    rw [same] at enum
    exact enum (by decide)
  have typed_ : any [enumDeclaration g, interfaceDeclaration g, typeAliasDeclaration openingWord g,
      moduleDeclaration openingWord g, importAlias] src c = none := by
    refine any_of_forall_none ?_
    simp only [List.forall_mem_cons, List.not_mem_nil, false_implies, implies_true, and_true]
    exact ⟨enum_of_name base g enum, interface_of_name base g (ne (by decide)),
      node_of_none (all_of_none (all_of_none (keyword (by decide)))),
      module_of_base g known base field, node_of_none (all_of_none (keyword (by decide)))⟩
  have using_ : usingDeclaration g src c = none :=
    untyped_of_none (node_of_none (afterDeclarators_of_none
      ((all_opt_of_none (keyword (by decide))).trans (all_of_none (keyword (by decide))))))
  have rule : declarationRule openingWord g src c = none := by
    refine any_of_forall_none ?_
    simp only [List.forall_mem_cons, List.not_mem_nil, false_implies, implies_true, and_true]
    exact ⟨function_of_name base g function, class_of_name base g class_,
      lexical_of_name base g openingWord (all_of_none (keyword (by decide))) const,
      variable_of_name base g (ne (by decide)), typed_of_none typed_, using_⟩
  have ambient : ambientDeclaration openingWord g src c = none :=
    typed_of_none (node_of_none (all_of_none (all_of_none (keyword (by decide)))))
  exact (any_of_none rule).trans ((any_of_none ambient).trans any_nil)

/-! ## Reading statements -/

/-- A statement is read, and with the comments in it, it exchanges what the statement says. -/
def Exchanges (g : Grammar) (src : Source) (exchange : Exchange) (c next : Cursor) : Prop :=
  ∃ tree, statementRule g src c = some ([tree], next) ∧ tree.isNamed = true ∧
    (statementSurface src (withComments src tree)).exchange = exchange

variable {g : Grammar} {exchange : Exchange} {tree : Tree}

theorem statementRule_of_name (h : NameAt src text c middle) {trees : List Tree}
    (read : any [blockStatement g, importStatement g, exportStatement g, otherStatement g,
      declaration openingWord g, expressionStatement g] src c = some (trees, next)) :
    statementRule g src c = some (trees, next) := by
  have statement : statementRule g src c = some (_, next) :=
    all_of_read (skipMarkupComments_of_clear (h.clear (by decide))) (all_of_read read all_nil)
  simpa using statement

/-- An import is read before all statements but blocks. -/
theorem exchanges_import {surface : Surface} (keyword : NameAt src "import" c middle)
    (read : ∃ tree, importStatement g src c = some ([tree], next) ∧ tree.kind = .importStatement ∧
      importOf src tree = surface) : Exchanges g src surface.exchange c next := by
  obtain ⟨tree, statement, kind, rfl⟩ := read
  refine ⟨tree, statementRule_of_name keyword ((any_of_none (block_of_name keyword g)).trans
    (any_of_read statement)), by simp [Tree.isNamed, kind], ?_⟩
  simp [statementSurface, kind, importOf_withComments]

/-- So is an export, whose keyword is not the one of an import. -/
theorem exchanges_export [sound : g.Sound] (keyword : NameAt src "export" c middle)
    (read : ∃ tree, exportStatement g src c = some ([tree], next) ∧ tree.kind = .exportStatement ∧
      (exportOf src tree).exchange = exchange) : Exchanges g src exchange c next := by
  obtain ⟨tree, statement, kind, rfl⟩ := read
  have sound_ : (exportStatement g).Sound := inferInstance
  have good : tree.Good src := (sound_.part statement tree (List.mem_singleton_self tree)).good
  refine ⟨tree, statementRule_of_name keyword ((any_of_none (block_of_name keyword g)).trans
    ((any_of_none (import_of_name keyword g (by decide))).trans (any_of_read statement))),
    by simp [Tree.isNamed, kind], ?_⟩
  simp only [statementSurface, kind_withComments, kind]
  exact exchange_exportOf_withComments good

/-- The first child of a statement has no comments in front of it. -/
theorem assignmentExports_withComments {kind : Kind} {part : Role} {start stop : Nat}
    {rest : List Tree} (hk : tree.kind = .assignment) :
    assignmentExports src (withComments src (.node kind part start stop (tree :: rest))) =
      { exports := assignedExport (textOf src (tree.child? .left)) } := by
  have named : (withComments src tree).isNamed = true := by simp [Tree.isNamed, hk]
  have first : (withComments src (.node kind part start stop (tree :: rest))).namedChildren.head? =
      some (withComments src tree) := by
    rw [Tree.namedChildren, children_withComments, Tree.children_node, weaveComments]
    simp [named]
  rw [assignmentExports, first]
  simp [hk, textOf_child?_withComments]

theorem exchanges_assignment {name : String} {equals close : Cursor}
    (target : TargetAt src name c equals) (value : Stands (assignedValue g) src equals close)
    (ends : EndsAt src close next) : Exchanges g.next src { exports := [name] } c next := by
  obtain ⟨tree, semicolons, statement, kind, exported⟩ := reads_assignment target value ends
  obtain ⟨text, dot, field, after, known, base, stands⟩ := target.opens
  have other := (by decide : ∀ word ∈ ["module", "exports"], word ≠ "import" ∧ word ≠ "export")
    text known
  refine ⟨_, statementRule_of_name base ((any_of_none (block_of_name base _)).trans
    ((any_of_none (import_of_name base _ other.1)).trans
    ((any_of_none (export_of_name base _ other.2)).trans
    ((any_of_none (other_of_base _ known base stands)).trans
    ((any_of_none (declaration_of_base _ known base stands)).trans
      (any_of_read statement)))))), rfl, ?_⟩
  rw [statementSurface, kind_withComments, Tree.kind_node]
  dsimp only
  rw [assignmentExports_withComments kind, exported]
  rfl

theorem StatementAt.exchanges (h : StatementAt depth src exchange c next)
    (enough : src.chars.size ≤ depth + 1) :
    Exchanges (.ofDepth (depth + 1)) src exchange c next := by
  have exports {surface : Surface} {middle : Cursor} (keyword : NameAt src "export" c middle)
      (read : ∃ tree, exportStatement (.ofDepth (depth + 1)) src c = some ([tree], next) ∧
        tree.kind = .exportStatement ∧ exportOf src tree = surface) :
      Exchanges (.ofDepth (depth + 1)) src surface.exchange c next := by
    obtain ⟨tree, statement, kind, rfl⟩ := read
    exact exchanges_export keyword ⟨tree, statement, kind, rfl⟩
  cases h with
  | importFrom keyword taken origin stands ends =>
      exact exchanges_import keyword (reads_importFrom _ keyword taken origin stands ends)
  | importPlain keyword stands ends =>
      exact exchanges_import keyword (reads_importPlain _ keyword stands ends)
  | exportDeclaration keyword declaration =>
      exact exchanges_export keyword (reads_exportDeclaration keyword declaration enough)
  | exportDefault keyword default value =>
      exact exchanges_export keyword (reads_exportDefault keyword default value)
  | exportNames keyword list ends => exact exports keyword (reads_exportNames _ keyword list ends)
  | exportNamesFrom keyword list origin stands ends =>
      exact exports keyword (reads_exportNamesFrom _ keyword list origin stands ends)
  | exportAll keyword mark origin stands ends =>
      exact exports keyword (reads_exportAll _ keyword mark origin stands ends)
  | exportAllAs keyword mark rename given origin stands ends =>
      exact exports keyword (reads_exportAllAs _ keyword mark rename given origin stands ends)
  | assignment target value ends => exact exchanges_assignment target value ends

/-! ## Extents -/

theorem ItemsAt.onward {α : Type} {place : α → Cursor → Cursor → Prop} {items : List α}
    (onward : ∀ {item c next}, place item c next → Onward c next)
    (h : ItemsAt src place items c next) : Onward c next := by
  induction h with
  | none closing => exact closing.onward (by decide)
  | last stands closing => exact (onward stands).trans (closing.onward (by decide))
  | more stands mark _ ih => exact ((onward stands).trans (mark.onward (by decide))).trans ih

theorem BracesAt.onward {α : Type} {place : α → Cursor → Cursor → Prop} {items : List α}
    (onward : ∀ {item c next}, place item c next → Onward c next)
    (h : BracesAt src place items c next) : Onward c next := by
  obtain ⟨first, opening, stands⟩ := h.stands
  exact (opening.onward (by decide)).trans (stands.onward onward)

theorem BindingsAt.onward {names : List String} (h : BindingsAt src names c next) :
    Onward c next := by
  cases h with
  | everything star keyword name =>
      exact ((star.onward (by decide)).trans keyword.onward).trans name.onward
  | named braces => exact braces.onward onward_importItemAt

theorem ClauseAt.onward {names : List String} (h : ClauseAt src names c next) : Onward c next := by
  cases h with
  | default name => exact name.onward
  | bindings bindings => exact bindings.onward
  | both name mark bindings =>
      exact (name.onward.trans (mark.onward (by decide))).trans bindings.onward

theorem TargetAt.onward {name : String} (h : TargetAt src name c next) : Onward c next := by
  cases h with
  | whole base field => exact base.onward.trans field.onward
  | inner base field inner => exact (base.onward.trans field.onward).trans inner.onward
  | short base field => exact base.onward.trans field.onward

/-- Every statement takes some of the text. -/
theorem StatementAt.onward (h : StatementAt depth src exchange c next) : Onward c next := by
  have close {close : Cursor} (front : Onward c close) (ends : EndsAt src close next) :
      Onward c next := by
    rcases ends.reaches with rfl | ends
    · exact front
    · exact front.trans ends
  cases h with
  | importFrom keyword taken origin stands ends =>
      exact close (((keyword.onward.trans taken.onward).trans origin.onward).trans
        stands.onward) ends
  | importPlain keyword stands ends => exact close (keyword.onward.trans stands.onward) ends
  | exportDeclaration keyword declaration => exact keyword.onward.trans declaration.onward
  | exportDefault keyword default value =>
      exact (keyword.onward.trans default.onward).trans value.onward
  | exportNames keyword list ends =>
      exact close (keyword.onward.trans (list.onward onward_exportItemAt)) ends
  | exportNamesFrom keyword list origin stands ends =>
      exact close (((keyword.onward.trans (list.onward onward_exportItemAt)).trans
        origin.onward).trans stands.onward) ends
  | exportAll keyword mark origin stands ends =>
      exact close (((keyword.onward.trans (mark.onward (by decide))).trans origin.onward).trans
        stands.onward) ends
  | exportAllAs keyword mark rename given origin stands ends =>
      exact close (((((keyword.onward.trans (mark.onward (by decide))).trans rename.onward).trans
        given.onward).trans origin.onward).trans stands.onward) ends
  | assignment target value ends => exact close (target.onward.trans value.onward) ends

/-! ## Modules -/

/-- Statements stand one after another up to the end of the text. -/
inductive StatementsAt (depth : Nat) (src : Source) : List Exchange → Cursor → Prop
  | stop {c : Cursor} (ended : src.isEnd c.here = true) : StatementsAt depth src [] c
  | step {exchange : Exchange} {later : List Exchange} {c next : Cursor}
      (statement : StatementAt depth src exchange c next)
      (rest : StatementsAt depth src later next) :
      StatementsAt depth src (exchange :: later) c

theorem StatementAt.opens (h : StatementAt depth src exchange c next) :
    ∃ text after, NameAt src text c after := by
  cases h with
  | importFrom keyword => exact ⟨_, _, keyword⟩
  | importPlain keyword => exact ⟨_, _, keyword⟩
  | exportDeclaration keyword => exact ⟨_, _, keyword⟩
  | exportDefault keyword => exact ⟨_, _, keyword⟩
  | exportNames keyword => exact ⟨_, _, keyword⟩
  | exportNamesFrom keyword => exact ⟨_, _, keyword⟩
  | exportAll keyword => exact ⟨_, _, keyword⟩
  | exportAllAs keyword => exact ⟨_, _, keyword⟩
  | assignment target =>
      obtain ⟨text, dot, _, _, _, base, -⟩ := target.opens
      exact ⟨text, dot, base⟩

/-- What the statements of a module are read as: by induction on the statements, each of which
takes some of the text. -/
theorem StatementsAt.reads {parts : List Exchange} (h : StatementsAt depth src parts c)
    (enough : src.chars.size ≤ depth + 1) (fuel : Nat) (steps : src.left c.here ≤ fuel) :
    (∀ tree ∈ statementsFrom (.ofDepth (depth + 2)) src fuel c,
      tree.isNamed = true ∧ tree.Good src) ∧
    (statementsFrom (.ofDepth (depth + 2)) src fuel c).map
      (fun tree => (statementSurface src (withComments src tree)).exchange) = parts := by
  induction h generalizing fuel with
  | @stop c ended =>
      obtain ⟨fuel, rfl⟩ := Nat.exists_eq_add_of_le' (Nat.le_trans (Nat.le_add_left 1 _) steps)
      have comments : skipMarkupComments src c = some ([], c) := by
        refine skipMarkupComments_of_clear fun ch _ found => ?_
        rw [next?_eq_none.mpr ended] at found
        contradiction
      have none : statementsFrom (.ofDepth (depth + 2)) src (fuel + 1) c = [] := by
        simp [statementsFrom, comments, ended]
      rw [none]
      exact ⟨List.forall_mem_nil _, rfl⟩
  | @step exchange later c next statement rest ih =>
      obtain ⟨fuel, rfl⟩ := Nat.exists_eq_add_of_le' (Nat.le_trans (Nat.le_add_left 1 _) steps)
      obtain ⟨text, after, opening⟩ := statement.opens
      obtain ⟨ch, first, -⟩ := opening.exists_next?
      have inside := (next?_eq_some.mp first).1
      have further := statement.onward.here_lt_here
      obtain ⟨tree, read, named, exchanged⟩ := statement.exchanges enough
      have clear : Clear ['<', '-'] src c.here := opening.clear (by decide)
      have comments := skipMarkupComments_of_clear clear
      have statement_ : (Grammar.ofDepth (depth + 2)).statement src c = some ([tree], next) := read
      have front : statementsFrom (.ofDepth (depth + 2)) src (fuel + 1) c =
          tree :: statementsFrom (.ofDepth (depth + 2)) src fuel next := by
        simp [statementsFrom, comments, inside, statement_]
      have sound : (Grammar.ofDepth (depth + 2)).statement.Sound :=
        (sound_ofDepth (depth + 2)).statement _
      have good : tree.Good src :=
        (sound.part statement_ tree (List.mem_singleton_self tree)).good
      have fewer : src.left next.here ≤ fuel := by
        rw [isEnd, decide_eq_false_iff_not] at inside
        simp only [left] at steps ⊢
        omega
      obtain ⟨goods, exchanges⟩ := ih fuel fewer
      rw [front, List.forall_mem_cons, List.map_cons, exchanges, exchanged]
      exact ⟨⟨⟨named, good⟩, goods⟩, rfl⟩

/-- A text of such statements is a module, with what they exchange.  Inside of values the
grammar nests less deep than around them. -/
def ModuleAt (src : Source) (parts : List Exchange) : Prop :=
  StatementsAt (nestingDepth src - 2) src parts (.afterToken src (programStart src))

/-- The comments of a program exchange nothing. -/
theorem exchange_statements {trees : List Tree} {start stop : Nat}
    (named : ∀ tree ∈ trees, tree.isNamed = true) :
    (Surface.concat ((withComments src (.node .program .plain start stop trees)).namedChildren.map
      (statementSurface src))).exchange =
      .concat (trees.map fun tree => (statementSurface src (withComments src tree)).exchange) := by
  have part {α : Type} (f : Exchange → List α) (none : f {} = []) :
      (withComments src (.node .program .plain start stop trees)).namedChildren.flatMap
        (fun tree => f (statementSurface src tree).exchange) =
          trees.flatMap fun tree => f (statementSurface src (withComments src tree)).exchange := by
    have comment (first past : Nat) :
        (statementSurface src (.leaf .comment first past)).exchange = {} := by
      simp [statementSurface, Tree.leaf, Tree.kind, exchange_declare]
    rw [flatMap_namedChildren, children_withComments,
      flatMap_weaveComments (by simp [comment, none])]
    refine List.flatMap_congr fun tree member => ?_
    rw [isNamed_withComments, named tree member, if_pos rfl]
  rw [Surface.exchange_concat]
  simp only [Exchange.concat, List.flatMap_map, Exchange.mk.injEq]
  exact ⟨part (·.exports) rfl, part (·.imports) rfl, part (·.reexports) rfl⟩

/-- The statements are read to the end of the text. -/
theorem ModuleAt.reads {parts : List Exchange} (h : ModuleAt src parts) :
    firstBrokenLine? src (parse src) = none ∧
    (Surface.concat ((parse src).namedChildren.map (statementSurface src))).exchange =
      .concat parts := by
  have deep : nestingDepth src = nestingDepth src - 2 + 2 := by
    simp only [nestingDepth]
    omega
  have enough : src.chars.size ≤ nestingDepth src - 2 + 1 := by
    simp only [nestingDepth]
    omega
  have steps : src.left (Cursor.afterToken src (programStart src)).here ≤ src.left 0 := by
    simp only [left]
    omega
  obtain ⟨statements, exchanges⟩ := StatementsAt.reads h enough _ steps
  rw [← deep] at statements exchanges
  have good : (parse src).Good src := good_withComments
    (Tree.good_node rfl (fun _ _ _ => trivial) fun tree member => (statements tree member).2)
  refine ⟨firstBrokenLine?_eq_none_iff.mpr fun inner member => (good inner member).whole, ?_⟩
  rw [parse, exchange_statements fun tree member => (statements tree member).1, exchanges]

/-- What a module exchanges, in source order: its surface has the exported names without
repetitions, and all its imports and exports from elsewhere. -/
theorem parseSurface_exchange (dialect : Dialect) (text : String) (parts : List Exchange)
    (h : ModuleAt (.ofText dialect text) parts) :
    ∃ surface, parseSurface dialect text = .ok surface ∧
      surface.exports = unique (parts.flatMap (·.exports)) ∧
      surface.imports = parts.flatMap (·.imports) ∧
      surface.reexports = parts.flatMap (·.reexports) := by
  obtain ⟨whole, exchange⟩ := h.reads
  simp only [Surface.exchange, Exchange.concat, Exchange.mk.injEq] at exchange
  obtain ⟨exports, imports, reexports⟩ := exchange
  have parsed : parseSurface dialect text =
      .ok (surfaceOf (.ofText dialect text) (parse (.ofText dialect text))) := by
    simp only [parseSurface, whole]
  refine ⟨_, parsed, ?_⟩
  simp only [surfaceOf, Surface.withoutRepetitions, exports, imports, reexports, and_self]

/-! A text with four statements. -/

def sharedText : String :=
  "import a, \x7b b as c \x7d from 'x'\nexport let [d, \x7b e \x7d] = 0\n" ++
    "export \x7b f as g \x7d from 'y'\nmodule.exports.h = 1\n"

def sharedSource : Source :=
  .ofText .typed sharedText

theorem sharedSource_import : StatementAt depth sharedSource
    { imports := [⟨"x", ["default", "b"]⟩] } ⟨0, 0⟩ ⟨29, 30⟩ := by
  obtain ⟨keyword, default, comma, opening, name, as_, newName, closing, origin, source, broken,
    following⟩ :
      NameAt sharedSource "import" ⟨0, 0⟩ ⟨6, 7⟩ ∧ VariableAt sharedSource "a" ⟨6, 7⟩ ⟨8, 8⟩ ∧
      MarkAt sharedSource "," ⟨8, 8⟩ ⟨9, 10⟩ ∧ MarkAt sharedSource "\x7b" ⟨9, 10⟩ ⟨11, 12⟩ ∧
      EntryAt sharedSource "b" ⟨11, 12⟩ ⟨13, 14⟩ ∧ NameAt sharedSource "as" ⟨13, 14⟩ ⟨16, 17⟩ ∧
      VariableAt sharedSource "c" ⟨16, 17⟩ ⟨18, 19⟩ ∧ MarkAt sharedSource "\x7d" ⟨18, 19⟩ ⟨20, 21⟩ ∧
      NameAt sharedSource "from" ⟨20, 21⟩ ⟨25, 26⟩ ∧ StringAt sharedSource "x" ⟨25, 26⟩ ⟨29, 30⟩ ∧
      Cursor.breaksLine sharedSource ⟨29, 30⟩ = true ∧
      NameAt sharedSource "export" ⟨29, 30⟩ ⟨36, 37⟩ := by
    decide +kernel
  have items : BracesAt sharedSource (ImportItemAt sharedSource) ["b"] ⟨9, 10⟩ ⟨20, 21⟩ :=
    ⟨⟨11, 12⟩, opening, .last (.renamed name as_ newName) closing⟩
  exact .importFrom keyword (.both default comma (.named items)) origin source
    (.line broken (by decide) following)

theorem sharedSource_pattern : BindsAt sharedSource .pattern ["d", "e"] ⟨40, 41⟩ ⟨51, 52⟩ := by
  obtain ⟨opening, first, comma, inner, second, innerEnd, closing⟩ :
      MarkAt sharedSource "[" ⟨40, 41⟩ ⟨42, 42⟩ ∧ VariableAt sharedSource "d" ⟨42, 42⟩ ⟨43, 43⟩ ∧
      MarkAt sharedSource "," ⟨43, 43⟩ ⟨44, 45⟩ ∧ MarkAt sharedSource "\x7b" ⟨44, 45⟩ ⟨46, 47⟩ ∧
      VariableAt sharedSource "e" ⟨46, 47⟩ ⟨48, 49⟩ ∧ MarkAt sharedSource "\x7d" ⟨48, 49⟩ ⟨50, 50⟩ ∧
      MarkAt sharedSource "]" ⟨50, 50⟩ ⟨51, 52⟩ := by
    decide +kernel
  have braces : BindsAt sharedSource .pattern ["e"] ⟨44, 45⟩ ⟨50, 50⟩ :=
    @BindsAt.pattern _ .braces _ _ _ _ _ inner (.item (.shorthand second) .stop) innerEnd
  exact @BindsAt.pattern _ .squares _ _ _ _ _ opening (.item (.element (.single first))
    (.comma comma (.item (.element (.nested braces)) .stop))) closing

theorem sharedSource_names : StatementAt depth sharedSource
    { exports := ["g"], reexports := [⟨"y", ["f"]⟩] } ⟨55, 56⟩ ⟨82, 83⟩ := by
  obtain ⟨keyword, opening, name, as_, newName, closing, origin, source, broken, following⟩ :
      NameAt sharedSource "export" ⟨55, 56⟩ ⟨62, 63⟩ ∧
      MarkAt sharedSource "\x7b" ⟨62, 63⟩ ⟨64, 65⟩ ∧ EntryAt sharedSource "f" ⟨64, 65⟩ ⟨66, 67⟩ ∧
      NameAt sharedSource "as" ⟨66, 67⟩ ⟨69, 70⟩ ∧ EntryAt sharedSource "g" ⟨69, 70⟩ ⟨71, 72⟩ ∧
      MarkAt sharedSource "\x7d" ⟨71, 72⟩ ⟨73, 74⟩ ∧ NameAt sharedSource "from" ⟨73, 74⟩ ⟨78, 79⟩ ∧
      StringAt sharedSource "y" ⟨78, 79⟩ ⟨82, 83⟩ ∧
      Cursor.breaksLine sharedSource ⟨82, 83⟩ = true ∧
      NameAt sharedSource "module" ⟨82, 83⟩ ⟨89, 89⟩ := by
    decide +kernel
  have items : BracesAt sharedSource (ExportItemAt sharedSource) [("g", "f")] ⟨62, 63⟩ ⟨73, 74⟩ :=
    ⟨⟨64, 65⟩, opening, .last (.renamed name as_ newName) closing⟩
  exact .exportNamesFrom keyword items origin source
    (.line broken (by decide) following)

theorem sharedSource_target : TargetAt sharedSource "h" ⟨82, 83⟩ ⟨99, 100⟩ := by
  obtain ⟨base, dot, field, second, name⟩ :
      NameAt sharedSource "module" ⟨82, 83⟩ ⟨89, 89⟩ ∧ MarkAt sharedSource "." ⟨89, 89⟩ ⟨90, 90⟩ ∧
      NameAt sharedSource "exports" ⟨90, 90⟩ ⟨97, 97⟩ ∧ MarkAt sharedSource "." ⟨97, 97⟩ ⟨98, 98⟩ ∧
      NameAt sharedSource "h" ⟨98, 98⟩ ⟨99, 100⟩ := by
    decide +kernel
  exact .inner base (.intro rfl dot rfl field) (.intro rfl second rfl name)

theorem parseSurface_exchange_sharedText :
    ModuleAt sharedSource [{ imports := [⟨"x", ["default", "b"]⟩] }, { exports := ["d", "e"] },
      { exports := ["g"], reexports := [⟨"y", ["f"]⟩] }, { exports := ["h"] }] ∧
    ∃ surface, parseSurface .typed sharedText = .ok surface ∧
      surface.exports = ["d", "e", "g", "h"] ∧ surface.imports = [⟨"x", ["default", "b"]⟩] ∧
      surface.reexports = [⟨"y", ["f"]⟩] := by
  obtain ⟨start, keyword, let_, zero, broken, following, one, ended⟩ :
      Cursor.afterToken sharedSource (programStart sharedSource) = ⟨0, 0⟩ ∧
      NameAt sharedSource "export" ⟨29, 30⟩ ⟨36, 37⟩ ∧ NameAt sharedSource "let" ⟨36, 37⟩ ⟨40, 41⟩ ∧
      Stands (initializer (.ofDepth (nestingDepth sharedSource - 2 + 1))) sharedSource
        ⟨51, 52⟩ ⟨55, 56⟩ ∧
      Cursor.breaksLine sharedSource ⟨55, 56⟩ = true ∧
      NameAt sharedSource "export" ⟨55, 56⟩ ⟨62, 63⟩ ∧
      Stands (assignedValue (.ofDepth (nestingDepth sharedSource - 2))) sharedSource
        ⟨99, 100⟩ ⟨103, 104⟩ ∧
      sharedSource.isEnd 104 = true := by
    decide +kernel
  have declaration := DeclarationAt.ofVariables (by decide) let_ (.last
    (.target (.nested sharedSource_pattern) (.inl rfl) (.inr zero))
      (.line broken (by decide) following))
  have statements : StatementsAt (nestingDepth sharedSource - 2) sharedSource _ ⟨0, 0⟩ :=
    .step sharedSource_import (.step (.exportDeclaration keyword declaration)
      (.step sharedSource_names (.step (.assignment sharedSource_target one (.text ended))
        (.stop ended))))
  rw [← start] at statements
  obtain ⟨surface, parsed, exports, imports, reexports⟩ := parseSurface_exchange _ _ _ statements
  exact ⟨statements, surface, parsed, exports, imports, reexports⟩

end CommitLens.Script
