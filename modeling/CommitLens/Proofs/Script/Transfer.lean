import CommitLens.Proofs.Script.Clauses

/-!
# Imports and export lists

Statements that name what a module takes from others or hands to them, without a declaration
or a value.  Main statements: the grammar reads such a statement where it stands, and the
exchange of what it reads is the one that its names say.
-/

namespace CommitLens.Script

open Source Script.Rule

variable {src : Source} {c middle next : Cursor} {text : String}

/-! ## Import clauses -/

/-- What an import names besides a default, with the names that it takes. -/
inductive BindingsAt (src : Source) : List String → Cursor → Cursor → Prop
  | everything {name : String} {c as place next : Cursor} (star : MarkAt src "*" c as)
      (keyword : NameAt src "as" as place) (name : VariableAt src name place next) :
      BindingsAt src ["*"] c next
  | named {names : List String} {c next : Cursor}
      (braces : BracesAt src (ImportItemAt src) names c next) : BindingsAt src names c next

/-- The clause of an import, with the names that it takes. -/
inductive ClauseAt (src : Source) : List String → Cursor → Cursor → Prop
  | default {name : String} {c next : Cursor} (name : VariableAt src name c next) :
      ClauseAt src ["default"] c next
  | bindings {names : List String} {c next : Cursor} (bindings : BindingsAt src names c next) :
      ClauseAt src names c next
  | both {name : String} {names : List String} {c comma place next : Cursor}
      (name : VariableAt src name c comma) (mark : MarkAt src "," comma place)
      (bindings : BindingsAt src names place next) : ClauseAt src ("default" :: names) c next

variable {names : List String} {kind : Kind} {part : Role} {start stop : Nat}

theorem BindingsAt.reads (h : BindingsAt src names c next) :
    ∃ tree, any [namespaceImport, namedImports] src c = some ([tree], next) ∧
      ∀ kind part start stop, clauseSymbols src (.node kind part start stop [tree]) = names := by
  cases h with
  | everything star keyword name =>
      have read : namespaceImport src c = some (_, next) :=
        node_of_read (all_of_read star.mark (all_of_read (keyword.word_self (by decide))
          (all_of_read name.identifier all_nil)))
      exact ⟨_, any_of_read read, fun _ _ _ _ => rfl⟩
  | named braces =>
      obtain ⟨first, opening, -⟩ := braces.stands
      obtain ⟨trees, list, told⟩ := braces.reads readsItems_import
      have clear : Clear ['*'] src c.here := .of_next (opening.next?_eq (by decide)) (by decide)
      have star : namespaceImport src c = none :=
        node_of_none (all_of_none (clear.mark rfl (by decide)))
      have read : namedImports src c = some (_, next) := node_of_read list
      refine ⟨_, (any_of_none star).trans (any_of_read read), fun _ _ _ _ => ?_⟩
      exact (List.append_nil _).trans told

/-- Where a variable or a string stands, there is no list and no star. -/
theorem bindings_of_clear (h : Clear ['*', '\x7b'] src c.here) :
    namespaceImport src c = none ∧ namedImports src c = none :=
  ⟨node_of_none (all_of_none (h.mark (m := '*') rfl (by decide))),
    node_of_none (listed_of_none (h.mark (m := '\x7b') rfl (by decide)))⟩

theorem ClauseAt.typeOnly (h : ClauseAt src names c next) (rule : Rule) :
    Script.typeOnly rule src c = rule src c := by
  cases h with
  | default name => exact typeOnly_of_name name.toNameAt name.entry.notMem_typeOnly rule
  | both name => exact typeOnly_of_name name.toNameAt name.entry.notMem_typeOnly rule
  | bindings bindings =>
      refine typeOnly_of_clear ?_ rule
      cases bindings with
      | everything star => exact .of_next (star.next?_eq (by decide)) (by decide)
      | named braces =>
          obtain ⟨_, opening, -⟩ := braces.stands
          exact .of_next (opening.next?_eq (by decide)) (by decide)

theorem ClauseAt.reads (h : ClauseAt src names c next) (ends : Clear [','] src next.here) :
    ∃ tree, importClause src c = some ([tree], next) ∧ tree.kind = .importClause ∧
      tree.role = .plain ∧ clauseSymbols src tree = names := by
  cases h with
  | default name =>
      obtain ⟨star, list⟩ := bindings_of_clear (name.clear (by decide))
      have none : opt (all [comma, any [namespaceImport, namedImports]]) src next =
          some ([], next) :=
        opt_of_none (all_of_none (ends.mark rfl (by decide)))
      have read : importClause src c = some (_, next) :=
        node_of_read ((any_of_none star).trans ((any_of_none list).trans
          (any_of_read (all_of_read name.identifier (all_of_read none all_nil)))))
      exact ⟨_, read, rfl, rfl, rfl⟩
  | bindings bindings =>
      obtain ⟨tree, read, symbols⟩ := bindings.reads
      have clause : importClause src c = some (_, next) :=
        node_of_read (any_append_of_read read _)
      exact ⟨_, clause, rfl, rfl, symbols _ _ _ _⟩
  | both name mark bindings =>
      obtain ⟨star, list⟩ := bindings_of_clear (name.clear (by decide))
      obtain ⟨tree, read, symbols⟩ := bindings.reads
      have more := opt_of_read (all_of_read mark.mark (all_of_read read all_nil))
      have clause : importClause src c = some (_, next) :=
        node_of_read ((any_of_none star).trans ((any_of_none list).trans
          (any_of_read (all_of_read name.identifier (all_of_read more all_nil)))))
      refine ⟨_, clause, rfl, rfl, ?_⟩
      exact congrArg ("default" :: ·) (symbols .importClause .plain c.here next.past)

/-! ## Ends of statements in trees -/

theorem filter_isNamed_of_spells {trees : List Tree} (h : ∀ tree ∈ trees, tree.Spells src text) :
    trees.filter Tree.isNamed = [] := by
  refine List.filter_eq_nil_iff.mpr fun tree member => ?_
  simp [Tree.isNamed, (h tree member).kind]

theorem find?_of_spells {trees : List Tree} (h : ∀ tree ∈ trees, tree.Spells src text)
    (hp : part ≠ .plain) : (trees.find? fun tree => tree.role == part) = none := by
  refine List.find?_eq_none.mpr fun tree member same => ?_
  rw [(h tree member).role] at same
  exact hp (eq_of_beq same).symm

/-- A string between its quotes. -/
theorem unquoted_quoted {quote : String} (h : quote ∈ ["\x22", "\x27"]) (inner : String) :
    unquoted (quote ++ inner ++ quote) = inner := by
  have step (mark : Char) (known : ['\x22', '\x27', '\x60'].contains mark = true)
      (hq : quote.toList = [mark]) : unquoted (quote ++ inner ++ quote) = inner := by
    have split : (quote ++ inner ++ quote).toList = mark :: (inner.toList ++ [mark]) := by
      simp [hq]
    rw [unquoted, split]
    simp only [known, List.getLast?_concat, beq_self_eq_true, Bool.and_self, if_true,
      List.dropLast_concat, String.ofList_toList]
  rcases List.mem_pair.mp h with rfl | rfl
  · exact step '\x22' (by decide) rfl
  · exact step '\x27' (by decide) rfl

theorem StringAt.unquoted (h : StringAt src text c next) :
    Script.unquoted (src.slice c.here (c.here + (text.length + 2))) = text := by
  obtain ⟨quote, member, same⟩ := h.slice_eq
  rw [same, unquoted_quoted member]

/-! ## Imports -/

theorem attributes_of_end (g : Grammar) (h : EndsAt src c next) :
    opt (all [words ["with", "assert"], object g]) src c = some ([], c) :=
  opt_of_none (all_of_none (h.words (by decide)))

/-- An import with a clause is read, with the names that the clause takes. -/
theorem reads_importFrom (g : Grammar) {specifier : String} {clause source place close : Cursor}
    (keyword : NameAt src "import" c clause) (names_ : ClauseAt src names clause source)
    (origin : NameAt src "from" source place) (stands : StringAt src specifier place close)
    (ends : EndsAt src close next) :
    ∃ tree, importStatement g src c = some ([tree], next) ∧ tree.kind = .importStatement ∧
      importOf src tree = { imports := [⟨specifier, names⟩] } := by
  obtain ⟨tree, read, kind, plain, symbols⟩ := names_.reads (origin.clear (by decide))
  obtain ⟨semicolons, closed, spelled⟩ := ends.read false
  have from_ : Script.origin src source = some (_, close) :=
    all_of_read (origin.word_self (by decide)) (all_of_read (role_of_read stands.string) all_nil)
  have inner : any [all [importClause, Script.origin], importRequireClause, role .source string]
      src clause = some (_, close) :=
    any_of_read (all_of_read read (all_of_read from_ all_nil))
  have statement : importStatement g src c = some (_, next) :=
    node_of_read (all_of_read (keyword.word_self (by decide))
      (all_of_read ((names_.typeOnly _).trans inner)
        (all_of_read (attributes_of_end g ends) (all_of_read closed all_nil))))
  refine ⟨_, statement, rfl, ?_⟩
  simp [importOf, importPart, Tree.namedChildren, Tree.child?, Tree.isNamed, kind, plain, symbols,
    filter_isNamed_of_spells spelled, stands.unquoted]

/-- An import without a clause is read. -/
theorem reads_importPlain (g : Grammar) {specifier : String} {place close : Cursor}
    (keyword : NameAt src "import" c place) (stands : StringAt src specifier place close)
    (ends : EndsAt src close next) :
    ∃ tree, importStatement g src c = some ([tree], next) ∧ tree.kind = .importStatement ∧
      importOf src tree = { imports := [⟨specifier, []⟩] } := by
  obtain ⟨semicolons, closed, spelled⟩ := ends.read false
  obtain ⟨star, list⟩ := bindings_of_clear (stands.clear (by decide))
  have name : identifier src place = none := by
    simp [identifier, variableName?, stands.name?_eq_none]
  have clause : importClause src place = none := by
    refine node_of_none ?_
    rw [any_of_none star, any_of_none list, any_of_none (all_of_none name), any_nil]
  have required : importRequireClause src place = none :=
    typed_of_none (node_of_none (all_of_none name))
  have inner : any [all [importClause, Script.origin], importRequireClause, role .source string]
      src place = some (_, close) :=
    (any_of_none (all_of_none clause)).trans ((any_of_none required).trans
      (any_of_read (role_of_read stands.string)))
  have statement : importStatement g src c = some (_, next) :=
    node_of_read (all_of_read (keyword.word_self (by decide))
      (all_of_read ((typeOnly_of_clear (stands.clear (by decide)) _).trans inner)
        (all_of_read (attributes_of_end g ends) (all_of_read closed all_nil))))
  refine ⟨_, statement, rfl, ?_⟩
  simp [importOf, importPart, Tree.namedChildren, Tree.child?, Tree.isNamed,
    filter_isNamed_of_spells spelled, stands.unquoted]

/-! ## Export lists -/

theorem any_mark_of_spells {trees : List Tree} {other : String}
    (h : ∀ tree ∈ trees, tree.Spells src text) (ne : text ≠ other) :
    (trees.any fun tree => tree.kind == .mark && src.text tree == other) = false := by
  refine List.any_eq_false.mpr fun tree member => ?_
  simp [(h tree member).text, ne]

/-- Everything of another module, under a name. -/
theorem reads_exportAllAs (g : Grammar) {name specifier : String}
    {star as place source literal close : Cursor} (keyword : NameAt src "export" c star)
    (mark : MarkAt src "*" star as) (as_ : NameAt src "as" as place)
    (stands : EntryAt src name place source) (origin : NameAt src "from" source literal)
    (taken : StringAt src specifier literal close) (ends : EndsAt src close next) :
    ∃ tree, exportStatement g src c = some ([tree], next) ∧ tree.kind = .exportStatement ∧
      exportOf src tree = { exports := [name], reexports := [⟨specifier, ["*"]⟩] } := by
  obtain ⟨semicolons, closed, spelled⟩ := ends.read false
  obtain ⟨kind, named, read⟩ := stands.exportedName
  have space : namespaceExport src star = some (_, source) :=
    node_of_read (all_of_read mark.mark (all_of_read (as_.word_self (by decide))
      (all_of_read read all_nil)))
  have from_ : Script.origin src source = some (_, close) :=
    all_of_read (origin.word_self (by decide)) (all_of_read (role_of_read taken.string) all_nil)
  have statement : exportStatement g src c = some (_, next) :=
    node_of_read (any_of_read (all_of_read (keyword.word_self (by decide))
      (all_of_read space (all_of_read from_ (all_of_read closed all_nil)))))
  refine ⟨_, statement, rfl, ?_⟩
  simp [exportOf, exportList, exportedNames_eq, Tree.namedChildren, List.filter_cons, Tree.child?,
    Tree.isNamed, filter_isNamed_of_spells spelled, taken.unquoted, hasMark,
    any_mark_of_spells spelled, slice_of_has keyword.has, slice_of_has origin.has,
    find?_of_spells spelled, givenBy, takenBy, named, slice_of_has stands.has]

/-- A list of names, with or without a source. -/
theorem reads_exportList (g : Grammar) {items : List (String × String)} {braces source : Cursor}
    {back : List Tree} {close : Cursor} (keyword : NameAt src "export" c braces)
    (stands : BracesAt src (ExportItemAt src) items braces source)
    (origin : opt Script.origin src source = some (back, close)) (ends : EndsAt src close next) :
    ∃ trees semicolons, exportStatement g src c = some ([.node .exportStatement .plain c.here
        next.past (.leaf .mark c.here (c.here + "export".length) ::
          .node .exportClause .plain braces.here source.past trees ::
            (back ++ semicolons))], next) ∧
      toldItems .exportSpecifier (givenNames src) trees = items ∧
      ∀ tree ∈ semicolons, tree.Spells src ";" := by
  obtain ⟨semicolons, closed, spelled⟩ := ends.read false
  obtain ⟨trees, list, told⟩ := stands.reads readsItems_export
  obtain ⟨_, opening, -⟩ := stands.stands
  have read := keyword.word_self (by decide)
  have clear : Clear ['*', 't'] src braces.here :=
    .of_next (opening.next?_eq (by decide)) (by decide)
  have star : mark "*" src braces = none := clear.mark rfl (by decide)
  have type : typed (word "type") src braces = none :=
    typed_of_none (word_of_next rfl (clear 't' (by decide)))
  have clause : optionally (typed (word "type")) exportClause src braces = some (_, source) :=
    (optionally_of_none type).trans (node_of_read list)
  have statement : exportStatement g src c = some (_, next) :=
    node_of_read ((any_of_none (all_of_read_none read (all_of_none
      (node_of_none (all_of_none star))))).trans ((any_of_none (all_of_read_none read
        (all_of_none star))).trans (any_of_read (all_of_read read (all_of_read clause
          (all_of_read origin (all_of_read closed all_nil)))))))
  refine ⟨trees, semicolons, ?_, told, spelled⟩
  simpa using statement

theorem reads_exportNames (g : Grammar) {items : List (String × String)} {braces close : Cursor}
    (keyword : NameAt src "export" c braces)
    (stands : BracesAt src (ExportItemAt src) items braces close) (ends : EndsAt src close next) :
    ∃ tree, exportStatement g src c = some ([tree], next) ∧ tree.kind = .exportStatement ∧
      exportOf src tree = { exports := items.map (·.1) } := by
  have origin : opt Script.origin src close = some ([], close) :=
    opt_of_none (all_of_none (ends.word (by decide) (by decide)))
  obtain ⟨trees, semicolons, statement, told, spelled⟩ :=
    reads_exportList g keyword stands origin ends
  have given :
      exportedItems src (.node .exportClause .plain braces.here close.past trees) = items :=
    told
  refine ⟨_, statement, rfl, ?_⟩
  simp [exportOf, exportList, exportedNames_eq, Tree.namedChildren, List.filter_cons, Tree.child?,
    Tree.isNamed, filter_isNamed_of_spells spelled, hasMark, any_mark_of_spells spelled,
    slice_of_has keyword.has, find?_of_spells spelled, givenBy, given]

theorem reads_exportNamesFrom (g : Grammar) {items : List (String × String)} {specifier : String}
    {braces source literal close : Cursor} (keyword : NameAt src "export" c braces)
    (stands : BracesAt src (ExportItemAt src) items braces source)
    (origin : NameAt src "from" source literal) (taken : StringAt src specifier literal close)
    (ends : EndsAt src close next) :
    ∃ tree, exportStatement g src c = some ([tree], next) ∧ tree.kind = .exportStatement ∧
      exportOf src tree =
        { exports := items.map (·.1), reexports := [⟨specifier, items.map (·.2)⟩] } := by
  have from_ : Script.origin src source = some (_, close) :=
    all_of_read (origin.word_self (by decide)) (all_of_read (role_of_read taken.string) all_nil)
  obtain ⟨trees, semicolons, statement, told, spelled⟩ :=
    reads_exportList g keyword stands (opt_of_read from_) ends
  have given :
      exportedItems src (.node .exportClause .plain braces.here source.past trees) = items :=
    told
  refine ⟨_, statement, rfl, ?_⟩
  simp [exportOf, exportList, exportedNames_eq, Tree.namedChildren, List.filter_cons, Tree.child?,
    Tree.isNamed, filter_isNamed_of_spells spelled, hasMark, any_mark_of_spells spelled,
    find?_of_spells spelled, slice_of_has keyword.has, slice_of_has origin.has, taken.unquoted,
    givenBy, takenBy, given]

/-- Everything of another module. -/
theorem reads_exportAll (g : Grammar) {specifier : String} {star source literal close : Cursor}
    (keyword : NameAt src "export" c star) (mark : MarkAt src "*" star source)
    (origin : NameAt src "from" source literal) (taken : StringAt src specifier literal close)
    (ends : EndsAt src close next) :
    ∃ tree, exportStatement g src c = some ([tree], next) ∧ tree.kind = .exportStatement ∧
      exportOf src tree = { reexports := [⟨specifier, ["*"]⟩] } := by
  obtain ⟨semicolons, closed, spelled⟩ := ends.read false
  have read := keyword.word_self (by decide)
  have space : namespaceExport src star = none :=
    node_of_none (all_of_read_none mark.mark
      (all_of_none (origin.word_of_ne (by decide) (by decide))))
  have from_ : Script.origin src source = some (_, close) :=
    all_of_read (origin.word_self (by decide)) (all_of_read (role_of_read taken.string) all_nil)
  have statement : exportStatement g src c = some (_, next) :=
    node_of_read ((any_of_none (all_of_read_none read (all_of_none space))).trans
      (any_of_read (all_of_read read (all_of_read mark.mark (all_of_read from_
        (all_of_read closed all_nil))))))
  refine ⟨_, statement, rfl, ?_⟩
  simp [exportOf, exportList, exportedNames_eq, Tree.namedChildren, Tree.child?,
    Tree.isNamed, filter_isNamed_of_spells spelled, hasMark, any_mark_of_spells spelled,
    find?_of_spells spelled, slice_of_has keyword.has, slice_of_has origin.has,
    slice_of_has mark.has, taken.unquoted, givenBy, takenBy]

end CommitLens.Script
