import CommitLens.Proofs.Script.Rule
import Mathlib.Data.Option.Basic

/-!
# What the grammar builds

Every production meets the conditions on trees if the rules for nested syntax do, and so
does the grammar of every depth.
-/

namespace CommitLens.Script

open Text Source Script.Rule

/-- The rules for nested syntax build good trees, none of which is looked up for its text. -/
class Grammar.Sound (g : Grammar) : Prop where
  expression : ∀ accepts, g.expression.Gives accepts
  chain : ∀ accepts, g.chain.Gives accepts
  primary : ∀ accepts, g.primary.Gives accepts
  pattern : ∀ accepts, g.pattern.Gives accepts
  statement : ∀ accepts, g.statement.Gives accepts
  type : ∀ accepts, g.type.Gives accepts
  element : ∀ accepts, g.element.Gives accepts

variable {accepts : String → Prop} {g : Grammar} [sound : g.Sound]

instance : g.expression.Gives accepts := sound.expression accepts
instance : g.chain.Gives accepts := sound.chain accepts
instance : g.primary.Gives accepts := sound.primary accepts
instance : g.pattern.Gives accepts := sound.pattern accepts
instance : g.statement.Gives accepts := sound.statement accepts
instance : g.type.Gives accepts := sound.type accepts
instance : g.element.Gives accepts := sound.element accepts

/-! ## Names of members and patterns -/

instance : (computedName g).Gives accepts := .node rfl

instance : (propertyName g).Gives accepts := by
  unfold propertyName
  infer_instance

instance : (initializer g).Gives accepts := by
  unfold initializer
  infer_instance

instance : (shorthandBinding g).Gives accepts := by
  unfold shorthandBinding
  infer_instance

instance : (restPattern g).Gives accepts := .node rfl

instance : (boundPattern g).Gives accepts := by
  unfold boundPattern
  infer_instance

instance : (pairPattern g).Gives accepts := .node rfl

instance : (destructuring g).Gives accepts := by
  unfold destructuring
  infer_instance

instance : (place g).Gives accepts := by
  unfold place
  infer_instance

instance : (patternRule g).Gives accepts := by
  unfold patternRule
  infer_instance

/-! ## Type parameters and arguments -/

instance : (typeArguments g).Gives accepts := .node rfl

instance : (typeParameter g).Gives accepts := by
  unfold typeParameter
  infer_instance

instance : (typeParameters g).Gives accepts := .node rfl

instance : (typeMark g).Gives accepts := by
  unfold typeMark
  infer_instance

/-! ## Signatures -/

instance : (decorator g).Gives accepts := .node rfl

instance : (parameter g).Gives accepts := by
  unfold parameter
  infer_instance

instance : (parameters g).Gives accepts := .node rfl

instance : (typePredicate g).Gives accepts := by
  unfold typePredicate
  infer_instance

instance : (returnType g).Gives accepts := by
  unfold returnType
  infer_instance

instance : (returnMark g).Gives accepts := by
  unfold returnMark
  infer_instance

instance : (callSignature g).Gives accepts := by
  unfold callSignature
  infer_instance

/-! ## Members of object types -/

instance reads_computedName : (computedName g).Reads Computed where
  text {src c _ next} built tree member := by
    obtain ⟨inner, read, rfl⟩ := exists_of_node built
    obtain rfl := List.mem_singleton.mp member
    intro first rest (ht : (src.slice c.here next.past).toList = first :: rest)
    have opened : src.has c.here "[" = true := by
      obtain ⟨_, _, _, front, -⟩ := exists_of_all_cons read
      obtain ⟨stop, found, -⟩ := exists_of_token front
      by_contra closed
      exact absurd found (by simp [closed])
    have bracket : src.char (c.here + 0) = '[' := char_of_has opened (Nat.zero_lt_succ 0)
    have front : (src.slice c.here next.past).toList[0]? = some first := by
      rw [ht, List.getElem?_cons_zero]
    exact (getElem?_slice.mp front).2.2.symm.trans bracket

instance reads_propertyName : (propertyName g).Reads MemberName := by
  have name : anyName.Reads MemberName := reads_anyName.mono fun _ => .inl
  have hidden : privateName.Reads MemberName := reads_privateName.mono fun _ => .inl
  have quoted : string.Reads MemberName := reads_string.mono fun _ h => .inr (.inl h)
  have numeral : number.Reads MemberName := reads_number.mono fun _ => .inl
  have computed : (computedName g).Reads MemberName :=
    reads_computedName.mono fun _ h => .inr (.inr h)
  unfold propertyName
  infer_instance

instance methodHead_gives [Reads accepts (propertyName g)] : (methodHead g).Gives accepts := by
  unfold methodHead
  infer_instance


instance : (methodSignature g).Gives accepts := by
  have : Reads (Kind.Takes .methodSignature) (propertyName g) := reads_propertyName
  exact .nodeTaking rfl

instance : (propertySignature g).Gives accepts := by
  have : Reads (Kind.Takes .propertySignature) (propertyName g) := reads_propertyName
  exact .nodeTaking rfl

instance : (indexSignature g).Gives accepts := .node rfl

instance : (constructSignature g).Gives accepts := .node rfl

instance : (typeMember g).Gives accepts := by
  unfold typeMember
  infer_instance

instance : (memberEnd).Gives accepts := by
  unfold memberEnd
  infer_instance

instance : (typeMembers g).Gives accepts := by
  unfold typeMembers
  infer_instance

/-! ## Types -/

instance : (functionType g).Gives accepts := by
  unfold functionType
  infer_instance

instance : (constructorType g).Gives accepts := by
  unfold constructorType
  infer_instance

instance : (tupleItem g).Gives accepts := by
  unfold tupleItem
  infer_instance

instance : (typeQuery g).Gives accepts := by
  unfold typeQuery
  infer_instance

instance : (namedType g).Gives accepts := by
  unfold namedType
  infer_instance

instance {expressions : Rule} [expressions.Sound] :
    (templateRule expressions).Gives accepts := .node rfl

theorem gives_plainType_arrayType_unionType (fuel : Nat) :
    (plainType g fuel).Gives accepts ∧ (arrayType g fuel).Gives accepts ∧
      (unionType g fuel).Gives accepts := by
  induction fuel with
  | zero =>
      rw [plainType, arrayType, unionType]
      exact ⟨inferInstance, inferInstance, inferInstance⟩
  | succ fuel ih =>
      obtain ⟨plain, array, union⟩ := ih
      rw [plainType, arrayType, unionType]
      exact ⟨inferInstance, inferInstance, inferInstance⟩

instance (fuel : Nat) : (unionType g fuel).Gives accepts :=
  (gives_plainType_arrayType_unionType fuel).2.2

instance : (typeRule g).Gives accepts := by
  unfold typeRule
  infer_instance

/-! ## Functions and classes -/

instance : (block g).Gives accepts := .node rfl

instance : (arrowBody g).Gives accepts := by
  unfold arrowBody
  infer_instance

instance : (functionExpression g).Gives accepts := .node rfl

instance : (methodDefinition g).Gives accepts := .node rfl

instance : (field g).Gives accepts := by
  unfold field
  dsimp only
  infer_instance

instance : (classMember g).Gives accepts := by
  unfold classMember
  infer_instance

instance : (classBody g).Gives accepts := by
  unfold classBody
  infer_instance

instance : (extendsClause g).Gives accepts := .node rfl

instance : (implementsClause g).Gives accepts := .node rfl

instance : (classHeritage g).Gives accepts := .node rfl

instance : (classRest g).Gives accepts := by
  unfold classRest
  infer_instance

instance : (classExpression g).Gives accepts := .node rfl

/-! ## Markup -/

instance : markupName.Gives accepts := by
  have : Gives accepts (token .identifier dashedName?) :=
    .token (by decide) (by decide) fun _ => onOneLine_dashedName?
  unfold markupName
  infer_instance

instance : (markupExpression g).Gives accepts := .node rfl

instance : (markupAttribute g).Gives accepts := by
  unfold markupAttribute
  infer_instance

instance : (markupChild g).Gives accepts := by
  unfold markupChild
  infer_instance

instance : (elementRule g).Gives accepts := .node rfl

/-! ## Parts of a chain -/

instance {choices : List String} : (operator choices).Gives accepts := gives_token_mark

instance : (binaryOperator).Gives accepts := by
  unfold binaryOperator
  infer_instance

instance : choiceMark.Gives accepts := gives_token_mark

instance : skipMarkupComments.Gives accepts where
  part h := by
    cases h
    exact fun _ member => nomatch member

instance : (spread g).Gives accepts := .node rfl

instance : (expressions g).Gives accepts := by
  unfold expressions
  infer_instance

instance : (template g).Gives accepts := by
  unfold template
  infer_instance

instance : (arguments g).Gives accepts := .node rfl

instance : (subscript g).Gives accepts := by
  unfold subscript
  infer_instance

instance : (memberName).Gives accepts := by
  unfold memberName
  infer_instance

instance : optionalMark.Gives accepts := gives_token_mark

instance : (valueTypeArguments g).Gives accepts := by
  unfold valueTypeArguments
  infer_instance

theorem free_accessTails :
    ∀ entry ∈ accessTails g, entry.1.isFree = true ∧ entry.2.Sound := by
  simp only [accessTails, List.forall_mem_cons]
  exact ⟨⟨rfl, inferInstance⟩, ⟨rfl, inferInstance⟩, ⟨rfl, inferInstance⟩,
    ⟨rfl, inferInstance⟩, fun _ h => nomatch h⟩

theorem free_callTails :
    ∀ entry ∈ callTails g, entry.1.isFree = true ∧ entry.2.Sound := by
  simp only [callTails, List.forall_mem_cons]
  exact ⟨⟨rfl, inferInstance⟩, ⟨rfl, inferInstance⟩, ⟨rfl, inferInstance⟩,
    ⟨rfl, inferInstance⟩, fun _ h => nomatch h⟩

/-! ## Operands -/

instance {inChoice : Bool} : (parenthesized g inChoice).Gives accepts where
  part h := by
    have returns :
        (if inChoice then nothing else opt (typed (returnMark g))).Sound := by
      split <;> infer_instance
    have grouped : (node .parenthesized (all [mark "(", expressions g, mark ")"])).Gives accepts :=
      .node rfl
    have function : (node .otherExpression (all [parameters g,
        if inChoice then nothing else opt (typed (returnMark g)), mark "=>", arrowBody g])).Gives
          accepts := .node rfl
    unfold parenthesized at h
    dsimp only at h
    split at h
    · exact function.part h
    · rename_i found
      split at h
      · rcases (Option.orElse_eq_some _ _ _).mp h with h | ⟨-, h⟩
        · exact function.part h
        · exact grouped.part (found.trans h)
      · exact grouped.part (found.trans h)

instance : (genericFunction g).Gives accepts := by
  unfold genericFunction
  infer_instance

instance : (nameFunction g).Gives accepts := .node rfl

instance : (asyncFunction g).Gives accepts := .node rfl

instance : (creation g).Gives accepts := by
  have : (extend g.primary (accessTails g)).Sound := .extend free_accessTails
  exact .node rfl

instance : importValue.Gives accepts := .node rfl

instance : (objectMember g).Gives accepts := by
  unfold objectMember
  infer_instance

instance : (object g).Gives accepts := .node rfl

instance : (array g).Gives accepts := .node rfl

instance : (privateProbe).Gives accepts := by
  unfold privateProbe
  infer_instance

instance : (namespaceBlock g).Gives accepts := by
  have : (node .moduleDeclaration (all [words ["namespace", "module"], onSameLine,
    role .name (any [string, group .member (sepBy1 (mark ".") identifier)]), block g])).Gives
      accepts := .node rfl
  unfold namespaceBlock
  infer_instance

instance {inChoice : Bool} : (primaryRule g inChoice).Gives accepts := by
  unfold primaryRule
  infer_instance

instance {inChoice : Bool} : (chainRule g inChoice).Gives accepts :=
  .extend fun entry member => (List.mem_append.mp member).elim
    (free_accessTails entry) (free_callTails entry)

instance : (leftOperator g).Gives accepts := by
  unfold leftOperator
  infer_instance

instance : (yielded g).Gives accepts := .node rfl

instance : (destructuringAssignment g).Gives accepts := .node rfl

/-- What was read before goes under a node with what a rule reads next. -/
theorem part_under {src : Source} {kind : Kind} (hk : kind.isFree = true) {before : List Tree}
    (good : ∀ tree ∈ before, tree.Good src) {rest : Rule} [inside : rest.Sound] {start : Nat}
    {next last : Cursor} {built : List Tree}
    (h : (rest src next).map (fun (more, last) =>
      ([.node kind .plain start last.past (before ++ more)], last)) = some (built, last)) :
    ∀ tree ∈ built, tree.Part accepts src := by
  obtain ⟨⟨more, past⟩, read, same⟩ := Option.map_eq_some_iff.mp h
  cases same
  intro tree member
  obtain rfl := List.mem_singleton.mp member
  refine ⟨Tree.good_node (kind.isInner_of_isFree hk)
    (fun _ _ _ => kind.takes_of_isFree hk _) fun tree added => ?_, fun h => nomatch h⟩
  rcases List.mem_append.mp added with added | added
  · exact good tree added
  · exact (inside.part read tree added).good

instance {inChoice : Bool} : (assigned g inChoice).Gives accepts where
  part {src c built last} h := by
    have assignment : (destructuringAssignment g).Gives accepts := inferInstance
    unfold assigned at h
    split at h
    · exact assignment.part h
    · rename_i trees next chain
      have start : ∀ tree ∈ trees, tree.Part accepts src :=
        (inferInstance : (chainRule g inChoice).Gives accepts).part chain
      have good : ∀ tree ∈ trees, tree.Good src := fun tree member => (start tree member).good
      have lefts : ∀ tree ∈ trees.map (Tree.withRole .left), tree.Good src := by
        intro tree member
        obtain ⟨before, hb, rfl⟩ := List.mem_map.mp member
        exact (good before hb).withRole .left
      dsimp only at h
      rcases (Option.orElse_eq_some _ _ _).mp h with h | ⟨-, h⟩
      · split at h
        · rcases (Option.orElse_eq_some _ _ _).mp h with h | ⟨-, h⟩
          · exact part_under rfl lefts h
          · rcases (Option.orElse_eq_some _ _ _).mp h with h | ⟨-, h⟩
            · exact part_under rfl good h
            · exact part_under rfl good h
        · split at h
          · split at h
            · exact assignment.part h
            · contradiction
          · contradiction
      · cases h
        exact start

instance {inChoice : Bool} : (operand g inChoice).Gives accepts := by
  unfold operand
  infer_instance

/-! ## Rows of operands -/

instance : (typeTail g).Gives accepts := by
  unfold typeTail
  infer_instance

instance {inChoice : Bool} : (binaryRow g inChoice).Gives accepts := by
  unfold binaryRow
  infer_instance

instance : (choiceTail g).Gives accepts := by
  unfold choiceTail
  infer_instance

instance : (expressionRule g).Gives accepts := by
  unfold expressionRule
  infer_instance

/-! ## Declarations -/

instance : (declarator g).Gives accepts := .node rfl

instance {rule : Rule} [inside : rule.Gives accepts] : (afterDeclarators rule).Gives accepts where
  part h := by
    obtain ⟨⟨trees, next⟩, front, h⟩ := Option.bind_eq_some_iff.mp h
    obtain ⟨⟨more, last⟩, back, h⟩ := Option.bind_eq_some_iff.mp h
    cases h
    intro tree member
    rcases List.mem_append.mp member with member | member
    · exact inside.part front tree member
    · exact gives_semicolon.part back tree member

instance {text : String} : (openingWord text).Gives accepts := by
  unfold openingWord
  infer_instance

section Opening

variable {opening : String → Rule}
  [∀ (text : String) (accepts : String → Prop), (opening text).Gives accepts]

instance : (lexicalDeclaration opening g).Gives accepts := .node rfl

instance : (variableDeclaration g).Gives accepts := .node rfl

instance : (usingDeclaration g).Gives accepts := by
  have : (node .otherStatement (afterDeclarators (all [opt (word "await"), word "using",
    onSameLine, sepBy1 comma (declarator g)]))).Gives accepts := .node rfl
  unfold usingDeclaration
  infer_instance

instance [identifier.Reads accepts] : (functionHead g).Gives accepts := by
  unfold functionHead
  infer_instance

instance : (functionDeclaration g).Gives accepts := by
  have : identifier.Reads (Kind.Takes .functionDeclaration) := reads_identifier
  exact .nodeTaking rfl

instance : (classDeclaration g).Gives accepts := by
  have : typeName.Reads (Kind.Takes .classDeclaration) := reads_typeName
  exact .nodeTaking rfl

instance : (interfaceDeclaration g).Gives accepts := by
  have name : typeName.Reads (Kind.Takes .interfaceDeclaration) := reads_typeName
  have body : (node .interfaceBody (typeMembers g)).Sound := .node rfl
  exact .nodeTaking rfl

instance : (enumItem g).Gives accepts := by
  unfold enumItem
  infer_instance

instance : (enumDeclaration g).Gives accepts := by
  have : identifier.Reads (Kind.Takes .enumDeclaration) := reads_identifier
  exact .nodeTaking rfl

instance : (typeAliasDeclaration opening g).Gives accepts := by
  have : typeName.Reads (Kind.Takes .typeAliasDeclaration) := reads_typeName
  exact .nodeTaking rfl

instance : (moduleDeclaration opening g).Gives accepts := .node rfl

instance : importAlias.Gives accepts := .node rfl

instance : (typedDeclaration opening g).Gives accepts := by
  unfold typedDeclaration
  infer_instance

instance : (declarationRule opening g).Gives accepts := by
  unfold declarationRule
  infer_instance

instance : (ambientDeclaration opening g).Gives accepts := by
  have : (node .ambientDeclaration (all [opening "declare", any [declarationRule word g,
      all [word "global", block g],
      all [word "module", mark ".", anyName, mark ":", g.type, semicolon false]]])).Gives
        accepts := .node rfl
  unfold ambientDeclaration
  infer_instance

instance : (declaration opening g).Gives accepts := by
  unfold declaration
  infer_instance

end Opening

/-! ## Imports -/

instance : (exportedName).Gives accepts := by
  unfold exportedName
  infer_instance

instance reads_exportedName : exportedName.Reads ExportName := by
  have variable_ : identifier.Reads ExportName := reads_identifier.mono fun _ => .inl
  have quoted : string.Reads ExportName := reads_string.mono fun _ => .inr
  have name : anyName.Reads ExportName := reads_anyName.mono fun _ => .inl
  unfold exportedName
  infer_instance

instance [string.Reads accepts] : origin.Gives accepts := by
  unfold origin
  infer_instance

instance {rule : Rule} [rule.Gives accepts] : (typeOnly rule).Gives accepts := by
  unfold typeOnly
  infer_instance

instance : itemEnd.Gives accepts := gives_ahead

instance : importSpecifier.Gives accepts := .node rfl

instance : namedImports.Gives accepts := .node rfl

instance : namespaceImport.Gives accepts := .node rfl

instance : importClause.Gives accepts := .node rfl

instance : importRequireClause.Gives accepts := by
  have : string.Reads (Kind.Takes .importRequireClause) := reads_string
  have : (node .importRequireClause (all [identifier, equalsMark, word "require", mark "(",
    role .source string, mark ")"])).Gives accepts := .nodeTaking rfl
  unfold importRequireClause
  infer_instance

instance : (importStatement g).Gives accepts := by
  have : string.Reads (Kind.Takes .importStatement) := reads_string
  exact .nodeTaking rfl

/-! ## Exports -/

instance : exportSpecifier.Gives accepts := by
  have : exportedName.Reads (Kind.Takes .exportSpecifier) := reads_exportedName
  exact .nodeTaking rfl

instance : exportClause.Gives accepts := .node rfl

theorem exists_of_exportedName {src : Source} {c next : Cursor} {trees : List Tree}
    (h : exportedName src c = some (trees, next)) :
    ∃ tree, trees = [tree] ∧ tree.isNamed = true := by
  rcases or_of_any_cons h with h | h
  · obtain ⟨kind, stop, -, rfl, rfl | rfl⟩ := exists_of_identifier h
    · exact ⟨_, rfl, rfl⟩
    · exact ⟨_, rfl, rfl⟩
  rcases or_of_any_cons h with h | h
  · obtain ⟨stop, -, rfl⟩ := exists_of_token h
    exact ⟨_, rfl, rfl⟩
  rcases or_of_any_cons h with h | h
  · obtain ⟨stop, -, rfl⟩ := exists_of_token h
    exact ⟨_, rfl, rfl⟩
  · contradiction

/-- The name stands last, behind two marks. -/
instance : namespaceExport.Gives accepts where
  part built tree member := by
    obtain ⟨inner, read, rfl⟩ := exists_of_node built
    obtain rfl := List.mem_singleton.mp member
    have parts : (all [mark "*", word "as", exportedName]).Sound := inferInstance
    refine ⟨Tree.good_iff.mpr ⟨⟨(fun h => nomatch h), fun h => ?_, fun _ _ _ => trivial,
      fun _ => ?_⟩, fun child hc => (parts.part read child hc).good⟩, fun h => nomatch h⟩
    · rcases h with h | h <;> contradiction
    · obtain ⟨star, _, rest, -, behindStar, rfl⟩ := exists_of_all_cons read
      obtain ⟨word, _, rest, -, behindWord, rfl⟩ := exists_of_all_cons behindStar
      obtain ⟨names, _, rest, last, none, rfl⟩ := exists_of_all_cons behindWord
      cases none
      obtain ⟨name, rfl, named⟩ := exists_of_exportedName last
      refine ⟨name, ?_, named, reads_exportedName.text last name List.mem_cons_self⟩
      simp [Tree.children]

instance : (exportStatement g).Gives accepts := .node rfl

/-! ## Other statements -/

instance : (condition g).Gives accepts := by
  unfold condition
  infer_instance

instance : (eachHead g).Gives accepts := by
  unfold eachHead
  infer_instance

instance : (countHead g).Gives accepts := by
  unfold countHead
  infer_instance

instance : (forStatement g).Gives accepts := by
  unfold forStatement
  infer_instance

instance : (ifStatement g).Gives accepts := by
  unfold ifStatement
  infer_instance

instance : (whileStatement g).Gives accepts := by
  unfold whileStatement
  infer_instance

instance : (doStatement g).Gives accepts := by
  unfold doStatement
  infer_instance

instance : (switchCase g).Gives accepts := by
  unfold switchCase
  infer_instance

instance : (switchStatement g).Gives accepts := by
  unfold switchStatement
  infer_instance

instance : (tryStatement g).Gives accepts := by
  unfold tryStatement
  infer_instance

instance : (jumpStatement).Gives accepts := by
  unfold jumpStatement
  infer_instance

instance : (returnStatement g).Gives accepts := by
  unfold returnStatement
  infer_instance

instance : (labeledStatement g).Gives accepts := by
  unfold labeledStatement
  infer_instance

instance : (otherStatement g).Gives accepts := .node rfl

instance : (exportAssignment g).Gives accepts := by
  have : (node .assignment (all [role .left (word "export"), equalsMark, g.expression])).Gives
    accepts := .node rfl
  unfold exportAssignment
  infer_instance

instance : (expressionStatement g).Gives accepts := .node rfl

instance : (blockStatement g).Gives accepts := by
  unfold blockStatement
  infer_instance

instance : (statementRule g).Gives accepts := by
  unfold statementRule
  infer_instance

/-! ## The grammar of every depth -/

instance : g.next.Sound where
  expression _ := (inferInstance : (expressionRule g).Gives _)
  chain _ := (inferInstance : (chainRule g false).Gives _)
  primary _ := (inferInstance : (primaryRule g false).Gives _)
  pattern _ := (inferInstance : (patternRule g).Gives _)
  statement _ := (inferInstance : (statementRule g).Gives _)
  type _ := (inferInstance : (typeRule g).Gives _)
  element _ := (inferInstance : (elementRule g).Gives _)

instance : Grammar.empty.Sound where
  expression _ := gives_fail
  chain _ := gives_fail
  primary _ := gives_fail
  pattern _ := gives_fail
  statement _ := gives_fail
  type _ := gives_fail
  element _ := gives_fail

instance sound_ofDepth (depth : Nat) : (Grammar.ofDepth depth).Sound := by
  induction depth with
  | zero => exact (inferInstance : Grammar.empty.Sound)
  | succ depth ih => exact (inferInstance : (Grammar.ofDepth depth).next.Sound)

end CommitLens.Script
