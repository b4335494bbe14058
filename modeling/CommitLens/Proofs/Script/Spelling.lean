import CommitLens.Proofs.Script.Grammar
import CommitLens.Proofs.Surface.Spelling
import CommitLens.Script.Surface

/-!
# How scripts spell names

The conditions on trees say how the names of a script are spelled.  Main statement:
what a script declares has a name of one line; an export with a longer one is quoted, a
path of namespaces or the target of an assignment, and such a member is quoted or
computed.
-/

namespace CommitLens.Script

open Text Script.Rule

instance : LawfulBEq Kind where
  eq_of_beq {a b} h := by
    have same : a.ctorIdx = b.ctorIdx := of_decide_eq_true h
    rw [← Kind.ofNat_ctorIdx a, same, Kind.ofNat_ctorIdx]
  rfl {kind} := beq_self_eq_true kind.ctorIdx

deriving instance ReflBEq, LawfulBEq for Role

/-! ## Trees of programs -/

theorem Tree.induct {P : Tree → Prop}
    (step : ∀ tree, (∀ child ∈ tree.children, P child) → P tree) : ∀ tree, P tree
  | node kind role start stop children => step _ fun child member =>
      have smaller : SizeOf.sizeOf child < SizeOf.sizeOf (node kind role start stop children) := by
        have inside := List.sizeOf_lt_of_mem (show child ∈ children from member)
        simp only [node.sizeOf_spec]
        omega
      induct step child
termination_by tree => SizeOf.sizeOf tree
decreasing_by exact smaller

variable {src : Source} {tree : Tree}

@[simp] theorem kind_withComments : (withComments src tree).kind = tree.kind := by
  cases tree
  rw [withComments]
  rfl

@[simp] theorem role_withComments : (withComments src tree).role = tree.role := by
  cases tree
  rw [withComments]
  rfl

@[simp] theorem text_withComments : src.text (withComments src tree) = src.text tree := by
  cases tree
  rw [withComments]
  rfl

theorem children_withComments :
    (withComments src tree).children = weaveComments src none tree.children := by
  cases tree
  rw [withComments]
  rfl

theorem exists_of_mem_commentsOfGap {start stop : Nat} (h : tree ∈ commentsOfGap src start stop) :
    ∃ first past, tree = .leaf .comment first past := by
  unfold commentsOfGap at h
  generalize src.left start = fuel at h
  induction fuel generalizing start with
  | zero => contradiction
  | succ fuel ih =>
      rw [commentsOfGap.go] at h
      split at h
      · contradiction
      · split at h
        · rcases List.mem_cons.mp h with rfl | h
          · exact ⟨_, _, rfl⟩
          · exact ih h
        · contradiction

/-- A child is a comment that was put in, or it was there before. -/
theorem mem_weaveComments {before : Option Nat} {trees : List Tree}
    (h : tree ∈ weaveComments src before trees) :
    (∃ first past, tree = .leaf .comment first past) ∨
      ∃ child ∈ trees, tree = withComments src child := by
  induction trees generalizing before with
  | nil => simp [weaveComments] at h
  | cons child rest ih =>
      rw [weaveComments, List.mem_append, List.mem_cons] at h
      rcases h with comment | rfl | h
      · cases before with
        | none => contradiction
        | some stop => exact .inl (exists_of_mem_commentsOfGap comment)
      · exact .inr ⟨child, List.mem_cons_self, rfl⟩
      · refine (ih h).imp_right fun ⟨other, member, same⟩ => ?_
        exact ⟨other, List.mem_cons_of_mem child member, same⟩

theorem withComments_mem_weaveComments {before : Option Nat} {trees : List Tree}
    (h : tree ∈ trees) : withComments src tree ∈ weaveComments src before trees := by
  induction trees generalizing before with
  | nil => contradiction
  | cons child rest ih =>
      rw [weaveComments, List.mem_append, List.mem_cons]
      rcases List.mem_cons.mp h with rfl | later
      · exact .inr (.inl rfl)
      · exact .inr (.inr (ih later))

theorem getLast?_weaveComments (before : Option Nat) (trees : List Tree) :
    (weaveComments src before trees).getLast? = trees.getLast?.map (withComments src) := by
  induction trees generalizing before with
  | nil => simp [weaveComments]
  | cons child rest ih =>
      rw [weaveComments, List.getLast?_append, List.getLast?_cons, ih, List.getLast?_cons]
      cases rest.getLast? <;> rfl

theorem good_withComments (h : tree.Good src) : (withComments src tree).Good src := by
  induction tree using Tree.induct with
  | step tree ih =>
      obtain ⟨root, below⟩ := Tree.good_iff.mp h
      refine Tree.good_iff.mpr ⟨⟨?_, ?_, ?_, ?_⟩, ?_⟩
      · simpa using root.whole
      · simpa using root.binding
      · intro child member text
        rw [children_withComments] at member
        rcases mem_weaveComments member with ⟨first, past, rfl⟩ | ⟨before, hb, rfl⟩
        · contradiction
        · simpa using root.texts before hb (by simpa using text)
      · intro hk
        obtain ⟨last, hl, named, name⟩ := root.last (by simpa using hk)
        refine ⟨withComments src last, ?_, ?_, by simpa using name⟩
        · rw [children_withComments, getLast?_weaveComments, hl, Option.map_some]
        · simpa [Tree.isNamed] using named
      · intro child member
        rw [children_withComments] at member
        rcases mem_weaveComments member with ⟨first, past, rfl⟩ | ⟨before, hb, rfl⟩
        · exact Tree.good_leaf (by decide) (by decide) fun h => nomatch h
        · exact ih before hb (below before hb)

theorem good_statementsFrom (g : Grammar) [sound : g.Sound] (fuel : Nat) (c : Cursor) :
    ∀ tree ∈ statementsFrom g src fuel c, tree.kind ≠ .broken → tree.Good src := by
  induction fuel generalizing c with
  | zero => exact fun _ h => nomatch h
  | succ fuel ih =>
      intro tree h whole
      rw [statementsFrom] at h
      split at h
      · contradiction
      · split at h
        · contradiction
        · split at h
          · rename_i trees next read
            rcases List.mem_append.mp h with h | h
            · exact ((sound.statement fun _ => True).part read tree h).good
            · exact ih next tree h whole
          · obtain rfl := List.mem_singleton.mp h
            exact absurd rfl whole

theorem firstBrokenLine?_eq_none_iff :
    firstBrokenLine? src tree = none ↔ ∀ inner ∈ tree.nodes, inner.kind ≠ .broken := by
  simp [firstBrokenLine?, Tree.walk_singleton, Tree.isBroken]

/-- A text that fits the grammar has a good tree. -/
theorem good_parse (h : firstBrokenLine? src (parse src) = none) : (parse src).Good src := by
  rw [firstBrokenLine?_eq_none_iff] at h
  refine good_withComments (Tree.good_node rfl (fun _ _ _ => trivial) fun tree member => ?_)
  refine good_statementsFrom _ _ _ tree member fun broken => ?_
  have child : withComments src tree ∈ (parse src).children := by
    unfold parse
    rw [children_withComments]
    exact withComments_mem_weaveComments member
  have inside : withComments src tree ∈ (parse src).nodes := by
    rw [Tree.nodes_eq, List.mem_cons, Tree.mem_nodesOf]
    refine .inr ⟨withComments src tree, child, ?_⟩
    rw [Tree.nodes_eq]
    exact List.mem_cons_self
  exact h _ inside (by simpa using broken)

/-! ## Texts that are looked up -/

theorem mem_children_of_child? {role : Role} {child : Tree} (h : tree.child? role = some child) :
    child ∈ tree.children ∧ child.role = role :=
  ⟨List.mem_of_find?_eq_some h, by simpa using List.find?_some h⟩

/-- The text of a part is one that the node takes; without the part, there is none. -/
theorem Tree.Fits.textOf {role : Role} (h : tree.Fits src) (hr : role.isText = true) :
    textOf src (tree.child? role) = "" ∨ tree.kind.Takes (textOf src (tree.child? role)) := by
  cases hc : tree.child? role with
  | none => exact .inl rfl
  | some child =>
      obtain ⟨member, rfl⟩ := mem_children_of_child? hc
      exact .inr (h.texts child member hr)

theorem oneLine_empty : OneLine "" := by
  decide

/-- The variables of a pattern. -/
theorem oneLine_of_mem_boundNames (h : tree.Good src) {name : String}
    (hn : name ∈ boundNames src tree) : OneLine name := by
  obtain ⟨inner, hi, rfl⟩ := List.mem_map.mp hn
  obtain ⟨member, kind⟩ := List.mem_filter.mp hi
  rw [Tree.walk_singleton] at member
  exact (h inner member).binding (by simpa using kind)

/-! ## Declarations -/

/-- What an export of a program can be called: a name or a string in quotes, the path of
a namespace, or what is left of the target of an assignment. -/
inductive ExportSpelling (src : Source) (program : Tree) (name : String) : Prop
  | literal (spelled : ExportName name)
  | namespace (tree : Tree) (member : tree ∈ program.nodes) (kind : tree.kind = .moduleDeclaration)
      (spelled : name = textOf src (tree.child? .name))
  | target (tree : Tree) (member : tree ∈ program.nodes) (kind : tree.kind = .assignment)
      (spelled : name ∈ assignedExport (textOf src (tree.child? .left)))

/-- How the names of a program are spelled. -/
def spelling (src : Source) (program : Tree) : Spelling where
  exported := ExportSpelling src program
  member := MemberName
  imported := Continued

variable {program : Tree}

theorem Tree.nodes_subset_of_mem {child : Tree} (h : child ∈ tree.children) :
    child.nodes ⊆ tree.nodes := by
  intro inner hi
  rw [nodes_eq]
  exact List.mem_cons_of_mem tree (mem_nodesOf.mpr ⟨child, h, hi⟩)

theorem Tree.self_mem_nodes (tree : Tree) : tree ∈ tree.nodes := by
  rw [nodes_eq]
  exact List.mem_cons_self

/-- The bound names can be exported, and what is recorded of the declaration is spelled
as names are. -/
structure Declared.Spelled (src : Source) (program : Tree) (declared : Declared) : Prop where
  surface : declared.surface.Spelled (spelling src program)
  names : ∀ name ∈ declared.names, ExportSpelling src program name

theorem oneLine_name (h : tree.Fits src) (hk : tree.kind.Takes = OneLine) :
    OneLine (textOf src (tree.child? .name)) := by
  rcases h.textOf (show Role.name.isText from rfl) with none | name
  · rw [none]
    exact oneLine_empty
  · exact hk ▸ name

theorem spelled_memberOf? (h : tree.Good src) {member : InterfaceMember}
    (hm : memberOf? src tree = some member) : MemberName member.name := by
  unfold memberOf? at hm
  split at hm
  · rename_i kind
    dsimp only at hm
    split at hm
    · contradiction
    · rename_i notEmpty
      cases hm
      have takes : tree.kind.Takes = MemberName := by
        rcases (Bool.or_eq_true _ _).mp kind with kind | kind <;> rw [eq_of_beq kind] <;> rfl
      rcases (Tree.good_iff.mp h).1.textOf (show Role.name.isText from rfl) with none | name
      · rw [none] at notEmpty
        exact absurd rfl notEmpty
      · exact takes ▸ name
  · contradiction

theorem spelled_membersOf (h : tree.Good src) (hk : tree.kind = .interfaceDeclaration) :
    ∀ entry ∈ membersOf src tree, (spelling src program).Fits entry := by
  intro entry he
  unfold membersOf at he
  split at he
  · contradiction
  · rename_i body found
    obtain rfl := List.mem_singleton.mp he
    obtain ⟨root, below⟩ := Tree.good_iff.mp h
    refine ⟨oneLine_name root (by rw [hk]; rfl), fun item hi => ?_⟩
    obtain ⟨member, inBody, hm⟩ := List.mem_filterMap.mp hi
    have good : body.Good src := below body (mem_children_of_child? found).1
    exact spelled_memberOf?
      ((Tree.good_iff.mp good).2 member (List.mem_of_mem_filter inBody)) hm

theorem spelled_declareNamed (h : tree.Good src) (hp : tree ∈ program.nodes) :
    (declareNamed src tree).Spelled src program := by
  have root : tree.Fits src := (Tree.good_iff.mp h).1
  -- A declaration that is recorded has a name of one line.
  have recorded : ∀ surface : Surface, tree.kind.Takes = OneLine →
      (∀ name ∈ surface.declarations, name = textOf src (tree.child? .name)) →
      surface.exports = [] → surface.imports = [] →
      (∀ entry ∈ surface.interfaceMembers, (spelling src program).Fits entry) →
      (⟨surface, [textOf src (tree.child? .name)]⟩ : Declared).Spelled src program := by
    intro surface takes declared exports imports interfaces
    have name := oneLine_name root takes
    refine ⟨⟨fun other ho => declared other ho ▸ name, by simp [exports], interfaces,
      by simp [imports]⟩, ?_⟩
    exact List.forall_mem_singleton.mpr (.literal (.inl name))
  unfold declareNamed
  dsimp only
  split
  · exact ⟨.empty, fun _ h => nomatch h⟩
  · split
    · rename_i kind
      exact recorded _ (by rw [kind]; rfl) (by simp [Surface.mem_declarations]) rfl rfl (by simp)
    · rename_i kind
      exact recorded _ (by rw [kind]; rfl) (by simp [Surface.mem_declarations]) rfl rfl
        (spelled_membersOf h kind)
    · rename_i kind
      exact recorded _ (by rw [kind]; rfl) (by simp [Surface.mem_declarations]) rfl rfl (by simp)
    · rename_i kind
      exact recorded _ (by rw [kind]; rfl) (by simp [Surface.mem_declarations]) rfl rfl (by simp)
    · rename_i kind
      exact recorded _ (by rw [kind]; rfl) (by simp [Surface.mem_declarations]) rfl rfl (by simp)
    · rename_i kind
      exact ⟨.empty, List.forall_mem_singleton.mpr (.namespace tree hp kind rfl)⟩
    · exact ⟨.empty, fun _ h => nomatch h⟩

theorem spelled_declareVariables (h : tree.Good src) :
    (declareVariables src tree).Spelled src program := by
  have names : ∀ name ∈ (declareVariables src tree).names, OneLine name := by
    intro name hn
    obtain ⟨declarator, hd, hn⟩ := List.mem_flatMap.mp hn
    have inside : declarator ∈ tree.children :=
      List.mem_of_mem_filter (List.mem_of_mem_filter hd)
    have good : declarator.Good src := (Tree.good_iff.mp h).2 declarator inside
    cases hc : declarator.child? .name with
    | none =>
        rw [hc] at hn
        contradiction
    | some pattern =>
        rw [hc] at hn
        exact oneLine_of_mem_boundNames
          ((Tree.good_iff.mp good).2 pattern (mem_children_of_child? hc).1) hn
  refine ⟨⟨fun name hn => names name ?_, ?_, ?_, ?_⟩, fun name hn => .literal (.inl (names name hn))⟩
  · simpa [Surface.mem_declarations, declareVariables] using hn
  · exact fun _ h => nomatch h
  · exact fun _ h => nomatch h
  · exact fun _ h => nomatch h

theorem Declared.Spelled.append {a b : Declared} (ha : a.Spelled src program)
    (hb : b.Spelled src program) : (a.append b).Spelled src program :=
  ⟨ha.surface.append hb.surface, fun name h =>
    (List.mem_append.mp h).elim (ha.names name) (hb.names name)⟩

theorem spelled_declareAll {trees : List Tree}
    (h : ∀ tree ∈ trees, (declare src tree).Spelled src program) :
    (declareAll src trees).Spelled src program := by
  induction trees with
  | nil =>
      rw [declareAll]
      exact ⟨.empty, fun _ h => nomatch h⟩
  | cons tree rest ih =>
      rw [List.forall_mem_cons] at h
      rw [declareAll]
      refine .append ?_ (ih h.2)
      split
      · exact h.1
      · exact ⟨.empty, fun _ h => nomatch h⟩

theorem spelled_declare (h : tree.Good src) (hp : tree.nodes ⊆ program.nodes) :
    (declare src tree).Spelled src program := by
  induction tree using Tree.induct with
  | step tree ih =>
      obtain ⟨root, below⟩ := Tree.good_iff.mp h
      unfold declare
      split
      · exact spelled_declareAll fun child member =>
          ih child member (below child member) fun inner hi =>
            hp (Tree.nodes_subset_of_mem member hi)
      · exact spelled_declareVariables h
      · exact spelled_declareNamed h (hp tree.self_mem_nodes)

/-! ## Imports and exports -/

theorem continued_unquoted {text : String} (h : Quoted text) : Continued (unquoted text) := by
  obtain ⟨⟨quote, body, ht, hq⟩, lines⟩ := h
  have behind : ∀ {mark : List Char} {before : List Char}, mark.head? = some '\\' →
      mark <:+ quote :: before → mark <:+ before := by
    intro mark before hm suffix
    refine (List.suffix_cons_iff.mp suffix).resolve_left ?_
    rintro rfl
    rw [List.head?_cons, Option.some.injEq] at hm
    rcases hq with rfl | rfl <;> exact absurd hm (by decide)
  unfold unquoted
  rw [ht]
  dsimp only
  split
  · rename_i closed
    have last := eq_of_beq (Bool.and_eq_true_iff.mp closed).2
    intro before rest inner
    rw [String.toList_ofList] at inner
    have whole : text.toList = (quote :: before) ++ '\n' :: (rest ++ [quote]) := by
      rw [ht, ← List.dropLast_append_getLast? quote last, inner]
      simp
    exact (lines _ _ whole).imp (behind rfl) (behind rfl)
  · exact lines

theorem spelled_importPart {source : Option Tree} (symbols : List String)
    (h : ∀ tree, source = some tree → Quoted (src.text tree)) :
    (importPart src source symbols).Spelled (spelling src program) := by
  cases source with
  | none => exact .empty
  | some tree =>
      refine .of_imports (List.forall_mem_singleton.mpr ?_)
      exact continued_unquoted (h tree rfl)

theorem spelled_importOf (h : tree.Good src) (hk : tree.kind = .importStatement) :
    (importOf src tree).Spelled (spelling src program) := by
  refine spelled_importPart _ fun source hs => ?_
  obtain ⟨root, below⟩ := Tree.good_iff.mp h
  have quoted : ∀ {parent : Tree}, parent.Fits src → parent.kind.Takes = Quoted →
      parent.child? .source = some source → Quoted (src.text source) := by
    intro parent fits takes found
    obtain ⟨member, hr⟩ := mem_children_of_child? found
    exact takes ▸ fits.texts source member (by rw [hr]; rfl)
  cases hl : (tree.namedChildren.filter fun child => child.kind == .importRequireClause).getLast?
  with
  | none =>
      rw [hl] at hs
      exact quoted root (by rw [hk]; rfl) hs
  | some clause =>
      rw [hl] at hs
      obtain ⟨named, kind⟩ := List.mem_filter.mp (List.mem_of_getLast? hl)
      have good := below clause (List.mem_of_mem_filter named)
      exact quoted (Tree.good_iff.mp good).1 (by rw [eq_of_beq kind]; rfl) hs

theorem getLast?_namedChildren {child : Tree} (h : tree.children.getLast? = some child)
    (named : child.isNamed = true) : tree.namedChildren.getLast? = some child := by
  unfold Tree.namedChildren
  rw [← List.dropLast_append_getLast? child h, List.filter_append, List.filter_cons_of_pos named]
  simp

/-- The names in the braces of an export statement. -/
theorem spelled_exportedItems (h : tree.Good src) :
    ∀ item ∈ exportedItems src tree, ExportName item.1 := by
  intro item hi
  obtain ⟨specifier, hs, rfl⟩ := List.mem_map.mp hi
  obtain ⟨named, kind⟩ := List.mem_filter.mp hs
  have root := (Tree.good_iff.mp
    ((Tree.good_iff.mp h).2 specifier (List.mem_of_mem_filter named))).1
  have spelled : ∀ {role : Role}, role.isText = true →
      ExportName (textOf src (specifier.child? role)) := by
    intro role hr
    rcases root.textOf hr with none | name
    · rw [none]
      exact .inl oneLine_empty
    · rw [eq_of_beq kind] at name
      exact name
  dsimp only
  split
  · exact spelled rfl
  · exact spelled rfl

/-- The name in `* as name`. -/
theorem spelled_namespaceExport (h : tree.Good src) (hk : tree.kind = .namespaceExport) :
    ∀ name ∈ (tree.namedChildren.getLast?.map src.text).toList, ExportName name := by
  obtain ⟨last, hl, named, spelled⟩ := (Tree.good_iff.mp h).1.last hk
  rw [getLast?_namedChildren hl named]
  exact List.forall_mem_singleton.mpr spelled

theorem spelled_exportedNames (h : tree.Good src) :
    ∀ name ∈ (exportedNames src tree).1, ExportName name := by
  have good : ∀ child ∈ tree.namedChildren, child.Good src := fun child hc =>
    (Tree.good_iff.mp h).2 child (List.mem_of_mem_filter hc)
  unfold exportedNames
  -- The fold keeps what it has, and each child adds spelled names.
  refine List.foldlRecOn
    (motive := fun names : List String × List String => ∀ name ∈ names.1, ExportName name) _ _ ?_ ?_
  · exact fun _ hn => absurd hn List.not_mem_nil
  rintro ⟨exported, taken⟩ known child hc name hn
  dsimp only at hn
  split at hn
  · rcases List.mem_append.mp hn with hn | hn
    · exact known name hn
    · obtain ⟨item, hi, rfl⟩ := List.mem_map.mp hn
      exact spelled_exportedItems (good child hc) item hi
  · rcases List.mem_append.mp hn with hn | hn
    · exact known name hn
    · exact spelled_namespaceExport (good child hc) ‹_› name hn
  · exact known name hn

theorem spelled_exportList (h : tree.Good src) :
    (exportList src tree).Spelled (spelling src program) := by
  have names : ∀ name ∈ (exportedNames src tree).1, ExportSpelling src program name :=
    fun name hn => .literal (spelled_exportedNames h name hn)
  unfold exportList
  dsimp only
  split
  · exact .of_exports names
  · have plain : ({ exports := (exportedNames src tree).1 } : Surface).Spelled
        (spelling src program) := .of_exports names
    exact ⟨plain.declared, plain.exported, plain.interfaces, plain.imported⟩

theorem spelled_default : ExportSpelling src program "default" :=
  .literal (.inl (by decide))

theorem spelled_exportOf (h : tree.Good src) (hp : tree.nodes ⊆ program.nodes) :
    (exportOf src tree).Spelled (spelling src program) := by
  unfold exportOf
  split
  · rename_i declaration found
    have child := (mem_children_of_child? found).1
    have declared : (declare src declaration).Spelled src program :=
      spelled_declare ((Tree.good_iff.mp h).2 declaration child)
        fun inner hi => hp (Tree.nodes_subset_of_mem child hi)
    refine declared.surface.append (.of_exports ?_)
    split
    · exact List.forall_mem_singleton.mpr spelled_default
    · exact declared.names
  · split
    · exact .of_exports (List.forall_mem_singleton.mpr spelled_default)
    · exact spelled_exportList h

theorem spelled_assignmentExports (hp : tree.nodes ⊆ program.nodes) :
    (assignmentExports src tree).Spelled (spelling src program) := by
  unfold assignmentExports
  split
  · rename_i expression found
    have child : expression ∈ tree.children :=
      List.mem_of_mem_filter (List.mem_of_head? found)
    split
    · rename_i kind
      exact .of_exports fun name hn => .target expression
        (hp (Tree.nodes_subset_of_mem child expression.self_mem_nodes)) (eq_of_beq kind) hn
    · exact .empty
  · exact .empty

/-! ## Programs -/

theorem spelled_statementSurface (h : tree.Good src) (hp : tree.nodes ⊆ program.nodes) :
    (statementSurface src tree).Spelled (spelling src program) := by
  unfold statementSurface
  split
  · exact spelled_importOf h ‹_›
  · exact spelled_exportOf h hp
  · exact spelled_assignmentExports hp
  · exact (spelled_declare h hp).surface

theorem spelled_surfaceOf (h : program.Good src) :
    (surfaceOf src program).Spelled (spelling src program) := by
  have statements : (Surface.concat (program.namedChildren.map (statementSurface src))).Spelled
      (spelling src program) := by
    refine .concat fun part hp => ?_
    obtain ⟨tree, member, rfl⟩ := List.mem_map.mp hp
    have child : tree ∈ program.children := List.mem_of_mem_filter member
    exact spelled_statementSurface ((Tree.good_iff.mp h).2 tree child)
      (Tree.nodes_subset_of_mem child)
  have marked : ∀ hasMarkup, ({ Surface.concat
      (program.namedChildren.map (statementSurface src)) with hasMarkup }).Spelled
        (spelling src program) :=
    fun _ => ⟨statements.declared, statements.exported, statements.interfaces,
      statements.imported⟩
  exact (marked _).withoutRepetitions

/-- How a script can spell the names of its surface. -/
theorem parseSurface_spelled {dialect : Dialect} {text : String} {surface : Surface}
    (h : parseSurface dialect text = .ok surface) :
    surface.Spelled
      (spelling (.ofText dialect text) (parse (.ofText dialect text))) := by
  obtain ⟨whole, rfl⟩ := of_parseSurface h
  exact spelled_surfaceOf (good_parse whole)

end CommitLens.Script
