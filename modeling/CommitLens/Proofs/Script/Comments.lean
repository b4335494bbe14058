import CommitLens.Proofs.Script.Spelling

/-!
# Comments between the nodes

Comments are put between the children of every node after a text was read.  Main statement:
what a statement exports, imports and hands on does not depend on them.
-/

namespace CommitLens

/-- What a module gives to others and takes from them. -/
structure Exchange where
  exports : List String := []
  imports : List ImportRef := []
  reexports : List ImportRef := []
  deriving Repr, DecidableEq

namespace Exchange

def append (a b : Exchange) : Exchange :=
  ⟨a.exports ++ b.exports, a.imports ++ b.imports, a.reexports ++ b.reexports⟩

/-- The exchange of a module that consists of parts. -/
def concat (parts : List Exchange) : Exchange :=
  ⟨parts.flatMap (·.exports), parts.flatMap (·.imports), parts.flatMap (·.reexports)⟩

end Exchange

namespace Surface

def exchange (surface : Surface) : Exchange :=
  ⟨surface.exports, surface.imports, surface.reexports⟩

theorem exchange_append (a b : Surface) :
    (a ++ b).exchange = a.exchange.append b.exchange :=
  rfl

theorem exchange_concat (parts : List Surface) :
    (concat parts).exchange = .concat (parts.map exchange) := by
  simp only [Exchange.concat, List.flatMap_map, exchange,
    concat_eq_flatMap (·.exports) rfl fun _ _ => rfl,
    concat_eq_flatMap (·.imports) rfl fun _ _ => rfl,
    concat_eq_flatMap (·.reexports) rfl fun _ _ => rfl]

end Surface

namespace Script

variable {src : Source} {tree : Tree} {before : Option Nat} {trees : List Tree}

/-! ## Children -/

section Children

variable {p : Tree → Bool}

theorem filter_commentsOfGap (hc : ∀ first past, p (.leaf .comment first past) = false)
    (start stop : Nat) : (commentsOfGap src start stop).filter p = [] := by
  refine List.filter_eq_nil_iff.mpr fun comment member => ?_
  obtain ⟨first, past, rfl⟩ := exists_of_mem_commentsOfGap member
  simp [hc]

/-- A choice of children that leaves comments out. -/
theorem filter_weaveComments (hc : ∀ first past, p (.leaf .comment first past) = false)
    (h : ∀ tree, p (withComments src tree) = p tree) :
    (weaveComments src before trees).filter p = (trees.filter p).map (withComments src) := by
  induction trees generalizing before with
  | nil => rfl
  | cons tree rest ih =>
      have gap : ((before.map fun stop => commentsOfGap src stop tree.start).getD []).filter p =
          [] := by
        cases before with
        | none => rfl
        | some stop => exact filter_commentsOfGap hc _ _
      rw [weaveComments, List.filter_append, gap, List.nil_append, List.filter_cons, h, ih,
        List.filter_cons]
      split <;> rfl

theorem filter_children_withComments (hc : ∀ first past, p (.leaf .comment first past) = false)
    (h : ∀ tree, p (withComments src tree) = p tree) :
    (withComments src tree).children.filter p =
      (tree.children.filter p).map (withComments src) := by
  rw [children_withComments, filter_weaveComments hc h]

@[simp] theorem isNamed_withComments : (withComments src tree).isNamed = tree.isNamed := by
  simp [Tree.isNamed]

theorem filter_namedChildren_withComments
    (hc : ∀ first past, p (.leaf .comment first past) = false)
    (h : ∀ tree, p (withComments src tree) = p tree) :
    (withComments src tree).namedChildren.filter p =
      (tree.namedChildren.filter p).map (withComments src) := by
  rw [Tree.namedChildren, Tree.namedChildren, List.filter_filter, List.filter_filter]
  exact filter_children_withComments (by simp [hc]) (by simp [h])

theorem any_children_withComments (hc : ∀ first past, p (.leaf .comment first past) = false)
    (h : ∀ tree, p (withComments src tree) = p tree) :
    (withComments src tree).children.any p = tree.children.any p := by
  have found : (withComments src tree).children.filter p =
      (tree.children.filter p).map (withComments src) :=
    filter_children_withComments hc h
  rw [Bool.eq_iff_iff, List.any_eq_true, List.any_eq_true]
  constructor
  · rintro ⟨child, member, hp⟩
    have kept := List.mem_filter.mpr ⟨member, hp⟩
    rw [found] at kept
    obtain ⟨other, ho, rfl⟩ := List.mem_map.mp kept
    exact ⟨other, (List.mem_filter.mp ho).1, (List.mem_filter.mp ho).2⟩
  · rintro ⟨child, member, hp⟩
    have kept := List.mem_map_of_mem (f := withComments src) (List.mem_filter.mpr ⟨member, hp⟩)
    rw [← found] at kept
    exact ⟨_, (List.mem_filter.mp kept).1, (List.mem_filter.mp kept).2⟩

theorem child?_withComments {role : Role} (hr : role ≠ .plain) :
    (withComments src tree).child? role = (tree.child? role).map (withComments src) := by
  have other : ∀ first past, ((Tree.leaf .comment first past).role == role) = false := by
    intro first past
    exact beq_false_of_ne fun same => hr same.symm
  rw [Tree.child?, Tree.child?, ← List.head?_filter, ← List.head?_filter,
    filter_children_withComments other (by simp), List.head?_map]

theorem textOf_child?_withComments {role : Role} (hr : role ≠ .plain) :
    textOf src ((withComments src tree).child? role) = textOf src (tree.child? role) := by
  rw [child?_withComments hr]
  cases tree.child? role with
  | none => rfl
  | some child => exact text_withComments

theorem flatMap_weaveComments {β : Type} {f : Tree → List β}
    (hc : ∀ first past, f (.leaf .comment first past) = []) :
    (weaveComments src before trees).flatMap f =
      trees.flatMap fun tree => f (withComments src tree) := by
  have gap (start stop : Nat) : (commentsOfGap src start stop).flatMap f = [] := by
    refine List.flatMap_eq_nil_iff.mpr fun comment member => ?_
    obtain ⟨first, past, rfl⟩ := exists_of_mem_commentsOfGap member
    exact hc first past
  induction trees generalizing before with
  | nil => rfl
  | cons tree rest ih =>
      rw [weaveComments, List.flatMap_append, List.flatMap_cons, List.flatMap_cons, ih]
      cases before with
      | none => rfl
      | some stop =>
          simp only [Option.map_some, Option.getD_some]
          rw [gap, List.nil_append]

theorem flatMap_namedChildren {β : Type} (f : Tree → List β) (tree : Tree) :
    tree.namedChildren.flatMap f =
      tree.children.flatMap fun child => if child.isNamed then f child else [] := by
  rw [Tree.namedChildren]
  induction tree.children with
  | nil => rfl
  | cons child rest ih =>
      rw [List.filter_cons, List.flatMap_cons, ← ih]
      split <;> rfl

theorem flatMap_namedChildren_withComments {β : Type} {f : Tree → List β}
    (hc : ∀ first past, f (.leaf .comment first past) = [])
    (h : ∀ child ∈ tree.children, f (withComments src child) = f child) :
    (withComments src tree).namedChildren.flatMap f = tree.namedChildren.flatMap f := by
  rw [flatMap_namedChildren, flatMap_namedChildren, children_withComments,
    flatMap_weaveComments (by simp [hc])]
  refine List.flatMap_congr fun child member => ?_
  rw [isNamed_withComments, h child member]

end Children

/-! ## Names of patterns -/

/-- The variable that a node is, if it is one. -/
def ownName (src : Source) (tree : Tree) : List String :=
  if tree.kind == .identifier || tree.kind == .shorthandBinding then [src.text tree] else []

/-- A pattern binds what its parts bind. -/
theorem boundNames_eq (src : Source) (tree : Tree) :
    boundNames src tree = ownName src tree ++ tree.children.flatMap (boundNames src) := by
  have below (trees : List Tree) :
      ((Tree.nodesOf trees).filter fun tree =>
        tree.kind == .identifier || tree.kind == .shorthandBinding).map src.text =
          trees.flatMap (boundNames src) := by
    induction trees with
    | nil => rfl
    | cons first rest ih =>
        rw [Tree.nodesOf, List.filter_append, List.map_append, ih, List.flatMap_cons, boundNames,
          Tree.walk_singleton]
  rw [boundNames, Tree.walk_singleton, Tree.nodes_eq, List.filter_cons, ← below, ownName]
  split <;> rfl

theorem boundNames_comment (first past : Nat) :
    boundNames src (.leaf .comment first past) = [] := by
  rw [boundNames_eq]
  rfl

theorem boundNames_withComments : boundNames src (withComments src tree) = boundNames src tree := by
  induction tree using Tree.induct with
  | step tree ih =>
      rw [boundNames_eq, boundNames_eq src tree, children_withComments,
        flatMap_weaveComments boundNames_comment]
      congr 1
      · simp [ownName]
      · exact List.flatMap_congr ih

/-! ## Declarations -/

theorem names_declareVariables_withComments :
    (declareVariables src (withComments src tree)).names = (declareVariables src tree).names := by
  simp only [declareVariables]
  rw [filter_namedChildren_withComments (by simp [Tree.leaf, Tree.kind]) (by simp),
    List.flatMap_map]
  refine List.flatMap_congr fun declarator _ => ?_
  rw [child?_withComments (by decide)]
  cases declarator.child? .name with
  | none => rfl
  | some name => exact boundNames_withComments

theorem names_declareNamed_withComments :
    (declareNamed src (withComments src tree)).names = (declareNamed src tree).names := by
  simp only [declareNamed, textOf_child?_withComments (show Role.name ≠ .plain by decide),
    kind_withComments]
  split
  · rfl
  · split <;> rfl

theorem names_declareAll (src : Source) (trees : List Tree) :
    (declareAll src trees).names =
      trees.flatMap fun tree => if tree.isNamed then (declare src tree).names else [] := by
  induction trees with
  | nil => simp [declareAll]
  | cons tree rest ih =>
      rw [declareAll, Declared.append, ih, List.flatMap_cons]
      split <;> rfl

theorem declare_comment (first past : Nat) : declare src (.leaf .comment first past) = {} := by
  rfl

theorem declare_of_variables (h : tree.kind = .variableDeclaration) :
    declare src tree = declareVariables src tree := by
  obtain ⟨kind, role, start, stop, children⟩ := tree
  obtain rfl : kind = .variableDeclaration := h
  rw [declare]

theorem declare_of_named (ha : tree.kind ≠ .ambientDeclaration)
    (hv : tree.kind ≠ .variableDeclaration) : declare src tree = declareNamed src tree := by
  rw [declare]
  · rintro _ _ _ _ rfl
    exact ha rfl
  · rintro _ _ _ _ rfl
    exact hv rfl

theorem names_declare_withComments :
    (declare src (withComments src tree)).names = (declare src tree).names := by
  -- Only a declaration for code that lives elsewhere holds others.
  induction tree using Tree.induct with
  | step tree ih =>
      by_cases ha : tree.kind = .ambientDeclaration
      · obtain ⟨kind, role, start, stop, children⟩ := tree
        obtain rfl : kind = .ambientDeclaration := ha
        rw [withComments, declare, declare, names_declareAll, names_declareAll,
          flatMap_weaveComments (by simp [declare_comment])]
        refine List.flatMap_congr fun child member => ?_
        rw [isNamed_withComments, ih child member]
      · by_cases hv : tree.kind = .variableDeclaration
        · rw [declare_of_variables hv, declare_of_variables (by simpa using hv),
            names_declareVariables_withComments]
        · rw [declare_of_named ha hv, declare_of_named (by simpa using ha) (by simpa using hv),
            names_declareNamed_withComments]

theorem exchange_declareAll {trees : List Tree}
    (h : ∀ tree ∈ trees, (declare src tree).surface.exchange = {}) :
    (declareAll src trees).surface.exchange = {} := by
  induction trees with
  | nil => simp [declareAll, Surface.exchange]
  | cons tree rest ih =>
      rw [List.forall_mem_cons] at h
      have first : (if tree.isNamed then declare src tree else {}).surface.exchange = {} := by
        split
        · exact h.1
        · rfl
      have later := ih h.2
      simp only [Surface.exchange, Exchange.mk.injEq] at first later ⊢
      rw [declareAll]
      exact ⟨List.append_eq_nil_iff.mpr ⟨first.1, later.1⟩,
        List.append_eq_nil_iff.mpr ⟨first.2.1, later.2.1⟩,
        List.append_eq_nil_iff.mpr ⟨first.2.2, later.2.2⟩⟩

/-- A declaration gives nothing to others by itself. -/
theorem exchange_declare (src : Source) (tree : Tree) :
    (declare src tree).surface.exchange = {} := by
  induction tree using Tree.induct with
  | step tree ih =>
      unfold declare
      split
      · exact exchange_declareAll ih
      · rfl
      · unfold declareNamed
        dsimp only
        split
        · rfl
        · split <;> rfl

/-! ## Imports -/

theorem clauseSymbols_withComments :
    clauseSymbols src (withComments src tree) = clauseSymbols src tree := by
  refine flatMap_namedChildren_withComments (fun _ _ => rfl) fun child _ => ?_
  rw [kind_withComments]
  split
  · rfl
  · rfl
  · rw [filter_namedChildren_withComments (by simp [Tree.leaf, Tree.kind]) (by simp),
      List.map_map]
    refine List.map_congr_left fun item _ => ?_
    exact textOf_child?_withComments (by decide)
  · rfl

theorem importOf_withComments : importOf src (withComments src tree) = importOf src tree := by
  have required : (withComments src tree).namedChildren.filter
      (fun child => child.kind == .importRequireClause) =
        (tree.namedChildren.filter fun child => child.kind == .importRequireClause).map
          (withComments src) :=
    filter_namedChildren_withComments (by simp [Tree.leaf, Tree.kind]) (by simp)
  have part (source : Option Tree) (names : List String) :
      importPart src (source.map (withComments src)) names = importPart src source names := by
    cases source with
    | none => rfl
    | some tree => simp [importPart]
  simp only [importOf]
  rw [required, List.getLast?_map, child?_withComments (by decide)]
  refine Eq.trans (congrArg₂ (importPart src) ?_
    (flatMap_namedChildren_withComments (fun _ _ => rfl) fun child _ => ?_)) (part _ _)
  · cases (tree.namedChildren.filter fun child =>
        child.kind == Kind.importRequireClause).getLast? with
    | none => rfl
    | some clause => exact child?_withComments (by decide)
  · rw [kind_withComments]
    split
    · rw [filter_namedChildren_withComments (by simp [Tree.leaf, Tree.kind]) (by simp),
        List.map_map]
      exact List.map_congr_left fun item _ => text_withComments
    · exact clauseSymbols_withComments
    · rfl

/-! ## Exports -/

theorem hasMark_withComments (text : String) :
    hasMark src (withComments src tree) text = hasMark src tree text :=
  any_children_withComments (by simp [Tree.leaf, Tree.kind]) (by simp)

theorem exportedItems_withComments :
    exportedItems src (withComments src tree) = exportedItems src tree := by
  simp only [exportedItems]
  rw [filter_namedChildren_withComments (by simp [Tree.leaf, Tree.kind]) (by simp), List.map_map]
  refine List.map_congr_left fun item _ => ?_
  simp only [Function.comp_apply, textOf_child?_withComments (show Role.name ≠ .plain by decide),
    textOf_child?_withComments (show Role.newName ≠ .plain by decide)]

/-- The names that a part of an export statement gives to others. -/
def givenBy (src : Source) (part : Tree) : List String :=
  match part.kind with
  | .exportClause => (exportedItems src part).map (·.1)
  | .namespaceExport => (part.namedChildren.getLast?.map src.text).toList
  | _ => []

/-- The names that a part of an export statement takes from elsewhere. -/
def takenBy (src : Source) (part : Tree) : List String :=
  match part.kind with
  | .exportClause => (exportedItems src part).map (·.2)
  | .namespaceExport => ["*"]
  | _ => []

theorem exportedNames_eq (src : Source) (tree : Tree) :
    exportedNames src tree =
      (tree.namedChildren.flatMap (givenBy src), tree.namedChildren.flatMap (takenBy src)) := by
  have run (parts : List Tree) (names : List String × List String) :
      parts.foldl (fun names part => (names.1 ++ givenBy src part, names.2 ++ takenBy src part))
          names =
        (names.1 ++ parts.flatMap (givenBy src), names.2 ++ parts.flatMap (takenBy src)) := by
    induction parts generalizing names with
    | nil => simp
    | cons part rest ih => simp [ih]
  refine (List.foldl_ext _ _ _ fun names part _ => ?_).trans (run tree.namedChildren ([], []))
  dsimp only [givenBy, takenBy]
  split <;> simp_all

/-- Behind the name that everything is exported under, there are no comments. -/
theorem givenBy_withComments (h : tree.Good src) :
    givenBy src (withComments src tree) = givenBy src tree := by
  unfold givenBy
  rw [kind_withComments]
  split
  · rw [exportedItems_withComments]
  · rename_i kind
    obtain ⟨last, hl, named, -⟩ := (Tree.good_iff.mp h).1.last kind
    have hl' : (withComments src tree).children.getLast? = some (withComments src last) := by
      rw [children_withComments, getLast?_weaveComments, hl, Option.map_some]
    rw [getLast?_namedChildren hl named, getLast?_namedChildren hl' (by simpa using named)]
    simp
  · rfl

theorem takenBy_withComments : takenBy src (withComments src tree) = takenBy src tree := by
  unfold takenBy
  rw [kind_withComments]
  split
  · rw [exportedItems_withComments]
  · rfl
  · rfl

theorem exportedNames_withComments (h : tree.Good src) :
    exportedNames src (withComments src tree) = exportedNames src tree := by
  rw [exportedNames_eq, exportedNames_eq,
    flatMap_namedChildren_withComments (fun _ _ => rfl) fun child member =>
      givenBy_withComments ((Tree.good_iff.mp h).2 child member),
    flatMap_namedChildren_withComments (fun _ _ => rfl) fun _ _ => takenBy_withComments]

theorem exportList_withComments (h : tree.Good src) :
    exportList src (withComments src tree) = exportList src tree := by
  unfold exportList
  rw [exportedNames_withComments h, child?_withComments (by decide), hasMark_withComments]
  cases tree.child? .source with
  | none => rfl
  | some source => simp

theorem exchange_exportOf_withComments (h : tree.Good src) :
    (exportOf src (withComments src tree)).exchange = (exportOf src tree).exchange := by
  unfold exportOf
  rw [child?_withComments (by decide), hasMark_withComments, hasMark_withComments,
    exportList_withComments h]
  cases tree.child? .declaration with
  | none => rfl
  | some declaration =>
      simp only [Option.map_some, names_declare_withComments, Surface.exchange_append,
        exchange_declare]

end Script

end CommitLens
