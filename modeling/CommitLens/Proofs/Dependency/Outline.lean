import CommitLens.Proofs.Dependency.Package
import CommitLens.Proofs.Script.Spelling

/-!
# What imports bind and what classes have as bases

The outline of a text is read off its syntax tree: every import with the names that it
binds, and every class of the top level with those of its bases that are plain names.
Main statement: the surface of a text has its imports, with the names that are recorded
for the bound ones, and the plain bases of its named classes.
-/

namespace CommitLens

/-- A name that an import binds, and the name that is recorded for it. -/
structure Binding where
  recorded : String
  bound : String
  deriving Repr, DecidableEq

/-- An import with all that it binds. -/
structure BindingImport where
  specifier : String
  bindings : List Binding
  deriving Repr, DecidableEq

/-- What is recorded of an import. -/
def BindingImport.ref (binding : BindingImport) : ImportRef :=
  ⟨binding.specifier, binding.bindings.map (·.recorded)⟩

structure Outline where
  imports : List BindingImport := []
  /-- The classes of the top level with one plain base each; an exported class need not
  have a name. -/
  bases : List (String × String) := []
  deriving Repr, DecidableEq

namespace Outline

def append (a b : Outline) : Outline :=
  ⟨a.imports ++ b.imports, a.bases ++ b.bases⟩

/-- The outline of a text that consists of parts. -/
def concat (parts : List Outline) : Outline :=
  ⟨parts.flatMap (·.imports), parts.flatMap (·.bases)⟩

end Outline

namespace Surface

/-- A surface has all the imports of an outline and the bases of its named classes. -/
structure Records (surface : Surface) (outline : Outline) : Prop where
  imports : surface.imports = outline.imports.map BindingImport.ref
  bases : ∀ entry ∈ outline.bases, entry.1 ≠ "" → entry ∈ surface.heritage

namespace Records

variable {a b : Surface} {left right : Outline}

theorem empty : ({} : Surface).Records {} :=
  ⟨rfl, fun _ h => nomatch h⟩

theorem append (ha : a.Records left) (hb : b.Records right) :
    (a.append b).Records (left.append right) := by
  constructor
  · show a.imports ++ b.imports = _
    rw [ha.imports, hb.imports, Outline.append, List.map_append]
  · intro entry h named
    refine List.mem_append.mpr ?_
    exact (List.mem_append.mp h).imp (ha.bases entry · named) (hb.bases entry · named)

/-- Parts are put behind each other. -/
theorem foldl {α : Type} {part : α → Surface} {outline : α → Outline} {items : List α}
    (ha : a.Records left) (h : ∀ item ∈ items, (part item).Records (outline item)) :
    ((items.map part).foldl Surface.append a).Records
      (left.append (.concat (items.map outline))) := by
  induction items generalizing a left with
  | nil => simpa [Outline.append, Outline.concat] using ha
  | cons item rest ih =>
      rw [List.forall_mem_cons] at h
      have behind := ih (ha.append h.1) h.2
      simpa [Outline.append, Outline.concat] using behind

theorem concat {α : Type} {part : α → Surface} {outline : α → Outline} {items : List α}
    (h : ∀ item ∈ items, (part item).Records (outline item)) :
    (Surface.concat (items.map part)).Records (.concat (items.map outline)) :=
  empty.foldl h

theorem exporting (ha : a.Records left) (names : List String) :
    (a ++ { exports := names }).Records left :=
  ⟨(List.append_nil a.imports).trans ha.imports, fun entry he named =>
    List.mem_append_left _ (ha.bases entry he named)⟩

theorem withoutRepetitions (ha : a.Records left) : a.withoutRepetitions.Records left :=
  ⟨ha.imports, ha.bases⟩

end Records

end Surface

/-! ## Scripts -/

namespace Script

variable (src : Source)

/-- A name without a path in front, type arguments behind or blanks around. -/
def isPlainName (text : String) : Bool :=
  !text.isEmpty && text.toList.all fun c => c != '<' && c != '.' && !Text.isBlank c

def bindingsOf (clause : Tree) : List Binding :=
  clause.namedChildren.flatMap fun child =>
    match child.kind with
    | .identifier => [⟨"default", src.text child⟩]
    | .namespaceImport =>
        [⟨"*", textOf src (child.namedChildren.find? fun item => item.kind == .identifier)⟩]
    | .namedImports =>
        (child.namedChildren.filter fun item => item.kind == .importSpecifier).map fun item =>
          let name := textOf src (item.child? .name)
          let newName := textOf src (item.child? .newName)
          ⟨name, if newName.isEmpty then name else newName⟩
    | _ => []

/-- Where an import statement says what is imported. -/
def sourceOf (tree : Tree) : Option Tree :=
  let required := tree.namedChildren.filter fun child => child.kind == .importRequireClause
  (required.getLast?.map fun clause => clause.child? .source).getD (tree.child? .source)

def boundBy (tree : Tree) : List Binding :=
  tree.namedChildren.flatMap fun child =>
    match child.kind with
    | .importRequireClause =>
        (child.namedChildren.filter fun item => item.kind == .identifier).map fun item =>
          ⟨src.text item, src.text item⟩
    | .importClause => bindingsOf src child
    | _ => []

def importsOf (tree : Tree) : List BindingImport :=
  (sourceOf tree).toList.map fun source => ⟨unquoted (src.text source), boundBy src tree⟩

def plainBasesOf (clause : Tree) : List String :=
  let bases :=
    if clause.kind == .extendsClause || clause.kind == .implementsClause then
      clause.namedChildren.filter fun tree =>
        tree.kind != .typeArguments && tree.kind != .comment
    else if clause.kind == .comment then []
    else [clause]
  (bases.map src.text).filter isPlainName

/-- The plain bases of a class. -/
def classBases (tree : Tree) : List (String × String) :=
  (tree.children.filter fun child => child.kind == .classHeritage).flatMap fun heritage =>
    heritage.namedChildren.flatMap fun clause =>
      (plainBasesOf src clause).map fun base => (textOf src (tree.child? .name), base)

mutual

/-- The classes that a statement declares, as it stands or for code that lives elsewhere. -/
def declaredClasses : Tree → List Tree
  | .node .ambientDeclaration _ _ _ children => declaredClassesOf children
  | tree => if tree.kind == .classDeclaration then [tree] else []

def declaredClassesOf : List Tree → List Tree
  | [] => []
  | tree :: rest => (if tree.isNamed then declaredClasses tree else []) ++ declaredClassesOf rest

end

/-- The classes that an export declares; one that is exported by default needs no name. -/
def exportedClasses (tree : Tree) : List Tree :=
  match tree.child? .declaration with
  | some declaration => declaredClasses declaration
  | none =>
      if hasMark src tree "default" then
        tree.namedChildren.filter fun child =>
          child.kind == .otherExpression && (child.child? .name).isNone
      else []

def statementOutline (tree : Tree) : Outline :=
  match tree.kind with
  | .importStatement => { imports := importsOf src tree }
  | .exportStatement => { bases := (exportedClasses src tree).flatMap (classBases src) }
  | .expressionStatement => {}
  | _ => { bases := (declaredClasses tree).flatMap (classBases src) }

def outlineOf (program : Tree) : Outline :=
  .concat (program.namedChildren.map (statementOutline src))

variable {src} {tree : Tree}

theorem bareName_of_isPlainName {text : String} (h : isPlainName text = true) :
    bareName text = text := by
  simp only [isPlainName, Bool.and_eq_true, List.all_eq_true, bne_iff_ne, Bool.not_eq_true'] at h
  have front : text.toList.takeWhile (· != '<') = text.toList :=
    List.takeWhile_eq_self_iff.mpr fun c hc => bne_iff_ne.mpr (h.2 c hc).1.1
  have inside : Text.trim text = text := by
    have drop : ∀ cs : List Char, (∀ c ∈ cs, Text.isBlank c = false) →
        cs.dropWhile Text.isBlank = cs := fun cs hcs =>
      List.dropWhile_eq_self_iff.mpr fun hl => by simp [hcs]
    rw [Text.trim, Text.trimStart, drop _ fun c hc => (h.2 c hc).2, Text.trimEnd,
      drop _ fun c hc => (h.2 c (List.mem_reverse.mp hc)).2, List.reverse_reverse,
      String.ofList_toList]
  have undotted : '.' ∉ text.toList := fun hc => (h.2 '.' hc).1.2 rfl
  rw [bareName, front, String.ofList_toList, inside, afterLastDot, Text.split_of_notMem undotted]
  rfl

theorem mem_basesOf {clause : Tree} {base : String} (h : base ∈ plainBasesOf src clause) :
    base ∈ basesOf src clause := by
  obtain ⟨h, plain⟩ := List.mem_filter.mp h
  obtain ⟨tree, ht, rfl⟩ := List.mem_map.mp h
  refine List.mem_map.mpr ⟨tree, ?_, bareName_of_isPlainName plain⟩
  split at ht
  · rwa [if_pos ‹_›]
  · split at ht
    · contradiction
    · rwa [if_neg ‹_›]

theorem mem_heritageOf {entry : String × String} (h : entry ∈ classBases src tree) :
    entry ∈ heritageOf src (textOf src (tree.child? .name)) tree := by
  simp only [classBases, heritageOf, List.mem_flatMap, List.mem_map] at h ⊢
  obtain ⟨heritage, hh, clause, hc, base, hb, rfl⟩ := h
  exact ⟨heritage, hh, clause, hc, base, mem_basesOf hb, rfl⟩

theorem imports_declareAll {trees : List Tree}
    (h : ∀ tree ∈ trees, (declare src tree).surface.imports = []) :
    (declareAll src trees).surface.imports = [] := by
  induction trees with
  | nil => simp [declareAll]
  | cons tree rest ih =>
      rw [List.forall_mem_cons] at h
      have first : (if tree.isNamed then declare src tree else {}).surface.imports = [] := by
        split
        · exact h.1
        · rfl
      rw [declareAll]
      exact List.append_eq_nil_iff.mpr ⟨first, ih h.2⟩

theorem imports_declare (src : Source) (tree : Tree) :
    (declare src tree).surface.imports = [] := by
  induction tree using Tree.induct with
  | step tree ih =>
      unfold declare
      split
      · exact imports_declareAll ih
      · rfl
      · unfold declareNamed
        dsimp only
        split
        · rfl
        · split <;> rfl

theorem heritage_declare_class (kind : tree.kind = .classDeclaration)
    (named : textOf src (tree.child? .name) ≠ "") :
    (declare src tree).surface.heritage = heritageOf src (textOf src (tree.child? .name)) tree := by
  unfold declare
  split
  · contradiction
  · contradiction
  · have nonempty : (textOf src (tree.child? .name)).isEmpty = false := by simpa using named
    simp only [declareNamed, nonempty, kind, Bool.false_eq_true, if_false]

theorem heritage_declareAll_of_mem {trees : List Tree} {entry : String × String}
    (hm : tree ∈ trees) (named : tree.isNamed = true)
    (h : entry ∈ (declare src tree).surface.heritage) :
    entry ∈ (declareAll src trees).surface.heritage := by
  induction trees with
  | nil => contradiction
  | cons other rest ih =>
      rw [declareAll]
      refine List.mem_append.mpr ?_
      rcases List.mem_cons.mp hm with rfl | later
      · exact .inl (by rwa [if_pos named])
      · exact .inr (ih later)

theorem mem_declaredClassesOf {trees : List Tree} (h : tree ∈ declaredClassesOf trees) :
    ∃ other ∈ trees, other.isNamed = true ∧ tree ∈ declaredClasses other := by
  induction trees with
  | nil => simp [declaredClassesOf] at h
  | cons other rest ih =>
      rw [declaredClassesOf, List.mem_append] at h
      rcases h with first | later
      · split at first
        · exact ⟨other, List.mem_cons_self, ‹_›, first⟩
        · contradiction
      · obtain ⟨found, hf, h⟩ := ih later
        exact ⟨found, List.mem_cons_of_mem other hf, h⟩

/-- The bases of a class are recorded with the statement that declares it. -/
theorem heritage_declare_of_mem {cls : Tree} {entry : String × String}
    (hc : cls ∈ declaredClasses tree) (named : textOf src (cls.child? .name) ≠ "")
    (he : entry ∈ heritageOf src (textOf src (cls.child? .name)) cls) :
    entry ∈ (declare src tree).surface.heritage := by
  -- Only a declaration for code that lives elsewhere holds others; every other statement
  -- declares at most the class that it is.
  induction tree using Tree.induct with
  | step tree ih =>
      unfold declaredClasses at hc
      split at hc
      · obtain ⟨child, hm, isNamed, hc⟩ := mem_declaredClassesOf hc
        rw [declare]
        exact heritage_declareAll_of_mem hm isNamed (ih child hm hc)
      · split at hc
        · rename_i kind
          obtain rfl := List.mem_singleton.mp hc
          rwa [heritage_declare_class (by simpa using kind) named]
        · contradiction

theorem name_of_mem_classBases {entry : String × String} (h : entry ∈ classBases src tree) :
    entry.1 = textOf src (tree.child? .name) := by
  simp only [classBases, List.mem_flatMap, List.mem_map] at h
  obtain ⟨_, _, _, _, base, _, rfl⟩ := h
  rfl

theorem records_declare (src : Source) (tree : Tree) :
    (declare src tree).surface.Records
      { bases := (declaredClasses tree).flatMap (classBases src) } := by
  refine ⟨imports_declare src tree, fun entry he named => ?_⟩
  obtain ⟨cls, hc, hb⟩ := List.mem_flatMap.mp he
  rw [name_of_mem_classBases hb] at named
  exact heritage_declare_of_mem hc named (mem_heritageOf hb)

/-! ### Imports and exports -/

theorem clauseSymbols_eq (src : Source) (clause : Tree) :
    clauseSymbols src clause = (bindingsOf src clause).map (·.recorded) := by
  rw [clauseSymbols, bindingsOf, List.map_flatMap]
  congr 1
  funext child
  split <;> simp [*]

theorem importOf_eq (src : Source) (tree : Tree) :
    importOf src tree =
      importPart src (sourceOf tree) ((boundBy src tree).map (·.recorded)) := by
  rw [importOf, boundBy, sourceOf, List.map_flatMap]
  congr 2
  funext child
  split <;> simp [clauseSymbols_eq, *]

theorem records_importOf (src : Source) (tree : Tree) :
    (importOf src tree).Records { imports := importsOf src tree } := by
  rw [importOf_eq, importsOf]
  cases sourceOf tree with
  | none => exact .empty
  | some source => exact ⟨rfl, fun _ h => nomatch h⟩

/-- A class that is exported without a name leaves no bases. -/
theorem name_of_mem_exportedClasses {entry : String × String}
    (none : tree.child? .declaration = none)
    (h : entry ∈ (exportedClasses src tree).flatMap (classBases src)) : entry.1 = "" := by
  obtain ⟨cls, hc, hb⟩ := List.mem_flatMap.mp h
  rw [exportedClasses, none] at hc
  dsimp only at hc
  split at hc
  · have unnamed : cls.child? .name = Option.none := by
      have found := (List.mem_filter.mp hc).2
      simp only [Bool.and_eq_true, Option.isNone_iff_eq_none] at found
      exact found.2
    rw [name_of_mem_classBases hb, unnamed, textOf]
  · contradiction

theorem records_exportOf (src : Source) (tree : Tree) :
    (exportOf src tree).Records
      { bases := (exportedClasses src tree).flatMap (classBases src) } := by
  cases hd : tree.child? .declaration with
  | some declaration =>
      rw [exportOf, exportedClasses, hd]
      exact (records_declare src declaration).exporting _
  | none =>
      -- Nothing is recorded of what an expression holds, and its classes have no names.
      have unnamed : ∀ entry ∈ (exportedClasses src tree).flatMap (classBases src),
          entry.1 ≠ "" → entry ∈ (exportOf src tree).heritage := fun entry he named =>
        absurd (name_of_mem_exportedClasses hd he) named
      refine ⟨?_, unnamed⟩
      rw [exportOf, hd]
      dsimp only
      split
      · rfl
      · unfold exportList
        cases tree.child? .source <;> rfl

theorem records_assignmentExports (src : Source) (tree : Tree) :
    (assignmentExports src tree).Records {} := by
  unfold assignmentExports
  split
  · split
    · exact ⟨rfl, fun _ h => nomatch h⟩
    · exact .empty
  · exact .empty

theorem records_statementSurface (src : Source) (tree : Tree) :
    (statementSurface src tree).Records (statementOutline src tree) := by
  cases kind : tree.kind with
  | importStatement =>
      simp only [statementSurface, statementOutline, kind]
      exact records_importOf src tree
  | exportStatement =>
      simp only [statementSurface, statementOutline, kind]
      exact records_exportOf src tree
  | expressionStatement =>
      simp only [statementSurface, statementOutline, kind]
      exact records_assignmentExports src tree
  | _ =>
      simp only [statementSurface, statementOutline, kind]
      exact records_declare src tree

theorem records_surfaceOf (src : Source) (program : Tree) :
    (surfaceOf src program).Records (outlineOf src program) := by
  have statements : (Surface.concat (program.namedChildren.map (statementSurface src))).Records
      (outlineOf src program) :=
    .concat fun tree _ => records_statementSurface src tree
  exact Surface.Records.withoutRepetitions ⟨statements.imports, statements.bases⟩

theorem records_of_parseSurface {dialect : Dialect} {text : String} {surface : Surface}
    (h : parseSurface dialect text = .ok surface) :
    surface.Records (outlineOf (.ofText dialect text) (parse (.ofText dialect text))) := by
  obtain ⟨-, rfl⟩ := of_parseSurface h
  exact records_surfaceOf _ _

end Script

/-! ## Python modules -/

namespace Python

def plainBase? : Expr → Option String
  | .name id => if id.isEmpty then none else some id
  | _ => none

/-- An import of a module below others binds the first of them. -/
def firstPart (name : String) : String :=
  String.ofList (name.toList.takeWhile (· != '.'))

def statementOutline : Statement → Outline
  | .classDef name bases _ => { bases := (bases.filterMap plainBase?).map fun base => (name, base) }
  | .importModules items =>
      { imports := items.map fun item =>
          ⟨item.name, [⟨item.boundTo.getD item.name, item.boundTo.getD (firstPart item.name)⟩]⟩ }
  | .importFrom level module items =>
      { imports := [⟨relativeSpecifier level module,
          items.map fun item => ⟨item.name, item.boundTo.getD item.name⟩⟩] }
  | _ => {}

variable {surface : Surface} {outline : Outline}

theorem filterMap_plainBase? (bases : List Expr) :
    bases.filterMap plainBase? ⊆ (bases.map baseName).filter (!·.isEmpty) := by
  intro base hb
  obtain ⟨expression, he, hp⟩ := List.mem_filterMap.mp hb
  cases expression with
  | name id =>
      rw [plainBase?] at hp
      split at hp
      · contradiction
      · rename_i nonempty
        cases hp
        refine List.mem_filter.mpr ⟨List.mem_map.mpr ⟨_, he, rfl⟩, ?_⟩
        simpa using nonempty
  | _ => contradiction

theorem imports_addClass (name : String) (bases : List Expr) (body : List Statement)
    (surface : Surface) : (addClass name bases body surface).imports = surface.imports := by
  unfold addClass
  dsimp only
  split
  · rfl
  · split <;> rfl

theorem heritage_addClass (name : String) (bases : List Expr) (body : List Statement)
    (surface : Surface) :
    (addClass name bases body surface).heritage = surface.heritage ++
      ((bases.map baseName).filter (!·.isEmpty)).map fun base => (name, base) := by
  unfold addClass
  dsimp only
  split
  · rfl
  · split <;> rfl

theorem records_addNames (h : surface.Records outline) (statement : Statement) :
    (addNames statement surface).Records outline := by
  unfold addNames
  split
  · exact ⟨h.imports, h.bases⟩
  · split <;> exact ⟨h.imports, h.bases⟩
  · exact h

/-- What is recorded so far stays, and a statement adds its imports and bases. -/
theorem records_addStatement (h : surface.Records outline) (statement : Statement) :
    (addStatement surface statement).Records (outline.append (statementOutline statement)) := by
  have same : ∀ {other : Surface}, other.Records outline → other.Records (outline.append {}) := by
    simp [Outline.append]
  cases statement with
  | classDef name bases body =>
      refine ⟨?_, fun entry he named => ?_⟩
      · simp [addStatement, imports_addClass, h.imports, Outline.append, statementOutline]
      · rw [addStatement, heritage_addClass]
        refine List.mem_append.mpr ((List.mem_append.mp he).imp (h.bases entry · named) ?_)
        exact fun hb => List.map_subset _ (filterMap_plainBase? bases) hb
  | functionDef name => exact same ⟨h.imports, h.bases⟩
  | importModules items =>
      refine ⟨?_, fun entry he named => ?_⟩
      · simp [addStatement, h.imports, Outline.append, statementOutline, importOf,
          BindingImport.ref]
      · exact h.bases entry (by simpa [Outline.append, statementOutline] using he) named
  | importFrom level module items =>
      refine ⟨?_, fun entry he named => ?_⟩
      · simp [addStatement, h.imports, Outline.append, statementOutline, BindingImport.ref]
      · exact h.bases entry (by simpa [Outline.append, statementOutline] using he) named
  | assign targets value =>
      refine same ?_
      unfold addStatement
      dsimp only
      split
      · exact h
      · exact records_addNames h _
  | annotate target mark value =>
      refine same ?_
      unfold addStatement
      dsimp only
      split
      · exact h
      · exact records_addNames h _
  | other => exact same h

theorem records_foldl (h : surface.Records outline) (statements : List Statement) :
    (statements.foldl addStatement surface).Records
      (outline.append (.concat (statements.map statementOutline))) := by
  induction statements generalizing surface outline with
  | nil => simpa [Outline.append, Outline.concat] using h
  | cons statement rest ih =>
      simpa [Outline.append, Outline.concat] using ih (records_addStatement h statement)

theorem records_surfaceOf (statements : List Statement) :
    (surfaceOf statements).Records (.concat (statements.map statementOutline)) := by
  have added := records_foldl .empty statements
  exact Surface.Records.withoutRepetitions ⟨added.imports, added.bases⟩

end Python

/-- The outline of a text in the language of its path. -/
def Outline.ofText (path content : String) : Outline :=
  match Language.ofPath? path with
  | none => {}
  | some .python =>
      match Python.parseModule content with
      | .ok statements => .concat (statements.map Python.statementOutline)
      | .error _ => {}
  | some (.script dialect) =>
      let src := Script.Source.ofText dialect content
      Script.outlineOf src (Script.parse src)

theorem parseSource_records {path content : String} {surface : Surface}
    (h : parseSource path content = .ok surface) :
    surface.Records (.ofText path content) := by
  rcases language_of_parseSource h with ⟨language, read⟩ | ⟨dialect, language, read⟩
  · obtain ⟨statements, parsed, rfl⟩ := Python.exists_of_parseSurface read
    simp only [Outline.ofText, language, parsed]
    exact Python.records_surfaceOf statements
  · simp only [Outline.ofText, language]
    exact Script.records_of_parseSurface read

end CommitLens
