import CommitLens.Proofs.Change.Breaking
import CommitLens.Proofs.Script.Comments
import CommitLens.Proofs.Script.Interfaces

/-!
# Variables of patterns

A pattern binds the variables at its places; those in its default values and its computed keys
belong to expressions.  Main statement: a declaration records and exports both, in source
order.  So between two versions that bind the same names in their exported patterns and export
the same names otherwise, exactly those exports are reported as removed that the old version
only reads in its patterns and the new one does not have.
-/

namespace CommitLens.Script

/-- A name below a pattern, and whether the pattern binds it there.  Otherwise it belongs to an
expression, and as far as the pattern goes it is only read. -/
structure Occurrence where
  name : String
  isBound : Bool
  deriving Repr, DecidableEq

namespace Occurrence

/-- All names, in source order. -/
def names (found : List Occurrence) : List String :=
  found.map (·.name)

/-- The names that are bound, in source order. -/
def bindings (found : List Occurrence) : List String :=
  names (found.filter (·.isBound))

/-- The names that are only read, in source order. -/
def reads (found : List Occurrence) : List String :=
  names (found.filter fun occurrence => !occurrence.isBound)

/-- Names that are bound wherever they occur. -/
def allBound (names : List String) : List Occurrence :=
  names.map fun name => ⟨name, true⟩

variable {found more : List Occurrence} {name : String}

@[simp] theorem names_append : names (found ++ more) = names found ++ names more :=
  List.map_append

theorem names_flatMap {α : Type} (items : List α) (f : α → List Occurrence) :
    names (items.flatMap f) = items.flatMap fun item => names (f item) :=
  List.map_flatMap

@[simp] theorem names_allBound (items : List String) : names (allBound items) = items := by
  simp [names, allBound, Function.comp_def]

theorem mem_names_iff : name ∈ names found ↔ name ∈ bindings found ∨ name ∈ reads found := by
  simp only [names, bindings, reads, List.mem_map, List.mem_filter]
  constructor
  · rintro ⟨occurrence, member, rfl⟩
    cases bound : occurrence.isBound with
    | true => exact .inl ⟨occurrence, ⟨member, bound⟩, rfl⟩
    | false => exact .inr ⟨occurrence, ⟨member, by simp [bound]⟩, rfl⟩
  · rintro (⟨occurrence, member, rfl⟩ | ⟨occurrence, member, rfl⟩)
    · exact ⟨occurrence, member.1, rfl⟩
    · exact ⟨occurrence, member.1, rfl⟩

/-- All names are bound exactly if none is only read. -/
theorem names_eq_bindings_iff : names found = bindings found ↔ reads found = [] := by
  rw [eq_comm, bindings, names, names, map_filter_eq_map_iff]
  simp [reads, names]

end Occurrence

open Occurrence (allBound bindings mem_names_iff names names_allBound names_append
  names_eq_bindings_iff names_flatMap reads)

/-! ## Names below a tree -/

variable (src : Source)

/-- The names below a tree that binds none of them. -/
def readBelow (tree : Tree) : List Occurrence :=
  (boundNames src tree).map fun name => ⟨name, false⟩

mutual

/-- The names below what stands at a place of a pattern.  A variable is bound there; so is
what stands at the places of a pattern.  Anything else, such as a member that is assigned to,
is only read. -/
def occurrences : Tree → List Occurrence
  | .node kind role start stop children =>
      let tree := Tree.node kind role start stop children
      match kind with
      | .identifier | .shorthandBinding =>
          ⟨src.text tree, true⟩ :: children.flatMap (readBelow src)
      | .pattern => occurrencesOf children
      | _ => readBelow src tree

/-- The names below the parts of a pattern.  Default values are only read, and so are keys:
those in square brackets are expressions, and the others are no variables. -/
def occurrencesOf : List Tree → List Occurrence
  | [] => []
  | tree :: rest =>
      (if tree.role == .value then readBelow src tree else occurrences tree) ++ occurrencesOf rest

end

/-- The patterns of a declaration of variables. -/
def patternsOf (tree : Tree) : List Tree :=
  if tree.kind = .variableDeclaration then
    (tree.namedChildren.filter fun child => child.kind == .variableDeclarator).flatMap
      fun declarator => (declarator.child? .name).toList
  else []

/-- The names below the patterns of a declaration. -/
def variableOccurrences (tree : Tree) : List Occurrence :=
  (patternsOf tree).flatMap (occurrences src)

/-- The names of one declaration; what is no declaration of variables binds its name. -/
def ownOccurrences (tree : Tree) : List Occurrence :=
  if tree.kind = .variableDeclaration then variableOccurrences src tree
  else allBound (declareNamed src tree).names

/-- The names of all declarations that a declaration consists of. -/
def declaredOccurrences (tree : Tree) : List Occurrence :=
  (declarations tree).flatMap (ownOccurrences src)

/-- The names below the patterns of a statement at the top level, exported or not. -/
def statementOccurrences (tree : Tree) : List Occurrence :=
  (statementDeclarations tree).flatMap (variableOccurrences src)

/-- The names that a statement exports. -/
def exportOccurrences (tree : Tree) : List Occurrence :=
  match tree.kind, tree.child? .declaration with
  | .exportStatement, some declaration =>
      if hasMark src tree "default" then allBound ["default"]
      else declaredOccurrences src declaration
  | _, _ => allBound (statementSurface src tree).exports

variable {src} {tree : Tree}

theorem names_readBelow : names (readBelow src tree) = boundNames src tree := by
  simp [names, readBelow, Function.comp_def]

theorem names_flatMap_readBelow (trees : List Tree) :
    names (trees.flatMap (readBelow src)) = trees.flatMap (boundNames src) := by
  simp only [names_flatMap, names_readBelow]

theorem names_occurrencesOf {trees : List Tree}
    (h : ∀ tree ∈ trees, names (occurrences src tree) = boundNames src tree) :
    names (occurrencesOf src trees) = trees.flatMap (boundNames src) := by
  induction trees with
  | nil => simp [occurrencesOf, names]
  | cons tree rest ih =>
      rw [List.forall_mem_cons] at h
      rw [occurrencesOf, names_append, ih h.2, List.flatMap_cons]
      split
      · rw [names_readBelow]
      · rw [h.1]

/-- No name is left out and none is added: by induction on the tree, for the names of a node
are its own and those of its children. -/
theorem names_occurrences (src : Source) (tree : Tree) :
    names (occurrences src tree) = boundNames src tree := by
  induction tree using Tree.induct with
  | step tree ih =>
      obtain ⟨kind, role, start, stop, children⟩ := tree
      have variable_ : names (⟨src.text (.node kind role start stop children), true⟩ ::
          children.flatMap (readBelow src)) =
            src.text (.node kind role start stop children) :: children.flatMap (boundNames src) := by
        rw [← names_flatMap_readBelow]
        rfl
      unfold occurrences
      dsimp only
      split
      · rw [variable_, boundNames_eq]
        rfl
      · rw [variable_, boundNames_eq]
        rfl
      · rw [boundNames_eq]
        exact names_occurrencesOf ih
      · exact names_readBelow

/-! ## Declarations -/

theorem declareVariables_eq (h : tree.kind = .variableDeclaration) :
    declareVariables src tree =
      ⟨{ variableNames := names (variableOccurrences src tree) },
        names (variableOccurrences src tree)⟩ := by
  have names : (tree.namedChildren.filter fun child => child.kind == .variableDeclarator).flatMap
      (fun declarator => (declarator.child? .name).elim [] (boundNames src)) =
        names (variableOccurrences src tree) := by
    rw [variableOccurrences, names_flatMap, patternsOf, if_pos h, List.flatMap_assoc]
    refine List.flatMap_congr fun declarator _ => ?_
    cases declarator.child? .name <;> simp [names_occurrences]
  rw [declareVariables, names]

theorem declarations_of_ne (h : tree.kind ≠ .ambientDeclaration) : declarations tree = [tree] := by
  unfold declarations
  split
  · contradiction
  · rfl

theorem variableNames_declareNamed (src : Source) (tree : Tree) :
    (declareNamed src tree).surface.variableNames = [] := by
  unfold declareNamed
  dsimp only
  split
  · rfl
  · split <;> rfl

theorem patternsOf_of_ne (h : tree.kind ≠ .variableDeclaration) : patternsOf tree = [] := by
  simp [patternsOf, h]

/-- What a declaration records, and the names that it gives to an export. -/
structure HasOccurrences (declared : Declared) (all variable_ : List Occurrence) : Prop where
  given : declared.names = names all
  recorded : declared.surface.variableNames = names variable_

theorem HasOccurrences.append {a b : Declared} {all variable_ others more : List Occurrence}
    (ha : HasOccurrences a all variable_) (hb : HasOccurrences b others more) :
    HasOccurrences (a.append b) (all ++ others) (variable_ ++ more) where
  given := by
    rw [names_append, ← ha.given, ← hb.given]
    rfl
  recorded := by
    rw [names_append, ← ha.recorded, ← hb.recorded]
    rfl

theorem has_declareAll {trees : List Tree}
    (h : ∀ tree ∈ trees, HasOccurrences (declare src tree) (declaredOccurrences src tree)
      ((declarations tree).flatMap (variableOccurrences src))) :
    HasOccurrences (declareAll src trees) ((declarationsOf trees).flatMap (ownOccurrences src))
      ((declarationsOf trees).flatMap (variableOccurrences src)) := by
  induction trees with
  | nil =>
      rw [declareAll, declarationsOf]
      exact ⟨rfl, rfl⟩
  | cons tree rest ih =>
      rw [List.forall_mem_cons] at h
      rw [declareAll, declarationsOf, List.flatMap_append, List.flatMap_append]
      refine HasOccurrences.append ?_ (ih h.2)
      split
      · exact h.1
      · exact ⟨rfl, rfl⟩

/-- What holds of the parts of a declaration holds of the whole. -/
theorem has_declare (src : Source) (tree : Tree) :
    HasOccurrences (declare src tree) (declaredOccurrences src tree)
      ((declarations tree).flatMap (variableOccurrences src)) := by
  induction tree using Tree.induct with
  | step tree ih =>
      by_cases ha : tree.kind = .ambientDeclaration
      · obtain ⟨kind, role, start, stop, children⟩ := tree
        obtain rfl : kind = .ambientDeclaration := ha
        rw [declare, declaredOccurrences, declarations]
        exact has_declareAll ih
      · rw [declaredOccurrences, declarations_of_ne ha, List.flatMap_singleton,
          List.flatMap_singleton]
        by_cases hv : tree.kind = .variableDeclaration
        · rw [declare_of_variables hv, declareVariables_eq hv, ownOccurrences, if_pos hv]
          exact ⟨rfl, rfl⟩
        · rw [declare_of_named ha hv, ownOccurrences, if_neg hv]
          refine ⟨(names_allBound _).symm, ?_⟩
          rw [variableNames_declareNamed, variableOccurrences, patternsOf_of_ne hv]
          rfl

/-! ## Programs -/

/-- What a statement declares and exports are its names in source order. -/
theorem variableNames_statementSurface (src : Source) (tree : Tree) :
    (statementSurface src tree).variableNames = names (statementOccurrences src tree) := by
  unfold statementSurface statementOccurrences statementDeclarations
  cases tree.kind with
  | importStatement => rw [importOf_eq_imports]; rfl
  | expressionStatement => rw [assignmentExports_eq_exports]; rfl
  | exportStatement =>
      dsimp only
      cases h : tree.child? .declaration with
      | none => rw [exportOf_eq_exports h]; rfl
      | some declaration =>
          rw [Option.elim_some, ← (has_declare src declaration).recorded, exportOf, h]
          exact List.append_nil _
  | _ => exact (has_declare src tree).recorded

theorem exports_statementSurface (src : Source) (tree : Tree) :
    (statementSurface src tree).exports = names (exportOccurrences src tree) := by
  unfold exportOccurrences
  split
  · rename_i declaration kind found
    have none : (declare src declaration).surface.exports = [] :=
      congrArg Exchange.exports (exchange_declare src declaration)
    rw [statementSurface, kind, exportOf, found]
    show (declare src declaration).surface.exports ++ _ = _
    rw [none, List.nil_append]
    split
    · rfl
    · exact (has_declare src declaration).given
  · rw [names_allBound]

/-- The names below the patterns that a program declares. -/
def variablesOf (src : Source) (program : Tree) : List Occurrence :=
  program.namedChildren.flatMap (statementOccurrences src)

/-- The names that a program exports. -/
def exportsOf (src : Source) (program : Tree) : List Occurrence :=
  program.namedChildren.flatMap (exportOccurrences src)

theorem variableNames_surfaceOf (src : Source) (program : Tree) :
    (surfaceOf src program).variableNames = unique (names (variablesOf src program)) := by
  show unique (Surface.concat _).variableNames = _
  rw [Surface.concat_eq_flatMap (·.variableNames) rfl fun _ _ => rfl, List.flatMap_map,
    variablesOf, names_flatMap]
  simp only [variableNames_statementSurface]

theorem exports_surfaceOf (src : Source) (program : Tree) :
    (surfaceOf src program).exports = unique (names (exportsOf src program)) := by
  show unique (Surface.concat _).exports = _
  rw [Surface.concat_eq_flatMap (·.exports) rfl fun _ _ => rfl, List.flatMap_map,
    exportsOf, names_flatMap]
  simp only [exports_statementSurface]

/-! ## Two versions -/

/-- If all names that the old version binds are exports of the new one, the removed exports
are names that the old version only reads. -/
theorem exportRemoved_mem_deltas_iff_reads {old new : Surface} {before after : List Occurrence}
    (oldExports : old.exports = unique (names before))
    (newExports : new.exports = unique (names after))
    (kept : bindings before ⊆ names after) (name : String) :
    NameChange.exportRemoved.delta name ∈ Surface.deltas old new ↔
      name ∈ reads before ∧ name ∉ names after := by
  rw [Surface.exportRemoved_mem_deltas, oldExports, newExports, mem_unique, mem_unique,
    mem_names_iff]
  constructor
  · rintro ⟨bound | read, gone⟩
    · exact absurd (kept bound) gone
    · exact ⟨read, gone⟩
  · rintro ⟨read, gone⟩
    exact ⟨.inr read, gone⟩

/-- What a text declares and exports, and what an edit of it removes.  Recorded are all names
below the patterns of its declarations, so those that the patterns bind and no others exactly
if nothing is read there.  An edit that keeps the names that are bound removes the exports
that were only read, unless they are exported after it. -/
theorem parseSurface_occurrences {dialect newDialect : Dialect} {text newText : String}
    {old new : Surface} (oldRead : parseSurface dialect text = .ok old)
    (newRead : parseSurface newDialect newText = .ok new) :
    let src := Source.ofText dialect text
    let program := parse src
    let edited := exportsOf (.ofText newDialect newText) (parse (.ofText newDialect newText))
    old.variableNames = unique (names (variablesOf src program)) ∧
    old.exports = unique (names (exportsOf src program)) ∧
    (∀ statement ∈ program.namedChildren,
      ((statementSurface src statement).variableNames =
          bindings (statementOccurrences src statement) ↔
        reads (statementOccurrences src statement) = []) ∧
      ((statementSurface src statement).exports =
          bindings (exportOccurrences src statement) ↔
        reads (exportOccurrences src statement) = [])) ∧
    (bindings (exportsOf src program) ⊆ names edited →
      ∀ name, NameChange.exportRemoved.delta name ∈ Surface.deltas old new ↔
        name ∈ reads (exportsOf src program) ∧ name ∉ names edited) := by
  intro src program edited
  have before : old = surfaceOf src program := (of_parseSurface oldRead).2
  have after := (of_parseSurface newRead).2
  have oldExports : old.exports = unique (names (exportsOf src program)) := by
    rw [before, exports_surfaceOf]
  have newExports : new.exports = unique (names edited) := by
    rw [after, exports_surfaceOf]
  refine ⟨?_, oldExports, fun statement _ => ⟨?_, ?_⟩, fun kept name =>
    exportRemoved_mem_deltas_iff_reads oldExports newExports kept name⟩
  · rw [before, variableNames_surfaceOf]
  · rw [variableNames_statementSurface, names_eq_bindings_iff]
  · rw [exports_statementSurface, names_eq_bindings_iff]

/-- Two names are read in an exported pattern, and one in a pattern that is not exported.  After
the edit, one of the exported ones is not there any more. -/
theorem parseSurface_occurrences_edited :
    let text := "export const \x7b x = a, [k]: [y] \x7d = 0\nlet [z = b] = 0\n"
    let newText := "export const \x7b x = k, [l]: [y] \x7d = 0\n"
    let old : Surface :=
      { exports := ["x", "a", "k", "y"], variableNames := ["x", "a", "k", "y", "z", "b"] }
    let new : Surface :=
      { exports := ["x", "k", "l", "y"], variableNames := ["x", "k", "l", "y"] }
    let before := exportsOf (.ofText .typed text) (parse (.ofText .typed text))
    parseSurface .typed text = .ok old ∧ parseSurface .typed newText = .ok new ∧
      before = [⟨"x", true⟩, ⟨"a", false⟩, ⟨"k", false⟩, ⟨"y", true⟩] ∧
      ∀ name, NameChange.exportRemoved.delta name ∈ Surface.deltas old new ↔
        name ∈ reads before ∧ name ∉ ["x", "k", "l", "y"] := by
  intro text newText old new before
  have oldRead : parseSurface .typed text = .ok old := by decide +kernel
  have newRead : parseSurface .typed newText = .ok new := by decide +kernel
  have found : before = [⟨"x", true⟩, ⟨"a", false⟩, ⟨"k", false⟩, ⟨"y", true⟩] := by
    decide +kernel
  have edited : names (exportsOf (.ofText .typed newText) (parse (.ofText .typed newText))) =
      ["x", "k", "l", "y"] := by
    decide +kernel
  have told := (parseSurface_occurrences oldRead newRead).2.2.2
  rw [edited] at told
  refine ⟨oldRead, newRead, found, told ?_⟩
  show bindings before ⊆ _
  rw [found]
  decide

/-- The default value of a binding is read, and is recorded and exported like the binding; with
another default value, an export seems to be removed. -/
theorem parseSurface_exportsDefault :
    let text := "export const \x7b x = A \x7d = \x7b\x7d;\n"
    let newText := "export const \x7b x = B \x7d = \x7b\x7d;\n"
    let src := Source.ofText .typed text
    bindings (variablesOf src (parse src)) = ["x"] ∧
      parseSurface .typed text = .ok { exports := ["x", "A"], variableNames := ["x", "A"] } ∧
      parseSurface .typed newText = .ok { exports := ["x", "B"], variableNames := ["x", "B"] } ∧
      NameChange.exportRemoved.delta "A" ∈
        Surface.deltas { exports := ["x", "A"], variableNames := ["x", "A"] }
          { exports := ["x", "B"], variableNames := ["x", "B"] } := by
  intro text newText src
  exact ⟨by decide +kernel, by decide +kernel, by decide +kernel,
    Surface.exportRemoved_mem_deltas.mpr (by decide)⟩

end CommitLens.Script
