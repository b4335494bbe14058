import CommitLens.Proofs.Script.Spelling

/-!
# Interfaces declared in parts

A script may declare an interface several times.  Main statement: what its surface records
for an interface are the members of all its declarations at the top level, one declaration
behind the other.
-/

namespace CommitLens

/-! ## Members by interface -/

/-- The members that all entries of one interface have together, if there is an entry. -/
def gathered (name : String) :
    List (String × List InterfaceMember) → Option (List InterfaceMember)
  | [] => none
  | (other, members) :: rest =>
      if other == name then some (members ++ (gathered name rest).getD [])
      else gathered name rest

section Gathered

variable {name other : String} {members : List InterfaceMember}
  {entries more : List (String × List InterfaceMember)}

theorem gathered_append :
    gathered name (entries ++ more) =
      (gathered name entries).merge (· ++ ·) (gathered name more) := by
  induction entries with
  | nil => cases h : gathered name more <;> simp [gathered, h]
  | cons entry rest ih =>
      obtain ⟨other, members⟩ := entry
      by_cases h : other = name
      · cases hr : gathered name rest <;> cases hm : gathered name more <;>
          simp [gathered, h, ih, hr, hm]
      · simp [gathered, h, ih]

theorem gathered_eq_none (h : name ∉ entries.map Prod.fst) : gathered name entries = none := by
  induction entries with
  | nil => rfl
  | cons entry rest ih =>
      obtain ⟨other, members⟩ := entry
      rw [List.map_cons, List.mem_cons, not_or] at h
      simp [gathered, Ne.symm h.1, ih h.2]

/-- Adding members to an interface puts them behind those it has. -/
theorem gathered_addMembers (h : (entries.map Prod.fst).Nodup) :
    gathered name (addMembers other members entries) =
      gathered name (entries ++ [(other, members)]) := by
  induction entries with
  | nil => rfl
  | cons entry rest ih =>
      obtain ⟨first, known⟩ := entry
      rw [List.map_cons, List.nodup_cons] at h
      by_cases same : first = other
      · subst same
        have absent : gathered first rest = none := gathered_eq_none h.1
        by_cases here : first = name
        · subst here
          simp [addMembers, gathered, gathered_append, absent]
        · simp [addMembers, gathered, gathered_append, here]
      · have step : addMembers other members ((first, known) :: rest) =
            (first, known) :: addMembers other members rest := by simp [addMembers, same]
        rw [step, List.cons_append, gathered, gathered, ih h.2]

theorem gathered_foldl_addMembers (h : (entries.map Prod.fst).Nodup) :
    gathered name
        (more.foldl (fun known (name, members) => addMembers name members known) entries) =
      gathered name (entries ++ more) := by
  induction more generalizing entries with
  | nil => simp
  | cons entry rest ih =>
      have kept : ((addMembers entry.1 entry.2 entries).map Prod.fst).Nodup := by
        rw [map_fst_addMembers]
        exact nodup_appendNew entry.1 h
      rw [List.foldl_cons, ih kept, gathered_append, gathered_addMembers h, ← gathered_append,
        List.append_assoc, List.singleton_append]

/-- With every interface listed once, its only entry has all its members. -/
theorem find?_eq_gathered (h : (entries.map Prod.fst).Nodup) :
    (entries.find? fun entry => entry.1 == name).map (·.2) = gathered name entries := by
  induction entries with
  | nil => rfl
  | cons entry rest ih =>
      obtain ⟨first, known⟩ := entry
      rw [List.map_cons, List.nodup_cons] at h
      by_cases here : first = name
      · subst here
        simp [gathered, gathered_eq_none h.1]
      · simpa [gathered, here] using ih h.2

end Gathered

namespace Surface

variable {name : String} {a b : Surface}

/-- The members of an interface in two parts of a module, those of the first part first. -/
theorem gathered_append (h : (a.interfaceMembers.map Prod.fst).Nodup) :
    gathered name (a ++ b).interfaceMembers =
      gathered name (a.interfaceMembers ++ b.interfaceMembers) :=
  gathered_foldl_addMembers h

theorem gathered_concat (parts : List Surface) :
    gathered name (concat parts).interfaceMembers =
      gathered name (parts.flatMap (·.interfaceMembers)) := by
  have each (done : Surface) (h : (done.interfaceMembers.map Prod.fst).Nodup) :
      gathered name (parts.foldl append done).interfaceMembers =
        gathered name (done.interfaceMembers ++ parts.flatMap (·.interfaceMembers)) := by
    induction parts generalizing done with
    | nil => simp
    | cons part rest ih =>
        have kept : ((done.append part).interfaceMembers.map Prod.fst).Nodup :=
          nodup_foldl_addMembers h
        have joined : gathered name (done.append part).interfaceMembers =
            gathered name (done.interfaceMembers ++ part.interfaceMembers) := gathered_append h
        rw [List.foldl_cons, ih _ kept, CommitLens.gathered_append, joined,
          ← CommitLens.gathered_append, List.append_assoc, List.flatMap_cons]
  exact each {} List.nodup_nil

end Surface

/-! ## Declarations -/

namespace Script

variable (src : Source)

/-- The members that one declaration gives to the interface that it declares. -/
def ownMembers (tree : Tree) : List (String × List InterfaceMember) :=
  if tree.kind == .interfaceDeclaration && !(textOf src (tree.child? .name)).isEmpty then
    membersOf src tree
  else []

mutual

/-- The declarations that a declaration consists of: itself, or those that it marks as
being elsewhere. -/
def declarations : Tree → List Tree
  | .node .ambientDeclaration _ _ _ children => declarationsOf children
  | tree => [tree]

def declarationsOf : List Tree → List Tree
  | [] => []
  | tree :: rest => (if tree.isNamed then declarations tree else []) ++ declarationsOf rest

end

/-- The declarations of a statement at the top level, exported or not. -/
def statementDeclarations (tree : Tree) : List Tree :=
  match tree.kind with
  | .importStatement | .expressionStatement => []
  | .exportStatement => (tree.child? .declaration).elim [] declarations
  | _ => declarations tree

/-- The declarations of interfaces in a program, in source order and each with its own
members. -/
def interfacesOf (program : Tree) : List (String × List InterfaceMember) :=
  (program.namedChildren.flatMap statementDeclarations).flatMap (ownMembers src)

variable {src} {tree : Tree} {name : String}

theorem interfaceMembers_declareNamed :
    (declareNamed src tree).surface.interfaceMembers = ownMembers src tree := by
  unfold declareNamed ownMembers
  dsimp only
  split
  · simp [*]
  · split <;> simp_all

theorem nodup_declareAll {trees : List Tree}
    (h : ∀ tree ∈ trees, ((declare src tree).surface.interfaceMembers.map Prod.fst).Nodup) :
    ((declareAll src trees).surface.interfaceMembers.map Prod.fst).Nodup := by
  cases trees with
  | nil => simp [declareAll]
  | cons tree rest =>
      rw [declareAll]
      refine nodup_foldl_addMembers ?_
      split
      · exact h tree List.mem_cons_self
      · exact List.nodup_nil

theorem nodup_declare (src : Source) (tree : Tree) :
    ((declare src tree).surface.interfaceMembers.map Prod.fst).Nodup := by
  induction tree using Tree.induct with
  | step tree ih =>
      unfold declare
      split
      · exact nodup_declareAll ih
      · exact List.nodup_nil
      · rw [interfaceMembers_declareNamed]
        unfold ownMembers membersOf
        split
        · split <;> simp
        · exact List.nodup_nil

theorem gathered_declareAll {trees : List Tree}
    (h : ∀ tree ∈ trees, gathered name (declare src tree).surface.interfaceMembers =
      gathered name ((declarations tree).flatMap (ownMembers src))) :
    gathered name (declareAll src trees).surface.interfaceMembers =
      gathered name ((declarationsOf trees).flatMap (ownMembers src)) := by
  induction trees with
  | nil => simp [declareAll, declarationsOf]
  | cons tree rest ih =>
      rw [List.forall_mem_cons] at h
      have first : gathered name (if tree.isNamed then declare src tree else {}).surface.interfaceMembers =
          gathered name ((if tree.isNamed then declarations tree else []).flatMap (ownMembers src)) := by
        split
        · exact h.1
        · rfl
      have once : ((if tree.isNamed then declare src tree else {}).surface.interfaceMembers.map
          Prod.fst).Nodup := by
        split
        · exact nodup_declare src tree
        · exact List.nodup_nil
      rw [declareAll, declarationsOf, List.flatMap_append, gathered_append, ← ih h.2, ← first,
        ← gathered_append]
      exact Surface.gathered_append once

theorem gathered_declare (name : String) (src : Source) (tree : Tree) :
    gathered name (declare src tree).surface.interfaceMembers =
      gathered name ((declarations tree).flatMap (ownMembers src)) := by
  induction tree using Tree.induct with
  | step tree ih =>
      unfold declare
      split
      · rw [declarations]
        exact gathered_declareAll ih
      · have kind : (Kind.variableDeclaration == Kind.interfaceDeclaration) = false := rfl
        simp [declarations, declareVariables, ownMembers, Tree.kind, kind]
      · rename_i notAmbient _
        have alone : declarations tree = [tree] := by
          unfold declarations
          split
          · exact absurd rfl (notAmbient _ _ _ _)
          · rfl
        rw [interfaceMembers_declareNamed, alone, List.flatMap_singleton]

/-! ## Programs -/

theorem importOf_eq_imports (src : Source) (tree : Tree) :
    importOf src tree = { imports := (importOf src tree).imports } := by
  unfold importOf importPart
  dsimp only
  split <;> rfl

theorem assignmentExports_eq_exports (src : Source) (tree : Tree) :
    assignmentExports src tree = { exports := (assignmentExports src tree).exports } := by
  unfold assignmentExports
  split
  · split <;> rfl
  · rfl

/-- Without a declaration, an export only hands names on. -/
theorem exportOf_eq_exports (h : tree.child? .declaration = none) :
    exportOf src tree =
      { exports := (exportOf src tree).exports, reexports := (exportOf src tree).reexports } := by
  unfold exportOf exportList
  rw [h]
  dsimp only
  split
  · rfl
  · cases tree.child? .source <;> rfl

theorem interfaceMembers_exportOf (src : Source) (tree : Tree) :
    (exportOf src tree).interfaceMembers =
      (tree.child? .declaration).elim [] fun child => (declare src child).surface.interfaceMembers := by
  cases h : tree.child? .declaration with
  | some child =>
      unfold exportOf
      rw [h]
      rfl
  | none =>
      rw [exportOf_eq_exports h]
      rfl

theorem gathered_statementSurface (name : String) (src : Source) (tree : Tree) :
    gathered name (statementSurface src tree).interfaceMembers =
      gathered name ((statementDeclarations tree).flatMap (ownMembers src)) := by
  unfold statementSurface statementDeclarations
  cases tree.kind with
  | importStatement => rw [importOf_eq_imports]; rfl
  | expressionStatement => rw [assignmentExports_eq_exports]; rfl
  | exportStatement =>
      dsimp only
      rw [interfaceMembers_exportOf]
      cases tree.child? .declaration with
      | none => rfl
      | some child => exact gathered_declare name src child
  | _ => exact gathered_declare name src tree

theorem gathered_statements (name : String) (src : Source) (trees : List Tree) :
    gathered name (trees.flatMap fun tree => (statementSurface src tree).interfaceMembers) =
      gathered name ((trees.flatMap statementDeclarations).flatMap (ownMembers src)) := by
  induction trees with
  | nil => rfl
  | cons tree rest ih =>
      rw [List.flatMap_cons, List.flatMap_cons, List.flatMap_append, gathered_append,
        gathered_append, gathered_statementSurface, ih]

/-- The surface of a script has the members of all declarations of an interface. -/
theorem members?_of_parseSurface {dialect : Dialect} {text : String} {surface : Surface}
    (h : parseSurface dialect text = .ok surface) (name : String) :
    surface.members? name = gathered name
      (interfacesOf (.ofText dialect text) (parse (.ofText dialect text))) := by
  have once := (parseSurface_distinct h).interfaces
  rw [Surface.members?, find?_eq_gathered once]
  obtain ⟨-, rfl⟩ := of_parseSurface h
  show gathered name (Surface.concat _).interfaceMembers = _
  rw [Surface.gathered_concat, List.flatMap_map, gathered_statements]
  rfl

end Script

end CommitLens
