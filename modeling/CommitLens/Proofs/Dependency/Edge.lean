import CommitLens.Proofs.Dependency.Graph
import Mathlib.Data.List.Perm.Basic

/-!
# The edges of one file

What a changed file depends on is read off its own new content; of the other files
only the paths are asked for, as the targets that imports can have.  Main
statement: in the graph of a change set, a file has the edges of its own content,
and the order of the known paths does not matter to them.
-/

namespace CommitLens

variable {known others : List String}

/-! ## Known paths in another order -/

namespace Resolve

theorem firstKnown?_perm (h : known.Perm others) (candidates : List String) :
    firstKnown? known candidates = firstKnown? others candidates := by
  have same : known.contains = others.contains := by
    funext candidate
    rw [Bool.eq_iff_iff, List.contains_iff_mem, List.contains_iff_mem, h.mem_iff]
  rw [firstKnown?, firstKnown?, same]

theorem pairwise_mergeSort_le (paths : List String) :
    (paths.mergeSort fun a b => a ≤ b).Pairwise (· ≤ ·) := by
  have trans (a b c : String) (hab : decide (a ≤ b) = true) (hbc : decide (b ≤ c) = true) :
      decide (a ≤ c) = true :=
    decide_eq_true (String.le_trans (of_decide_eq_true hab) (of_decide_eq_true hbc))
  have total (a b : String) : (decide (a ≤ b) || decide (b ≤ a)) = true := by
    simpa using String.le_total a b
  exact (List.pairwise_mergeSort trans total paths).imp of_decide_eq_true

/-- Sorting forgets the order that the paths had. -/
theorem mergeSort_perm_eq (h : known.Perm others) :
    (known.mergeSort fun a b => a ≤ b) = others.mergeSort fun a b => a ≤ b :=
  List.Perm.eq_of_pairwise (fun _ _ _ _ => String.le_antisymm) (pairwise_mergeSort_le known)
    (pairwise_mergeSort_le others)
    ((List.mergeSort_perm known _).trans (h.trans (List.mergeSort_perm others _).symm))

theorem knownBelow?_perm (h : known.Perm others) (candidate : String) :
    knownBelow? known candidate = knownBelow? others candidate := by
  rw [knownBelow?, knownBelow?, mergeSort_perm_eq h]

theorem scriptImport_perm (h : known.Perm others) (source specifier : String) :
    scriptImport source specifier known = scriptImport source specifier others := by
  simp only [scriptImport, scriptPath, firstKnown?_perm h]

theorem dottedImport_perm (h : known.Perm others) (source : String) (ref : ImportRef) :
    dottedImport source ref known = dottedImport source ref others := by
  simp only [dottedImport, firstKnown?_perm h, knownBelow?_perm h]

end Resolve

theorem resolveImport_perm (h : known.Perm others) (source : String) (ref : ImportRef) :
    resolveImport source ref known = resolveImport source ref others := by
  simp only [resolveImport, Resolve.scriptImport_perm h, Resolve.dottedImport_perm h]

namespace Surface

theorem dependencies_perm (h : known.Perm others) (source : String) (surface : Surface) :
    surface.dependencies source known = surface.dependencies source others := by
  simp only [dependencies, resolveImport_perm h]

/-- A module declares no edges of other files. -/
theorem source_of_mem_dependencies {source : String} {surface : Surface} {edge : Dependency}
    (h : edge ∈ surface.dependencies source known) : edge.source = source := by
  simp only [dependencies, List.mem_append, List.mem_map, List.mem_filterMap] at h
  rcases h with (⟨ref, _, rfl⟩ | ⟨ref, _, rfl⟩) | ⟨⟨name, base⟩, _, hb⟩
  · rfl
  · rfl
  · split at hb
    · contradiction
    · obtain ⟨target, _, rfl⟩ := Option.map_eq_some_iff.mp hb
      rfl

end Surface

/-! ## The edges of one kind -/

namespace Surface

variable {source : String} {surface : Surface} {edge : Dependency}

/-- The edges to the modules that bases come from. -/
def uses (source : String) (surface : Surface) (known : List String) : List Dependency :=
  surface.heritage.filterMap fun (_, base) =>
    if surface.declarations.contains base then none
    else (baseTarget? source (surface.importedFrom fun ref => resolveImport source ref known)
      base).map fun target => ⟨source, target, .uses, [base]⟩

theorem dependencies_eq (source : String) (surface : Surface) (known : List String) :
    surface.dependencies source known =
      surface.imports.map (fun ref =>
        ⟨source, resolveImport source ref known, .imports, ref.symbols⟩) ++
      surface.reexports.map (fun ref =>
        ⟨source, resolveImport source ref known, .exports, ref.symbols⟩) ++
      surface.uses source known :=
  rfl

theorem mem_uses_iff :
    edge ∈ surface.uses source known ↔
      ∃ name base target, (name, base) ∈ surface.heritage ∧ base ∉ surface.declarations ∧
        baseTarget? source (surface.importedFrom fun ref => resolveImport source ref known) base =
          some target ∧
        edge = ⟨source, target, .uses, [base]⟩ := by
  simp only [uses, List.mem_filterMap]
  constructor
  · rintro ⟨⟨name, base⟩, hh, hb⟩
    by_cases declared : base ∈ surface.declarations
    · simp [declared] at hb
    · obtain ⟨target, ht, he⟩ : ∃ target, baseTarget? source
          (surface.importedFrom fun ref => resolveImport source ref known) base = some target ∧
          ⟨source, target, .uses, [base]⟩ = edge := by simpa [declared] using hb
      exact ⟨name, base, target, hh, declared, ht, he.symm⟩
  · rintro ⟨name, base, target, hh, undeclared, ht, rfl⟩
    exact ⟨(name, base), hh, by simp [undeclared, ht]⟩

theorem kind_of_mem_uses (h : edge ∈ surface.uses source known) :
    edge.kind = .uses := by
  obtain ⟨_, _, _, _, _, _, rfl⟩ := mem_uses_iff.mp h
  rfl

theorem filter_imports_dependencies (source : String) (surface : Surface) (known : List String) :
    (surface.dependencies source known).filter (·.kind == .imports) =
      surface.imports.map fun ref =>
        ⟨source, resolveImport source ref known, .imports, ref.symbols⟩ := by
  have others : (surface.uses source known).filter (·.kind == .imports) = [] :=
    List.filter_eq_nil_iff.mpr fun edge he => by simp [kind_of_mem_uses he]
  simp [dependencies_eq, List.filter_map, Function.comp_def, others]

theorem mem_dependencies_uses_iff :
    edge ∈ surface.dependencies source known ∧ edge.kind = .uses ↔
      edge ∈ surface.uses source known := by
  simp only [dependencies_eq, List.mem_append, List.mem_map]
  constructor
  · rintro ⟨(⟨ref, -, rfl⟩ | ⟨ref, -, rfl⟩) | he, hk⟩
    · contradiction
    · contradiction
    · exact he
  · exact fun he => ⟨.inr he, kind_of_mem_uses he⟩

/-- The first import of a name. -/
def importing? (surface : Surface) (name : String) : Option ImportRef :=
  surface.imports.find? fun ref => ref.symbols.contains name

theorem importing?_eq_none_iff {name : String} :
    surface.importing? name = none ↔ ∀ ref ∈ surface.imports, name ∉ ref.symbols := by
  simp [importing?]

theorem mem_of_importing? {name : String} {ref : ImportRef}
    (h : surface.importing? name = some ref) : ref ∈ surface.imports ∧ name ∈ ref.symbols :=
  ⟨List.mem_of_find?_eq_some h, by simpa using List.find?_some h⟩

theorem find?_symbols (ref : ImportRef) (target name : String) :
    (ref.symbols.map fun symbol => (symbol, target)).find? (fun entry => entry.1 == name) =
      if ref.symbols.contains name then some (name, target) else none := by
  rw [List.find?_map]
  split
  · rename_i h
    have found : (ref.symbols.find? fun symbol => symbol == name).isSome := by simpa using h
    obtain ⟨symbol, hs⟩ := Option.isSome_iff_exists.mp found
    obtain rfl : symbol = name := by simpa using List.find?_some hs
    exact congrArg (Option.map fun symbol => (symbol, target)) hs
  · rename_i h
    have none : (ref.symbols.find? fun symbol => symbol == name) = none := by
      rw [List.find?_eq_none]
      rintro symbol hs he
      obtain rfl : symbol = name := by simpa using he
      exact h (List.contains_iff_mem.mpr hs)
    exact congrArg (Option.map fun symbol => (symbol, target)) none

theorem find?_importedFrom (surface : Surface) (resolve : ImportRef → String) (name : String) :
    (surface.importedFrom resolve).find? (fun entry => entry.1 == name) =
      (surface.importing? name).map fun ref => (name, resolve ref) := by
  unfold importedFrom importing?
  induction surface.imports with
  | nil => rfl
  | cons ref rest ih =>
      rw [List.flatMap_cons, List.find?_append, find?_symbols, List.find?_cons, ih]
      cases ref.symbols.contains name <;> rfl

/-- Where a base is looked for beside the module. -/
def besideModule (source base : String) : String :=
  Path.join (Path.directory source) (base ++ (Path.splitExtension source).2)

/-- A base comes from the first import of its name, or is looked for beside the module. -/
theorem baseTarget?_eq (source : String) (surface : Surface) (resolve : ImportRef → String)
    (base : String) :
    baseTarget? source (surface.importedFrom resolve) base =
      match surface.importing? base with
      | some ref => some (resolve ref)
      | none =>
          if (Path.splitExtension source).2 == ".py" then none
          else some (besideModule source base) := by
  rw [baseTarget?, find?_importedFrom]
  cases surface.importing? base <;> rfl

end Surface

/-! ## Edges of a change set -/

namespace Change

variable {change : Change} {changes : List Change}

theorem dependencyEdges_perm (h : known.Perm others) (change : Change) :
    change.dependencyEdges known = change.dependencyEdges others := by
  simp only [dependencyEdges, Surface.dependencies_perm h]

theorem source_of_mem_dependencyEdges {edge : Dependency}
    (h : edge ∈ change.dependencyEdges known) : edge.source = change.path := by
  unfold dependencyEdges at h
  split at h
  · contradiction
  · split at h
    · exact Surface.source_of_mem_dependencies h
    · contradiction

theorem filter_dependencyEdges (known : List String) (change : Change) :
    ((change.dependencyEdges known).filter fun edge => edge.source = change.path) =
      change.dependencyEdges known := by
  rw [List.filter_eq_self]
  intro edge h
  exact decide_eq_true (source_of_mem_dependencyEdges h)

theorem filter_dependencyEdges_of_ne {path : String} (known : List String)
    (h : change.path ≠ path) :
    ((change.dependencyEdges known).filter fun edge => edge.source = path) = [] := by
  rw [List.filter_eq_nil_iff]
  intro edge hm
  rw [decide_eq_true_iff, source_of_mem_dependencyEdges hm]
  exact h

/-- With every path changed once, the edges of a path are those of one change. -/
theorem filter_flatMap_dependencyEdges (distinct : (changes.map (·.path)).Nodup)
    (hm : change ∈ changes) :
    ((changes.flatMap (dependencyEdges known)).filter fun edge => edge.source = change.path) =
      change.dependencyEdges known := by
  induction changes with
  | nil => contradiction
  | cons first rest ih =>
      rw [List.map_cons, List.nodup_cons] at distinct
      rw [List.flatMap_cons, List.filter_append]
      rcases List.mem_cons.mp hm with rfl | hr
      · have none : ((rest.flatMap (dependencyEdges known)).filter fun edge =>
            edge.source = change.path) = [] := by
          rw [List.filter_flatMap, List.flatMap_eq_nil_iff]
          intro other ho
          refine filter_dependencyEdges_of_ne known fun he => distinct.1 ?_
          exact List.mem_map.mpr ⟨other, ho, he⟩
        rw [none, filter_dependencyEdges, List.append_nil]
      · have ne : first.path ≠ change.path := fun he =>
          distinct.1 (List.mem_map.mpr ⟨change, hr, he.symm⟩)
        rw [filter_dependencyEdges_of_ne known ne, List.nil_append, ih distinct.2 hr]

end Change

theorem DependencyGraph.outgoing_ofChanges {change : Change} {changes : List Change}
    (distinct : (changes.map (·.path)).Nodup) (hm : change ∈ changes) :
    (ofChanges changes).outgoing change.path =
      unique (change.dependencyEdges (changes.map (·.path))) := by
  rw [ofChanges, outgoing_ofEdges, Change.filter_flatMap_dependencyEdges distinct hm]

end CommitLens
