import CommitLens.Proofs.Dependency.Related
import CommitLens.Proofs.Dependency.Resolve

/-!
# Imports of packages

An import of names from a package, given by dots alone, may mean several modules of the
package.  Main statement: it leads to the first of them that is known and to no other, so
a file depends on a later one only through something else that it declares.
-/

namespace CommitLens

variable {known : List String} {source target : String} {surface : Surface} {ref : ImportRef}

namespace Resolve

/-- Where a name of a package is kept if it is a module. -/
def memberPath (source : String) (levels : Nat) (name : String) : String :=
  Path.join (packageAbove source levels) (name ++ ".py")

/-- Names of a package: the first that is a known module, or else the package. -/
theorem resolveImport_of_package {levels : Nat} (python : source.endsWith ".py" = true)
    (hs : ref.specifier = Python.relativeSpecifier (levels + 1) none) :
    resolveImport source ref known =
      (firstKnown? known (ref.symbols.map (memberPath source levels))).getD
        (Path.join (packageAbove source levels) "__init__.py") := by
  have noName : "".startsWith "." = false := by decide +kernel
  obtain ⟨hl, hn⟩ := toList_relativeSpecifier noName hs
  simp only [resolveImport, python, if_true, dottedImport, hl, hn]
  rfl

theorem resolveImport_eq_member_iff {levels : Nat} (python : source.endsWith ".py" = true)
    (hs : ref.specifier = Python.relativeSpecifier (levels + 1) none) {name : String}
    (hm : name ∈ ref.symbols) (hk : memberPath source levels name ∈ known) :
    resolveImport source ref known = memberPath source levels name ↔
      IsFirstKnown known (ref.symbols.map (memberPath source levels))
        (memberPath source levels name) := by
  rw [resolveImport_of_package python hs, ← firstKnown?_eq_some_iff]
  cases hf : firstKnown? known (ref.symbols.map (memberPath source levels)) with
  | none => exact absurd hk (firstKnown?_eq_none_iff.mp hf _ (List.mem_map_of_mem hm))
  | some found => simp

end Resolve

namespace Surface

/-- What a module declares beside an import leads to a path, too. -/
inductive LeadsOtherwise (surface : Surface) (source : String) (known : List String)
    (ref : ImportRef) (target : String) : Prop
  | imported (other : ImportRef) : other ∈ surface.imports → other ≠ ref →
      resolveImport source other known = target → LeadsOtherwise surface source known ref target
  | exported (other : ImportRef) : other ∈ surface.reexports →
      resolveImport source other known = target → LeadsOtherwise surface source known ref target
  /-- A base that is neither declared nor imported is looked for beside the module. -/
  | based (name base : String) : (name, base) ∈ surface.heritage →
      base ∉ surface.declarations → (∀ other ∈ surface.imports, base ∉ other.symbols) →
      (Path.splitExtension source).2 ≠ ".py" →
      Path.join (Path.directory source) (base ++ (Path.splitExtension source).2) = target →
      LeadsOtherwise surface source known ref target

section Bases

variable {resolve : ImportRef → String} {base : String}

/-- A base comes from an import, or is looked for beside the module. -/
theorem baseTarget?_cases
    (h : baseTarget? source (surface.importedFrom resolve) base = some target) :
    (∃ other ∈ surface.imports, resolve other = target) ∨
      (∀ other ∈ surface.imports, base ∉ other.symbols) ∧
        (Path.splitExtension source).2 ≠ ".py" ∧
        Path.join (Path.directory source) (base ++ (Path.splitExtension source).2) =
          target := by
  rw [baseTarget?_eq] at h
  cases hi : surface.importing? base with
  | some ref => exact .inl ⟨ref, (mem_of_importing? hi).1, by simpa [hi] using h⟩
  | none =>
      by_cases python : (Path.splitExtension source).2 = ".py"
      · simp [hi, python] at h
      · refine .inr ⟨importing?_eq_none_iff.mp hi, python, ?_⟩
        simpa [hi, python, besideModule] using h

theorem baseTarget?_of_unimported (unimported : ∀ other ∈ surface.imports, base ∉ other.symbols)
    (python : (Path.splitExtension source).2 ≠ ".py") :
    baseTarget? source (surface.importedFrom resolve) base =
      some (Path.join (Path.directory source)
        (base ++ (Path.splitExtension source).2)) := by
  rw [baseTarget?_eq, importing?_eq_none_iff.mpr unimported]
  simp [python, besideModule]

end Bases

theorem leads_of_import {other : ImportRef} (ho : other ∈ surface.imports)
    (ht : resolveImport source other known = target) :
    resolveImport source ref known = target ∨
      surface.LeadsOtherwise source known ref target := by
  by_cases same : other = ref
  · subst same
    exact .inl ht
  · exact .inr (.imported other ho same ht)

theorem mem_dependencies_of_import (known : List String) (hr : ref ∈ surface.imports) :
    ⟨source, resolveImport source ref known, .imports, ref.symbols⟩ ∈
      surface.dependencies source known := by
  simp only [dependencies, List.mem_append, List.mem_map]
  exact .inl (.inl ⟨ref, hr, rfl⟩)

theorem mem_dependencies_of_export (known : List String) (hr : ref ∈ surface.reexports) :
    ⟨source, resolveImport source ref known, .exports, ref.symbols⟩ ∈
      surface.dependencies source known := by
  simp only [dependencies, List.mem_append, List.mem_map]
  exact .inl (.inr ⟨ref, hr, rfl⟩)

/-- A module leads to a path by an import or by something else. -/
theorem exists_target_iff (hr : ref ∈ surface.imports) :
    (∃ edge ∈ surface.dependencies source known, edge.target = target) ↔
      resolveImport source ref known = target ∨
        surface.LeadsOtherwise source known ref target := by
  constructor
  · rintro ⟨edge, he, ht⟩
    simp only [dependencies, List.mem_append, List.mem_map, List.mem_filterMap] at he
    rcases he with (⟨other, ho, rfl⟩ | ⟨other, ho, rfl⟩) | ⟨⟨name, base⟩, hh, hb⟩
    · exact leads_of_import ho ht
    · exact .inr (.exported other ho ht)
    · split at hb
      · contradiction
      · rename_i undeclared
        obtain ⟨path, hp, rfl⟩ := Option.map_eq_some_iff.mp hb
        obtain rfl : path = target := ht
        rcases baseTarget?_cases hp with ⟨other, ho, hl⟩ | ⟨unimported, python, beside⟩
        · exact leads_of_import ho hl
        · exact .inr (.based name base hh (by simpa using undeclared) unimported python beside)
  · intro h
    rcases h with hl | ⟨other, ho, -, hl⟩ | ⟨other, ho, hl⟩ |
      ⟨name, base, hh, undeclared, unimported, python, beside⟩
    · exact ⟨_, mem_dependencies_of_import known hr, hl⟩
    · exact ⟨_, mem_dependencies_of_import known ho, hl⟩
    · exact ⟨_, mem_dependencies_of_export known ho, hl⟩
    · refine ⟨⟨source, target, .uses, [base]⟩, ?_, rfl⟩
      simp only [dependencies, List.mem_append, List.mem_filterMap]
      refine .inr ⟨(name, base), hh, ?_⟩
      simp [undeclared, baseTarget?_of_unimported unimported python, beside]

end Surface

/-! ## Dependents -/

theorem Change.dependencyEdges_of_parseSource {change : Change} {content : String}
    (hn : present? change.new = some content)
    (hp : parseSource change.path content = .ok surface) :
    change.dependencyEdges known = surface.dependencies change.path known := by
  simp only [dependencyEdges, hn, hp]

/-- A file is among the dependents of a path if what it declares leads there. -/
theorem DependencyGraph.mem_dependents_ofChanges_iff {changes : List Change} :
    source ∈ (ofChanges changes).dependents target ↔
      ∃ change ∈ changes, change.path = source ∧
        ∃ edge ∈ change.dependencyEdges (changes.map (·.path)), edge.target = target := by
  simp only [ofChanges, dependents, incoming_ofEdges, mem_unique, List.mem_map, List.mem_filter,
    List.mem_flatMap, decide_eq_true_eq]
  constructor
  · rintro ⟨edge, ⟨⟨change, hc, he⟩, ht⟩, rfl⟩
    exact ⟨change, hc, (Change.source_of_mem_dependencyEdges he).symm, edge, he, ht⟩
  · rintro ⟨change, hc, rfl, edge, he, ht⟩
    exact ⟨edge, ⟨⟨change, hc, he⟩, ht⟩, Change.source_of_mem_dependencyEdges he⟩

namespace DependencyGraph

variable {changes : List Change} {change : Change} {content name : String} {levels : Nat}

/-- A file that imports names of a package depends on the first one that is a known
module.  It depends on a later one only if something else leads there: another import, or
another change of the same file.  With an extension in upper case, the import is taken for
that of a script. -/
theorem mem_dependents_member_iff (hc : change ∈ changes)
    (hn : present? change.new = some content)
    (hp : parseSource change.path content = .ok surface) (hr : ref ∈ surface.imports)
    (hs : ref.specifier = Python.relativeSpecifier (levels + 1) none)
    (hm : name ∈ ref.symbols)
    (hk : Resolve.memberPath change.path levels name ∈ changes.map (·.path)) :
    let graph := ofChanges changes
    let known := changes.map (·.path)
    let member := Resolve.memberPath change.path levels name
    ((∃ edge ∈ graph.outgoing change.path, edge.target = member) ↔
        change.path ∈ graph.dependents member) ∧
      (change.path ∈ graph.dependents member ↔
        (change.path.endsWith ".py" = true ∧
            Resolve.IsFirstKnown known
              (ref.symbols.map (Resolve.memberPath change.path levels)) member) ∨
          (change.path.endsWith ".py" = false ∧
            Resolve.scriptImport change.path ref.specifier known = member) ∨
          surface.LeadsOtherwise change.path known ref member ∨
          ∃ other ∈ changes, other ≠ change ∧ other.path = change.path ∧
            ∃ edge ∈ other.dependencyEdges known, edge.target = member) := by
  intro graph known member
  have edges : change.dependencyEdges known = surface.dependencies change.path known :=
    Change.dependencyEdges_of_parseSource hn hp
  have own : (∃ edge ∈ change.dependencyEdges known, edge.target = member) ↔
      resolveImport change.path ref known = member ∨
        surface.LeadsOtherwise change.path known ref member := by
    rw [edges]
    exact Surface.exists_target_iff hr
  have led : resolveImport change.path ref known = member ↔
      (change.path.endsWith ".py" = true ∧
          Resolve.IsFirstKnown known
            (ref.symbols.map (Resolve.memberPath change.path levels)) member) ∨
        (change.path.endsWith ".py" = false ∧
          Resolve.scriptImport change.path ref.specifier known = member) := by
    cases python : change.path.endsWith ".py" with
    | true => simp [Resolve.resolveImport_eq_member_iff python hs hm hk, known, member]
    | false => simp [resolveImport, python]
  refine ⟨mem_dependents_ofEdges.symm, ?_⟩
  rw [mem_dependents_ofChanges_iff, ← or_assoc, ← or_assoc, ← led, ← own]
  constructor
  · rintro ⟨other, ho, path, leads⟩
    by_cases same : other = change
    · subst same
      exact .inl leads
    · exact .inr ⟨other, ho, same, path, leads⟩
  · intro h
    rcases h with leads | ⟨other, ho, -, path, leads⟩
    · exact ⟨change, hc, rfl, leads⟩
    · exact ⟨other, ho, path, leads⟩

/-- The first name is no module; of the two behind it, which are, only one is reached. -/
theorem mem_dependents_member_iff_mixed :
    let content := "from .. import helper, a, b\n"
    let ref : ImportRef := ⟨"..", ["helper", "a", "b"]⟩
    let change : Change := { path := "pkg/sub/main.py", kind := .modified, new := some content }
    let changes : List Change :=
      [{ path := "pkg/b.py", kind := .deleted }, change, { path := "pkg/a.py", kind := .added }]
    let graph := ofChanges changes
    let known := changes.map (·.path)
    change ∈ changes ∧ present? change.new = some content ∧
      parseSource change.path content = .ok { imports := [ref] } ∧
      ref.specifier = Python.relativeSpecifier 2 none ∧ "a" ∈ ref.symbols ∧
      Resolve.memberPath change.path 1 "a" ∈ known ∧ "pkg/a.py" =
        Resolve.memberPath change.path 1 "a" ∧
      ((∃ edge ∈ graph.outgoing change.path,
          edge.target = Resolve.memberPath change.path 1 "a") ↔
        change.path ∈ graph.dependents (Resolve.memberPath change.path 1 "a")) ∧
      (change.path ∈ graph.dependents (Resolve.memberPath change.path 1 "a") ↔
        (change.path.endsWith ".py" = true ∧
            Resolve.IsFirstKnown known
              (ref.symbols.map (Resolve.memberPath change.path 1))
              (Resolve.memberPath change.path 1 "a")) ∨
          (change.path.endsWith ".py" = false ∧
            Resolve.scriptImport change.path ref.specifier known =
              Resolve.memberPath change.path 1 "a") ∨
          Surface.LeadsOtherwise { imports := [ref] } change.path known ref
            (Resolve.memberPath change.path 1 "a") ∨
          ∃ other ∈ changes, other ≠ change ∧ other.path = change.path ∧
            ∃ edge ∈ other.dependencyEdges known,
              edge.target = Resolve.memberPath change.path 1 "a") := by
  intro content ref change changes graph known
  have hc : change ∈ changes := List.mem_cons_of_mem _ List.mem_cons_self
  have hn : present? change.new = some content := by decide +kernel
  have hp : parseSource change.path content = .ok { imports := [ref] } := by decide +kernel
  have hr : ref ∈ [ref] := List.mem_singleton.mpr rfl
  have hs : ref.specifier = Python.relativeSpecifier 2 none := by decide +kernel
  have hm : "a" ∈ ref.symbols := by decide +kernel
  have hk : Resolve.memberPath change.path 1 "a" ∈ known := by decide +kernel
  exact ⟨hc, hn, hp, hs, hm, hk, by decide +kernel,
    mem_dependents_member_iff hc hn hp hr hs hm hk⟩

/-- Two modules of a package are imported at once, and only one of them has the file as a
dependent; an importing file in upper case is not even that. -/
theorem not_mem_dependents_member :
    let importing (path names : String) : Change :=
      { path, kind := .modified, new := some ("from . import " ++ names ++ "\n") }
    let others : List Change :=
      [{ path := "pkg/a.py", kind := .added, new := some "x = 1\n" },
        { path := "pkg/b.py", kind := .added, new := some "y = 1\n" }]
    parseSource "pkg/main.py" "from . import a, b\n" =
        .ok { imports := [⟨".", ["a", "b"]⟩] } ∧
      (ofChanges (importing "pkg/main.py" "a, b" :: others)).dependents "pkg/a.py" =
        ["pkg/main.py"] ∧
      (ofChanges (importing "pkg/main.py" "a, b" :: others)).dependents "pkg/b.py" = [] ∧
      parseSource "pkg/MAIN.PY" "from . import a\n" = .ok { imports := [⟨".", ["a"]⟩] } ∧
      (ofChanges (importing "pkg/MAIN.PY" "a" :: others)).dependents "pkg/a.py" = [] := by
  decide +kernel

end DependencyGraph

end CommitLens
