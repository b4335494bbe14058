import CommitLens.Proofs.Dependency.Outline

/-!
# Bases that imports bind

A class may have a base that an import binds.  The graph looks the base up among the names
that are recorded of the imports, which need not be the names that they bind.  Main
statement: the exact conditions under which the base leads to the module it is imported
from.
-/

namespace CommitLens

variable {known : List String} {source base target : String} {surface : Surface}
  {outline : Outline} {origin : BindingImport}

/-! ## Names of imports -/

namespace Outline

/-- A name is bound by an import. -/
def Binds (outline : Outline) (name : String) (origin : BindingImport) : Prop :=
  origin ∈ outline.imports ∧ name ∈ origin.bindings.map (·.bound)

instance (outline : Outline) (name : String) (origin : BindingImport) :
    Decidable (outline.Binds name origin) :=
  inferInstanceAs (Decidable (_ ∧ _))

/-- The first import for which a name is recorded. -/
def recording? (outline : Outline) (name : String) : Option BindingImport :=
  outline.imports.find? fun other => (other.bindings.map (·.recorded)).contains name

theorem recording?_eq_none_iff {name : String} :
    outline.recording? name = none ↔
      ∀ other ∈ outline.imports, ∀ binding ∈ other.bindings, binding.recorded ≠ name := by
  simp [recording?]

theorem mem_of_recording? {name : String} (h : outline.recording? name = some origin) :
    origin ∈ outline.imports ∧ ∃ binding ∈ origin.bindings, binding.recorded = name := by
  rw [recording?] at h
  exact ⟨List.mem_of_find?_eq_some h, by simpa using List.find?_some h⟩

/-- A name is bound and recorded by no other import, and by this one as it is. -/
def IsPlain (outline : Outline) (name : String) (origin : BindingImport) : Prop :=
  ∀ other ∈ outline.imports, ∀ binding ∈ other.bindings,
    binding.recorded = name ∨ binding.bound = name →
      other = origin ∧ binding.recorded = binding.bound

theorem Binds.recording?_eq {name : String} (bound : outline.Binds name origin)
    (plain : outline.IsPlain name origin) : outline.recording? name = some origin := by
  obtain ⟨ho, hb⟩ := bound
  obtain ⟨binding, hm, rfl⟩ := List.mem_map.mp hb
  cases hr : outline.recording? binding.bound with
  | none =>
      -- The import itself records the name, since it does not rename it.
      have same := (plain origin ho binding hm (.inr rfl)).2
      exact absurd same (recording?_eq_none_iff.mp hr origin ho binding hm)
  | some found =>
      obtain ⟨hf, other, hn, he⟩ := mem_of_recording? hr
      rw [(plain found hf other hn (.inl he)).1]

end Outline

namespace Surface

theorem Records.importing?_eq (h : surface.Records outline) (name : String) :
    surface.importing? name = (outline.recording? name).map BindingImport.ref := by
  rw [importing?, h.imports, List.find?_map]
  rfl

/-! ## Edges for a base -/

def usesOf (source : String) (surface : Surface) (known : List String) (base : String) :
    List Dependency :=
  (surface.dependencies source known).filter fun edge =>
    edge.kind == .uses && edge.symbols == [base]

theorem mem_usesOf_iff {edge : Dependency} :
    edge ∈ surface.usesOf source known base ↔
      (∃ name, (name, base) ∈ surface.heritage) ∧ base ∉ surface.declarations ∧
        ∃ target, baseTarget? source
            (surface.importedFrom fun ref => resolveImport source ref known) base = some target ∧
          edge = ⟨source, target, .uses, [base]⟩ := by
  rw [usesOf, List.mem_filter, Bool.and_eq_true, beq_iff_eq, beq_iff_eq, ← and_assoc,
    mem_dependencies_uses_iff, mem_uses_iff]
  constructor
  · rintro ⟨⟨name, other, target, hh, undeclared, ht, rfl⟩, he⟩
    obtain rfl : other = base := by simpa using he
    exact ⟨⟨name, hh⟩, undeclared, target, ht, rfl⟩
  · rintro ⟨⟨name, hh⟩, undeclared, target, ht, rfl⟩
    exact ⟨⟨name, base, target, hh, undeclared, ht, rfl⟩, rfl⟩

/-- There are edges for a base, and they all lead to one target. -/
def LinksBase (source : String) (surface : Surface) (known : List String)
    (base target : String) : Prop :=
  surface.usesOf source known base ≠ [] ∧
    ∀ edge ∈ surface.usesOf source known base, edge.target = target

instance (source : String) (surface : Surface) (known : List String) (base target : String) :
    Decidable (surface.LinksBase source known base target) :=
  inferInstanceAs (Decidable (_ ∧ _))

theorem linksBase_iff :
    surface.LinksBase source known base target ↔
      (∃ name, (name, base) ∈ surface.heritage) ∧ base ∉ surface.declarations ∧
        baseTarget? source (surface.importedFrom fun ref => resolveImport source ref known) base =
          some target := by
  constructor
  · rintro ⟨ne, all⟩
    obtain ⟨edge, he⟩ := List.exists_mem_of_ne_nil _ ne
    obtain ⟨based, undeclared, found, ht, rfl⟩ := mem_usesOf_iff.mp he
    exact ⟨based, undeclared, all _ he ▸ ht⟩
  · rintro ⟨based, undeclared, ht⟩
    constructor
    · exact List.ne_nil_of_mem (mem_usesOf_iff.mpr ⟨based, undeclared, target, ht, rfl⟩)
    · intro edge he
      obtain ⟨-, -, found, hf, rfl⟩ := mem_usesOf_iff.mp he
      exact Option.some.inj (hf.symm.trans ht)

end Surface

/-! ## Bases that are imported -/

theorem Surface.Records.baseTarget?_eq (h : surface.Records outline) (source : String)
    (known : List String) (base : String) :
    baseTarget? source (surface.importedFrom fun ref => resolveImport source ref known) base =
      match outline.recording? base with
      | some first => some (resolveImport source first.ref known)
      | none =>
          if (Path.splitExtension source).2 == ".py" then none
          else some (Surface.besideModule source base) := by
  rw [Surface.baseTarget?_eq, h.importing?_eq]
  cases outline.recording? base <;> rfl

/-- How the graph follows the base of a class that an import binds. -/
structure FollowsBase (source : String) (surface : Surface) (known : List String)
    (outline : Outline) (name base : String) (origin : BindingImport) : Prop where
  /-- The base is known, unless the class has no name. -/
  recorded : name ≠ "" → (name, base) ∈ surface.heritage
  /-- It leads to the module if and only if nothing is taken for a declaration of it, and
  the first import for which it is recorded leads there, or else the path beside the
  importing module does. -/
  links_iff :
    let imported := resolveImport source origin.ref known
    surface.LinksBase source known base imported ↔
      (∃ other, (other, base) ∈ surface.heritage) ∧ base ∉ surface.declarations ∧
        match outline.recording? base with
        | some first => resolveImport source first.ref known = imported
        | none =>
            (Path.splitExtension source).2 ≠ ".py" ∧ Surface.besideModule source base = imported
  /-- So does a base that is bound by its own name, and by one import. -/
  plain : name ≠ "" → base ∉ surface.declarations → outline.IsPlain base origin →
    surface.LinksBase source known base (resolveImport source origin.ref known)
  /-- One that is bound by another name than is recorded for it is at most taken for a
  file beside the module. -/
  lost : (∀ other ∈ outline.imports, ∀ binding ∈ other.bindings, binding.recorded ≠ base) →
    ∀ edge ∈ surface.usesOf source known base,
      (Path.splitExtension source).2 ≠ ".py" ∧ edge.target = Surface.besideModule source base

theorem parseSource_followsBase {content name : String}
    (parsed : parseSource source content = .ok surface)
    (based : (name, base) ∈ (Outline.ofText source content).bases)
    (bound : (Outline.ofText source content).Binds base origin) (known : List String) :
    FollowsBase source surface known (Outline.ofText source content) name base origin := by
  have records := parseSource_records parsed
  have recorded : name ≠ "" → (name, base) ∈ surface.heritage :=
    records.bases (name, base) based
  have target := records.baseTarget?_eq source known base
  refine ⟨recorded, ?_, ?_, ?_⟩
  · intro imported
    rw [Surface.linksBase_iff, target]
    cases Outline.recording? (.ofText source content) base with
    | some first => simp only [Option.some.injEq, imported]
    | none => simp [imported]
  · intro named undeclared plain
    rw [Surface.linksBase_iff, target, bound.recording?_eq plain]
    exact ⟨⟨name, recorded named⟩, undeclared, rfl⟩
  · intro unrecorded edge he
    obtain ⟨-, -, found, hf, rfl⟩ := Surface.mem_usesOf_iff.mp he
    rw [target, Outline.recording?_eq_none_iff.mpr unrecorded] at hf
    by_cases python : (Path.splitExtension source).2 = ".py"
    · simp [python] at hf
    · exact ⟨python, by simpa [python] using hf.symm⟩

/-- The base is imported by its own name, beside a default import. -/
theorem parseSource_followsBase_named :
    let content := "import X, { B } from './b'\nclass C extends B {}"
    let origin : BindingImport := ⟨"./b", [⟨"default", "X"⟩, ⟨"B", "B"⟩]⟩
    let outline := Outline.ofText "a.ts" content
    ∃ surface, parseSource "a.ts" content = .ok surface ∧ ("C", "B") ∈ outline.bases ∧
      outline.Binds "B" origin ∧ FollowsBase "a.ts" surface ["b.ts"] outline "C" "B" origin ∧
      surface.LinksBase "a.ts" ["b.ts"] "B" "b.ts" := by
  intro content origin outline
  have parsed : parseSource "a.ts" content = .ok
      { classes := ["C"], imports := [⟨"./b", ["default", "B"]⟩], heritage := [("C", "B")] } := by
    decide +kernel
  have outlined : outline = { imports := [origin], bases := [("C", "B")] } := by decide +kernel
  have based : ("C", "B") ∈ outline.bases := by simp [outlined]
  have bound : outline.Binds "B" origin := by simp [outlined, Outline.Binds, origin]
  exact ⟨_, parsed, based, bound, parseSource_followsBase parsed based bound ["b.ts"],
    by decide +kernel⟩

/-- The class `C` has the base `B`, which an import binds, and the base does not lead where
the import leads. -/
def MissesBase (source content : String) (known : List String) (surface : Surface)
    (imports : List BindingImport) (target : String) : Prop :=
  parseSource source content = .ok surface ∧
    Outline.ofText source content = ⟨imports, [("C", "B")]⟩ ∧
    ∃ origin ∈ imports, "B" ∈ origin.bindings.map (·.bound) ∧
      resolveImport source origin.ref known = target ∧
      ¬surface.LinksBase source known "B" target

instance (source content : String) (known : List String) (surface : Surface)
    (imports : List BindingImport) (target : String) :
    Decidable (MissesBase source content known surface imports target) :=
  inferInstanceAs (Decidable (_ ∧ _))

/-- A base is missed if it is renamed, imported by default, read in a default value, or
recorded for an import before. -/
theorem missesBase :
    MissesBase "a.ts" "import { A as B } from './b'\nclass C extends B {}" ["b.ts"]
        { classes := ["C"], imports := [⟨"./b", ["A"]⟩], heritage := [("C", "B")] }
        [⟨"./b", [⟨"A", "B"⟩]⟩] "b.ts" ∧
      MissesBase "a.ts" "import B from './b'\nclass C extends B {}" ["b.ts"]
        { classes := ["C"], imports := [⟨"./b", ["default"]⟩], heritage := [("C", "B")] }
        [⟨"./b", [⟨"default", "B"⟩]⟩] "b.ts" ∧
      MissesBase "a.py" "from .b import A as B\nclass C(B): pass\n" ["b.py"]
        { exports := ["C"], classes := ["C"], imports := [⟨".b", ["A"]⟩],
          heritage := [("C", "B")] }
        [⟨".b", [⟨"A", "B"⟩]⟩] "b.py" ∧
      MissesBase "a.ts" "import { B } from './b'\nvar { x = B } = {}\nclass C extends B {}"
        ["b.ts"]
        { classes := ["C"], variableNames := ["x", "B"], imports := [⟨"./b", ["B"]⟩],
          heritage := [("C", "B")] }
        [⟨"./b", [⟨"B", "B"⟩]⟩] "b.ts" ∧
      MissesBase "a.py" "from .b import B as X\nfrom .c import B\nclass C(B): pass\n"
        ["b.py", "c.py"]
        { exports := ["C"], classes := ["C"], imports := [⟨".b", ["B"]⟩, ⟨".c", ["B"]⟩],
          heritage := [("C", "B")] }
        [⟨".b", [⟨"B", "X"⟩]⟩, ⟨".c", [⟨"B", "B"⟩]⟩] "c.py" := by
  decide +kernel

end CommitLens
