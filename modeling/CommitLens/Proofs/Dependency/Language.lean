import CommitLens.Proofs.Dependency.Package
import CommitLens.Proofs.Files.Path

/-!
# Languages of importing files

The language of a text is told by its path in lower case, the rules for its imports by the
path as it is written, and the rules for its bases by the extension.  Main statement: a
text that is read as Python has its imports resolved as Python if and only if its path ends
with `.py`, and its bases if and only if that is the extension.
-/

namespace CommitLens

variable {known : List String} {source path : String} {surface : Surface} {ref : ImportRef}

/-! ## Python texts -/

theorem Language.ofPath?_of_endsWith_lower (h : (Text.lower path).endsWith ".py" = true) :
    ofPath? path = some .python := by
  simp [ofPath?, h]

theorem parseSource_of_python {content : String} (python : Language.ofPath? path = some .python)
    (h : Python.parseSurface content = .ok surface) : parseSource path content = .ok surface := by
  simp only [parseSource, python, h]

namespace Resolve

theorem dottedImport_of_endsWith (h : source.endsWith ".py" = true) :
    dottedImport source ref known = resolveImport source ref known := by
  rw [resolveImport, if_pos h]

/-- A name without dots in front means the same in every file. -/
theorem dottedImport_of_absolute (absolute : ref.specifier.startsWith "." = false)
    (source other : String) : dottedImport source ref known = dottedImport other ref known := by
  simp only [dottedImport, takeWhile_dot_of_plain absolute, List.length_nil, beq_self_eq_true,
    if_true]

end Resolve

namespace Surface

/-- The imports of a module lead where dotted names lead. -/
def ImportsByName (source : String) (surface : Surface) (known : List String) : Prop :=
  (surface.dependencies source known).filter (·.kind == .imports) =
    surface.imports.map fun ref =>
      ⟨source, Resolve.dottedImport source ref known, .imports, ref.symbols⟩

instance (source : String) (surface : Surface) (known : List String) :
    Decidable (surface.ImportsByName source known) :=
  inferInstanceAs (Decidable (_ = _))

/-- The bases of classes lead to modules that are imported for them, and nowhere else. -/
def UsesImported (source : String) (surface : Surface) (known : List String) : Prop :=
  ∀ edge ∈ surface.dependencies source known, edge.kind = .uses →
    ∃ base, edge.symbols = [base] ∧ base ∉ surface.declarations ∧
      ∃ ref ∈ surface.imports, base ∈ ref.symbols ∧ edge.target = resolveImport source ref known

theorem importsByName_of_endsWith (h : source.endsWith ".py" = true) (surface : Surface)
    (known : List String) : surface.ImportsByName source known := by
  simp only [ImportsByName, filter_imports_dependencies, Resolve.dottedImport_of_endsWith h]

theorem usesImported_of_extension (h : (Path.splitExtension source).2 = ".py")
    (surface : Surface) (known : List String) : surface.UsesImported source known := by
  intro edge he hk
  obtain ⟨name, base, target, -, undeclared, ht, rfl⟩ :=
    mem_uses_iff.mp (mem_dependencies_uses_iff.mp ⟨he, hk⟩)
  refine ⟨base, rfl, undeclared, ?_⟩
  rw [baseTarget?_eq] at ht
  cases hi : surface.importing? base with
  | none => simp [hi, h] at ht
  | some ref =>
      obtain ⟨hr, hs⟩ := mem_of_importing? hi
      exact ⟨ref, hr, hs, by simpa [hi] using ht.symm⟩

/-- Beside a module with another extension, a file is invented for a base. -/
theorem mem_dependencies_beside {name base : String} (known : List String)
    (h : (Path.splitExtension source).2 ≠ ".py") (hh : (name, base) ∈ surface.heritage)
    (undeclared : base ∉ surface.declarations)
    (unimported : ∀ ref ∈ surface.imports, base ∉ ref.symbols) :
    ⟨source, besideModule source base, .uses, [base]⟩ ∈ surface.dependencies source known := by
  refine (mem_dependencies_uses_iff.mpr (mem_uses_iff.mpr ?_)).1
  exact ⟨name, base, _, hh, undeclared, baseTarget?_of_unimported unimported h, rfl⟩

end Surface

/-- A property of all texts at a path that can be read, whatever other paths are known. -/
def EveryText (path : String) (property : Surface → List String → Prop) : Prop :=
  ∀ content surface known, parseSource path content = .ok surface → property surface known

/-- What the graph makes of the texts at a path, all of which are read as Python. -/
structure ReadAsPython (path : String) : Prop where
  imports : EveryText path (Surface.ImportsByName path) ↔ path.endsWith ".py" = true
  /-- Or else all imports are resolved as those of scripts. -/
  scripts : path.endsWith ".py" = false → ∀ (surface : Surface) (known : List String),
    (surface.dependencies path known).filter (·.kind == .imports) =
      surface.imports.map fun ref =>
        ⟨path, Resolve.scriptImport path ref.specifier known, .imports, ref.symbols⟩
  uses : EveryText path (Surface.UsesImported path) ↔ (Path.splitExtension path).2 = ".py"
  /-- Or else a base that is neither declared nor imported is taken for a file. -/
  beside : (Path.splitExtension path).2 ≠ ".py" → ∀ (surface : Surface) (known : List String),
    ∀ entry ∈ surface.heritage, entry.2 ∉ surface.declarations →
      (∀ ref ∈ surface.imports, entry.2 ∉ ref.symbols) →
      ⟨path, Surface.besideModule path entry.2, .uses, [entry.2]⟩ ∈
        surface.dependencies path known
  /-- The extension decides about both of them. -/
  both : EveryText path (fun surface known =>
    surface.ImportsByName path known ∧ surface.UsesImported path known) ↔
      (Path.splitExtension path).2 = ".py"

theorem not_importsByName (h : path.endsWith ".py" = false) :
    ¬Surface.ImportsByName path { imports := [⟨"a", ["a"]⟩] } ["a.py"] := by
  have absolute : "a".startsWith "." = false := by decide +kernel
  have script : resolveImport path ⟨"a", ["a"]⟩ ["a.py"] = "a" :=
    Resolve.resolveImport_of_upperCase h absolute
  have dotted : Resolve.dottedImport path ⟨"a", ["a"]⟩ ["a.py"] = "a.py" :=
    (Resolve.dottedImport_of_absolute absolute path "main.py").trans (by decide +kernel)
  simp [Surface.ImportsByName, Surface.filter_imports_dependencies, script, dotted]

theorem not_usesImported (h : (Path.splitExtension path).2 ≠ ".py") (known : List String) :
    ¬Surface.UsesImported path { classes := ["C"], exports := ["C"], heritage := [("C", "B")] }
      known := by
  intro used
  have beside : ⟨path, Surface.besideModule path "B", .uses, ["B"]⟩ ∈
      Surface.dependencies path
        { classes := ["C"], exports := ["C"], heritage := [("C", "B")] } known :=
    Surface.mem_dependencies_beside known h List.mem_cons_self (by decide) (by simp)
  obtain ⟨_, _, _, _, imported, _⟩ := used _ beside rfl
  cases imported

theorem everyText_importsByName_iff (python : Language.ofPath? path = some .python) :
    EveryText path (Surface.ImportsByName path) ↔ path.endsWith ".py" = true := by
  constructor
  · intro named
    by_contra other
    -- One import of a known module tells the rules apart: for scripts it is a package.
    have parsed : parseSource path "import a\n" = .ok { imports := [⟨"a", ["a"]⟩] } :=
      parseSource_of_python python (by decide +kernel)
    exact not_importsByName (by simpa using other) (named _ _ _ parsed)
  · exact fun h _ surface known _ => surface.importsByName_of_endsWith h known

theorem everyText_usesImported_iff (python : Language.ofPath? path = some .python) :
    EveryText path (Surface.UsesImported path) ↔ (Path.splitExtension path).2 = ".py" := by
  constructor
  · intro used
    by_contra other
    have parsed : parseSource path "class C(B):\n    pass\n" =
        .ok { classes := ["C"], exports := ["C"], heritage := [("C", "B")] } :=
      parseSource_of_python python (by decide +kernel)
    exact not_usesImported other [] (used _ _ _ parsed)
  · exact fun h _ surface known _ => surface.usesImported_of_extension h known

/-- A path that is taken for one of Python in whatever case is followed as one of Python in
lower case only. -/
theorem readAsPython (lower : (Text.lower path).endsWith ".py" = true) : ReadAsPython path := by
  have python := Language.ofPath?_of_endsWith_lower lower
  have uses := everyText_usesImported_iff python
  refine ⟨everyText_importsByName_iff python, ?_, uses, ?_, ?_⟩
  · intro other surface known
    simp only [Surface.filter_imports_dependencies, resolveImport, other, Bool.false_eq_true,
      if_false]
  · exact fun other surface known entry he undeclared unimported =>
      Surface.mem_dependencies_beside known other he undeclared unimported
  · constructor
    · exact fun agree => uses.mp fun content surface known parsed =>
        (agree content surface known parsed).2
    · intro extension content surface known _
      have ends : path.endsWith ".py" = true := extension ▸ Path.endsWith_splitExtension path
      exact ⟨surface.importsByName_of_endsWith ends known,
        surface.usesImported_of_extension extension known⟩

/-- A path in upper case is followed as that of a script. -/
theorem readAsPython_upperCase :
    (Text.lower "pkg/Main.PY").endsWith ".py" = true ∧ ReadAsPython "pkg/Main.PY" :=
  have lower : (Text.lower "pkg/Main.PY").endsWith ".py" = true := by decide +kernel
  ⟨lower, readAsPython lower⟩

/-- Three texts that are read as Python: one imports a module that is known and not found,
and two have a base for which a file is invented. -/
theorem not_followed_as_python :
    (Text.lower "pkg/Main.PY").endsWith ".py" = true ∧
      (∃ surface, parseSource "pkg/Main.PY" "from . import a\n" = .ok surface ∧
        surface.dependencies "pkg/Main.PY" ["pkg/a.py"] =
          [⟨"pkg/Main.PY", "pkg.js", .imports, ["a"]⟩] ∧
        Resolve.dottedImport "pkg/Main.PY" ⟨".", ["a"]⟩ ["pkg/a.py"] = "pkg/a.py" ∧
        ¬surface.ImportsByName "pkg/Main.PY" ["pkg/a.py"]) ∧
      (∃ surface, parseSource "pkg/Main.PY" "class C(B):\n    pass\n" = .ok surface ∧
        surface.dependencies "pkg/Main.PY" [] = [⟨"pkg/Main.PY", "pkg/B.PY", .uses, ["B"]⟩] ∧
        "B" ∉ surface.declarations ∧ surface.imports = []) ∧
      "pkg/.py".endsWith ".py" = true ∧
      ∃ surface, parseSource "pkg/.py" "class C(B):\n    pass\n" = .ok surface ∧
        surface.dependencies "pkg/.py" [] = [⟨"pkg/.py", "pkg/B", .uses, ["B"]⟩] ∧
        "B" ∉ surface.declarations ∧ surface.imports = [] := by
  have lower : (Text.lower "pkg/Main.PY").endsWith ".py" = true := by decide +kernel
  have imports : parseSource "pkg/Main.PY" "from . import a\n" =
      .ok { imports := [⟨".", ["a"]⟩] } := by decide +kernel
  have based (path : String) (python : Language.ofPath? path = some .python) :
      parseSource path "class C(B):\n    pass\n" =
        .ok { classes := ["C"], exports := ["C"], heritage := [("C", "B")] } :=
    parseSource_of_python python (by decide +kernel)
  refine ⟨lower, ⟨_, imports, ?_, ?_, ?_⟩, ⟨_, based _ (Language.ofPath?_of_endsWith_lower lower),
    ?_, ?_, rfl⟩, ?_, ⟨_, based _ (by decide +kernel), ?_, ?_, rfl⟩⟩
  all_goals decide +kernel

end CommitLens
