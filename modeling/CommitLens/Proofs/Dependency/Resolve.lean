import CommitLens.Proofs.Dependency.Edge
import CommitLens.Proofs.Text.LowerCase

/-!
# Imports of known files

An import may name one of the known files exactly.  Main statement: the exact
conditions under which the import then leads to that file; for scripts they are about
extensions, for dotted names about other known files with the same end.
-/

namespace CommitLens

/-! ## Languages of paths -/

namespace Text

theorem endsWith_lower_python {path : String} (h : path.endsWith ".py" = true) :
    (lower path).endsWith ".py" = true := by
  rw [endsWith_iff] at h ⊢
  obtain ⟨front, hp⟩ := h
  obtain ⟨first, hf⟩ := exists_lowerFrom_append front ".py".toList []
  refine ⟨first, ?_⟩
  rw [toList_lower, ← hp, hf]
  rfl

end Text

theorem Language.ofPath?_of_endsWith_python {path : String} (h : path.endsWith ".py" = true) :
    ofPath? path = some .python := by
  simp [ofPath?, Text.endsWith_lower_python h]

namespace Resolve

variable {known candidates : List String} {path : String}

/-! ## Candidates -/

/-- A candidate that is known, while those before it are not. -/
def IsFirstKnown (known candidates : List String) (path : String) : Prop :=
  path ∈ known ∧ ∃ before after, candidates = before ++ path :: after ∧
    ∀ other ∈ before, other ∉ known

theorem firstKnown?_eq_some_iff :
    firstKnown? known candidates = some path ↔ IsFirstKnown known candidates path := by
  simp [firstKnown?, IsFirstKnown, List.find?_eq_some_iff_append]

theorem firstKnown?_eq_none_iff :
    firstKnown? known candidates = none ↔ ∀ candidate ∈ candidates, candidate ∉ known := by
  simp [firstKnown?]

theorem firstKnown?_of_mem (h : path ∈ known) :
    firstKnown? known (path :: candidates) = some path := by
  simp [firstKnown?, h]

theorem firstKnown?_of_not_mem (h : path ∉ known) :
    firstKnown? known (path :: candidates) = firstKnown? known candidates := by
  simp [firstKnown?, h]

/-! ## Known paths below some directory -/

/-- A path is the candidate or ends with it below some directory. -/
def IsBelow (candidate path : String) : Prop :=
  path = candidate ∨ path.endsWith ("/" ++ candidate) = true

/-- The least of the known paths that are the candidate or end with it. -/
structure IsLeastBelow (known : List String) (candidate path : String) : Prop where
  mem : path ∈ known
  below : IsBelow candidate path
  least : ∀ other ∈ known, IsBelow candidate other → path ≤ other

theorem knownBelow?_eq_none_iff {candidate : String} :
    knownBelow? known candidate = none ↔ ∀ path ∈ known, ¬IsBelow candidate path := by
  simp [knownBelow?, IsBelow]

theorem isLeastBelow_of_knownBelow? {candidate : String}
    (h : knownBelow? known candidate = some path) : IsLeastBelow known candidate path := by
  obtain ⟨fits, before, after, hs, hb⟩ := List.find?_eq_some_iff_append.mp h
  have sorted := pairwise_mergeSort_le known
  have members (other : String) : other ∈ known ↔ other ∈ before ++ path :: after := by
    rw [← hs, List.mem_mergeSort]
  refine ⟨(members path).mpr (by simp), by simpa [IsBelow] using fits, fun other ho hf => ?_⟩
  rw [hs, List.pairwise_append] at sorted
  rcases List.mem_append.mp ((members other).mp ho) with first | rest
  · exact absurd hf (by simpa [IsBelow] using hb other first)
  · rcases List.mem_cons.mp rest with rfl | later
    · exact String.le_refl _
    · exact List.rel_of_pairwise_cons sorted.2.1 later

theorem knownBelow?_eq_some_iff {candidate : String} :
    knownBelow? known candidate = some path ↔ IsLeastBelow known candidate path := by
  refine ⟨isLeastBelow_of_knownBelow?, fun h => ?_⟩
  cases hn : knownBelow? known candidate with
  | none => exact absurd h.below (knownBelow?_eq_none_iff.mp hn path h.mem)
  | some other =>
      have found := isLeastBelow_of_knownBelow? hn
      rw [String.le_antisymm (h.least other found.mem found.below)
        (found.least path h.mem h.below)]

/-! ## Scripts -/

section Script

variable {base extension : String}

/-- What may be left out at the end of an imported script path. -/
def completions (extension : String) : List String :=
  extension :: scriptExtensions ++ ["/index.ts", "/index.js"]

theorem scriptPath_of_known (h : (Path.splitExtension base).2 ∈ scriptExtensions)
    (hk : base ∈ known) : scriptPath base extension known = base := by
  simp only [scriptPath, List.contains_iff_mem, h, if_true, firstKnown?_of_mem hk,
    Option.getD_some]

/-- A path without an extension of scripts is completed, even if it is known. -/
theorem scriptPath_of_plain (h : (Path.splitExtension base).2 ∉ scriptExtensions) :
    scriptPath base extension known =
      (firstKnown? known ((completions extension).map (base ++ ·))).getD
        (base ++ if typedExtensions.contains extension then ".ts" else ".js") := by
  simp only [scriptPath, List.contains_iff_mem, h, if_false, completions, List.map_append,
    List.map_cons, List.map_nil]

theorem assumed_mem_completions (extension : String) :
    (if typedExtensions.contains extension then ".ts" else ".js") ∈ completions extension := by
  split <;> simp [completions, scriptExtensions]

theorem exists_completion (h : (Path.splitExtension base).2 ∉ scriptExtensions) :
    ∃ last ∈ completions extension, scriptPath base extension known = base ++ last := by
  rw [scriptPath_of_plain h]
  cases hf : firstKnown? known ((completions extension).map (base ++ ·)) with
  | none => exact ⟨_, assumed_mem_completions extension, rfl⟩
  | some found =>
      obtain ⟨_, before, after, hc, _⟩ := firstKnown?_eq_some_iff.mp hf
      have candidate : found ∈ (completions extension).map (base ++ ·) := by simp [hc]
      obtain ⟨last, hl, rfl⟩ := List.mem_map.mp candidate
      exact ⟨last, hl, rfl⟩

/-- A known path is found if it has an extension of scripts, or if the importing file has
none to complete it with. -/
theorem scriptPath_eq_self_iff (hk : base ∈ known) :
    scriptPath base extension known = base ↔
      (Path.splitExtension base).2 ∈ scriptExtensions ∨ extension = "" := by
  by_cases h : (Path.splitExtension base).2 ∈ scriptExtensions
  · exact iff_of_true (scriptPath_of_known h hk) (.inl h)
  · simp only [h, false_or]
    constructor
    · intro he
      obtain ⟨last, hl, hs⟩ : ∃ last ∈ completions extension,
          scriptPath base extension known = base ++ last := exists_completion h
      have empty : last = "" := by simpa [he] using hs.symm
      subst empty
      rcases List.mem_cons.mp hl with own | other
      · exact own.symm
      · simp [scriptExtensions] at other
    · rintro rfl
      rw [scriptPath_of_plain h]
      simp [completions, firstKnown?_of_mem hk]

theorem resolveImport_of_script {source : String} {ref : ImportRef}
    (script : Language.ofPath? source ≠ some .python)
    (relative : ref.specifier.startsWith "." = true) :
    resolveImport source ref known =
      scriptPath (Path.normalize (Path.join (Path.directory source) ref.specifier))
        (Path.splitExtension source).2 known := by
  have other : ¬source.endsWith ".py" = true := fun h =>
    script (Language.ofPath?_of_endsWith_python h)
  rw [resolveImport, if_neg other, scriptImport, if_pos relative]

end Script

/-! ## Dotted names -/

section Dotted

variable {source : String} {ref : ImportRef}

theorem takeWhile_dot_of_plain {name : String} (plain : name.startsWith "." = false) :
    name.toList.takeWhile (· == '.') = [] := by
  rw [String.startsWith_string_eq_false_iff] at plain
  cases hn : name.toList with
  | nil => rfl
  | cons c rest =>
      refine List.takeWhile_cons_of_neg fun hc => plain ?_
      obtain rfl : c = '.' := by simpa using hc
      exact ⟨rest, hn.symm⟩

theorem resolveImport_of_absolute (python : source.endsWith ".py" = true)
    (absolute : ref.specifier.startsWith "." = false) :
    resolveImport source ref known =
      match knownBelow? known (modulePath ref.specifier ++ ".py") with
      | some found => found
      | none => (knownBelow? known (modulePath ref.specifier ++ "/__init__.py")).getD
          ref.specifier := by
  cases hf : knownBelow? known (modulePath ref.specifier ++ ".py") <;>
    simp only [resolveImport, python, if_true, dottedImport, takeWhile_dot_of_plain absolute,
      List.length_nil, beq_self_eq_true, List.drop_zero, String.ofList_toList, hf]

theorem resolveImport_of_isLeastBelow (python : source.endsWith ".py" = true)
    (absolute : ref.specifier.startsWith "." = false)
    (h : IsLeastBelow known (modulePath ref.specifier ++ ".py") path) :
    resolveImport source ref known = path := by
  rw [resolveImport_of_absolute python absolute, knownBelow?_eq_some_iff.mpr h]

/-- The dots in front count the levels, and the rest is a name in the package there. -/
theorem toList_relativeSpecifier {levels : Nat} {name : String}
    (plain : name.startsWith "." = false)
    (hs : ref.specifier = Python.relativeSpecifier levels (some name)) :
    (ref.specifier.toList.takeWhile (· == '.')).length = levels ∧
      String.ofList (ref.specifier.toList.drop levels) = name := by
  have text : ref.specifier.toList = List.replicate levels '.' ++ name.toList := by
    simp [hs, Python.relativeSpecifier]
  rw [text]
  constructor
  · rw [List.takeWhile_append_of_pos (by simp), takeWhile_dot_of_plain plain, List.append_nil,
      List.length_replicate]
  · rw [List.drop_left' (List.length_replicate ..), String.ofList_toList]

/-- Where a name in a package stands for a module or a package of its own. -/
def namedBelow (source : String) (levels : Nat) (name : String) : String :=
  Path.join (packageAbove source levels) (modulePath name)

theorem resolveImport_of_relative {levels : Nat} {name : String}
    (python : source.endsWith ".py" = true) (plain : name.startsWith "." = false)
    (hs : ref.specifier = Python.relativeSpecifier (levels + 1) (some name)) (ne : name ≠ "") :
    resolveImport source ref known =
      (firstKnown? known [namedBelow source levels name ++ ".py",
        namedBelow source levels name ++ "/__init__.py"]).getD
          (namedBelow source levels name ++ ".py") := by
  obtain ⟨hl, hn⟩ := toList_relativeSpecifier plain hs
  have named : name.isEmpty = false := by simpa using ne
  simp only [resolveImport, python, if_true, dottedImport, hl, hn, named]
  rfl

end Dotted

/-! ## Files named exactly -/

/-- When an import leads to the known file that it names. -/
structure FindsNamed (known : List String) (source : String) (ref : ImportRef) : Prop where
  /-- A relative import of a script names the path beside the script.  It is not found if
  the path has no extension of scripts, unless the importing file has no extension. -/
  script : Language.ofPath? source ≠ some .python → ref.specifier.startsWith "." = true →
    let named := Path.normalize (Path.join (Path.directory source) ref.specifier)
    named ∈ known →
      (resolveImport source ref known = named ↔
        (Path.splitExtension named).2 ∈ scriptExtensions ∨ (Path.splitExtension source).2 = "")
  /-- A dotted name names a module.  It is not found if a lesser path ends with it, or if
  the extension of the importing file is not in lower case. -/
  module : Language.ofPath? source = some .python → ref.specifier.startsWith "." = false →
    let named := modulePath ref.specifier ++ ".py"
    named ∈ known →
      (resolveImport source ref known = named ↔
        source.endsWith ".py" = true ∧ IsLeastBelow known named named)
  /-- Without the module, a dotted name names a package.  Paths that end with the module
  come before it, too. -/
  package : Language.ofPath? source = some .python → ref.specifier.startsWith "." = false →
    let module := modulePath ref.specifier ++ ".py"
    let named := modulePath ref.specifier ++ "/__init__.py"
    module ∉ known → named ∈ known →
      (resolveImport source ref known = named ↔
        source.endsWith ".py" = true ∧
          (IsLeastBelow known module named ∨
            (∀ other ∈ known, ¬IsBelow module other) ∧ IsLeastBelow known named named))
  /-- A name behind dots names a module or else a package; it is always found. -/
  relative : ∀ levels name, source.endsWith ".py" = true → name ≠ "" →
    name.startsWith "." = false →
    ref.specifier = Python.relativeSpecifier (levels + 1) (some name) →
    let module := namedBelow source levels name ++ ".py"
    let named := namedBelow source levels name ++ "/__init__.py"
    (module ∈ known → resolveImport source ref known = module) ∧
      (module ∉ known → named ∈ known → resolveImport source ref known = named)

section Absolute

variable {source : String} {ref : ImportRef}

theorem resolveImport_of_upperCase (upper : source.endsWith ".py" = false)
    (absolute : ref.specifier.startsWith "." = false) :
    resolveImport source ref known = ref.specifier := by
  simp only [resolveImport, upper, scriptImport, absolute, Bool.false_eq_true, if_false]

theorem specifier_ne_modulePath {last : String} (h : last ≠ "") (specifier : String) :
    specifier ≠ modulePath specifier ++ last := by
  intro he
  have lengths : specifier.length = (modulePath specifier).length + last.length := by
    rw [← String.length_append, ← he]
  have same : (modulePath specifier).length = specifier.length := by simp [modulePath]
  exact h (String.length_eq_zero_iff.mp (by omega))

theorem resolveImport_eq_module_iff (absolute : ref.specifier.startsWith "." = false)
    (hk : modulePath ref.specifier ++ ".py" ∈ known) :
    resolveImport source ref known = modulePath ref.specifier ++ ".py" ↔
      source.endsWith ".py" = true ∧
        IsLeastBelow known (modulePath ref.specifier ++ ".py")
          (modulePath ref.specifier ++ ".py") := by
  by_cases python : source.endsWith ".py" = true
  · rw [← knownBelow?_eq_some_iff, resolveImport_of_absolute python absolute]
    cases hf : knownBelow? known (modulePath ref.specifier ++ ".py") with
    | none => exact absurd (.inl rfl) (knownBelow?_eq_none_iff.mp hf _ hk)
    | some found => simp [python]
  · rw [resolveImport_of_upperCase (by simpa using python) absolute]
    exact iff_of_false (specifier_ne_modulePath (by decide) _) fun h => python h.1

theorem resolveImport_eq_package_iff (absolute : ref.specifier.startsWith "." = false)
    (hk : modulePath ref.specifier ++ "/__init__.py" ∈ known) :
    resolveImport source ref known = modulePath ref.specifier ++ "/__init__.py" ↔
      source.endsWith ".py" = true ∧
        (IsLeastBelow known (modulePath ref.specifier ++ ".py")
            (modulePath ref.specifier ++ "/__init__.py") ∨
          (∀ other ∈ known, ¬IsBelow (modulePath ref.specifier ++ ".py") other) ∧
            IsLeastBelow known (modulePath ref.specifier ++ "/__init__.py")
              (modulePath ref.specifier ++ "/__init__.py")) := by
  by_cases python : source.endsWith ".py" = true
  · rw [← knownBelow?_eq_some_iff, ← knownBelow?_eq_some_iff, ← knownBelow?_eq_none_iff,
      resolveImport_of_absolute python absolute]
    cases knownBelow? known (modulePath ref.specifier ++ ".py") with
    | some found => simp [python]
    | none =>
        cases hf : knownBelow? known (modulePath ref.specifier ++ "/__init__.py") with
        | none => exact absurd (.inl rfl) (knownBelow?_eq_none_iff.mp hf _ hk)
        | some found => simp [python]
  · rw [resolveImport_of_upperCase (by simpa using python) absolute]
    exact iff_of_false (specifier_ne_modulePath (by decide) _) fun h => python h.1

end Absolute

/-- Whether an import that names a known file leads to it follows from the extensions, for
scripts, and from the known files with the same end, for dotted names. -/
theorem resolveImport_findsNamed (known : List String) (source : String) (ref : ImportRef) :
    FindsNamed known source ref where
  script other relative hk := by
    rw [resolveImport_of_script other relative]
    exact scriptPath_eq_self_iff hk
  module _ absolute hk := resolveImport_eq_module_iff absolute hk
  package _ absolute _ hk := resolveImport_eq_package_iff absolute hk
  relative levels name python ne plain hs := by
    rw [resolveImport_of_relative python plain hs ne]
    refine ⟨fun hk => ?_, fun hm hk => ?_⟩
    · rw [firstKnown?_of_mem hk, Option.getD_some]
    · rw [firstKnown?_of_not_mem hm, firstKnown?_of_mem hk, Option.getD_some]

example : resolveImport "src/app.ts" ⟨"./util.js", []⟩ ["src/util.ts", "src/util.js"] =
    "src/util.js" := by
  decide +kernel

/-- Known and named, but not found: data and a typed module beside a script, a module
behind a lesser path, and a package behind a module of the same name. -/
theorem resolveImport_missesNamed :
    (Path.normalize (Path.join (Path.directory "src/app.ts") "./data.json") = "src/data.json" ∧
        resolveImport "src/app.ts" ⟨"./data.json", []⟩ ["src/data.json"] =
          "src/data.json.ts") ∧
      (Path.normalize (Path.join (Path.directory "src/app.ts") "./m.mts") = "src/m.mts" ∧
        resolveImport "src/app.ts" ⟨"./m.mts", []⟩ ["src/m.mts"] = "src/m.mts.ts") ∧
      resolveImport "app.py" ⟨"b", ["x"]⟩ ["b.py", "a/b.py"] = "a/b.py" ∧
      resolveImport "app.py" ⟨"b", ["x"]⟩ ["b/__init__.py", "a/b.py"] = "a/b.py" := by
  have found {known : List String} (hk : "a/b.py" ∈ known)
      (least : ∀ other ∈ known, "a/b.py" ≤ other) :
      resolveImport "app.py" ⟨"b", ["x"]⟩ known = "a/b.py" :=
    resolveImport_of_isLeastBelow (by decide +kernel) (by decide +kernel)
      ⟨hk, .inr (by decide +kernel), fun other ho _ => least other ho⟩
  exact ⟨by decide +kernel, by decide +kernel, found (by decide) (by decide),
    found (by decide) (by decide)⟩

end Resolve

end CommitLens
