import CommitLens.Proofs.Dependency.Resolve
import CommitLens.Proofs.Files.Path

/-!
# Completed imports

The import of a script may leave out the extension of a file or the index file of a
directory.  Main statement: the first known completion is taken, and none that is not
known, with one exception: the index files of the root are never found.
-/

namespace CommitLens.Resolve

variable {known candidates : List String} {source named extension : String}

/-- The path that a relative import of a script means before it is completed. -/
def importedPath (source specifier : String) : String :=
  Path.normalize (Path.join (Path.directory source) specifier)

/-- The files that an imported path may stand for, the likeliest first: the path with an
extension, then the index files of the directory. -/
def inferable (named extension : String) : List String :=
  (extension :: scriptExtensions).map (named ++ ·) ++
    ["/index.ts", "/index.js"].map fun index => Path.normalize (named ++ index)

/-- The first known candidate is the result; without one the result is not known. -/
structure Infers (known candidates : List String) (result : String) : Prop where
  first : (∃ candidate ∈ candidates, candidate ∈ known) → IsFirstKnown known candidates result
  none : (∀ candidate ∈ candidates, candidate ∉ known) → result ∉ known

/-- The index files of the root are all that is known of what the root stands for. -/
structure MissesRoot (known : List String) (named extension : String) : Prop where
  root : named = "."
  unknown : ∀ last ∈ extension :: scriptExtensions, named ++ last ∉ known
  index : "index.ts" ∈ known ∨ "index.js" ∈ known

theorem infers_getD_firstKnown? {fallback : String} (h : fallback ∈ candidates) :
    Infers known candidates ((firstKnown? known candidates).getD fallback) := by
  cases hf : firstKnown? known candidates with
  | none =>
      have unknown := firstKnown?_eq_none_iff.mp hf
      refine ⟨fun ⟨candidate, hc, hk⟩ => absurd hk (unknown candidate hc), fun _ => ?_⟩
      exact unknown fallback h
  | some path =>
      have found := firstKnown?_eq_some_iff.mp hf
      obtain ⟨before, after, hc, _⟩ := found.2
      refine ⟨fun _ => found, fun unknown => absurd found.1 (unknown path ?_)⟩
      simp [hc]

/-! ## Below a directory -/

/-- Below a directory, the candidates are what is looked for. -/
theorem inferable_of_ne_root {path : String} (relative : path.startsWith "/" = false)
    (hn : Path.normalize path = named) (ne : named ≠ ".") :
    inferable named extension = (completions extension).map (named ++ ·) := by
  have below (name : String) (hi : Path.IsName name) :
      Path.normalize (named ++ ("/" ++ name)) = named ++ ("/" ++ name) := by
    rw [← String.append_assoc, ← hn]
    exact Path.normalize_below relative (hn.trans_ne ne) hi
  have typed : Path.normalize (named ++ "/index.ts") = named ++ "/index.ts" := by
    simpa using below "index.ts" ⟨by decide, by decide, by decide, by decide⟩
  have untyped : Path.normalize (named ++ "/index.js") = named ++ "/index.js" := by
    simpa using below "index.js" ⟨by decide, by decide, by decide, by decide⟩
  simp [inferable, completions, typed, untyped]

/-! ## At the root -/

theorem inferable_root (extension : String) :
    inferable "." extension =
      (extension :: scriptExtensions).map ("." ++ ·) ++ ["index.ts", "index.js"] := by
  have typed : Path.normalize "./index.ts" = "index.ts" := by decide +kernel
  have untyped : Path.normalize "./index.js" = "index.js" := by decide +kernel
  simp [inferable, typed, untyped]

/-- What is looked for in place of the index files is no normal path. -/
theorem firstKnown?_root (normal : ∀ path ∈ known, Path.normalize path = path) :
    firstKnown? known ((completions extension).map ("." ++ ·)) =
      firstKnown? known ((extension :: scriptExtensions).map ("." ++ ·)) := by
  have unknown {path : String} (h : Path.normalize path ≠ path) : path ∉ known :=
    fun hk => h (normal path hk)
  have typed : "./index.ts" ∉ known := unknown (by decide +kernel)
  have untyped : "./index.js" ∉ known := unknown (by decide +kernel)
  have indexes : firstKnown? known ["./index.ts", "./index.js"] = none := by
    simp [firstKnown?_eq_none_iff, typed, untyped]
  simp only [firstKnown?] at indexes ⊢
  rw [completions, List.map_append, List.find?_append]
  simp only [List.map_cons, List.map_nil, String.reduceAppend, indexes, Option.or_none]

theorem infers_root_iff (normal : ∀ path ∈ known, Path.normalize path = path) {last : String}
    (hl : last ∈ extension :: scriptExtensions) :
    Infers known (inferable "." extension)
        ((firstKnown? known ((completions extension).map ("." ++ ·))).getD ("." ++ last)) ↔
      ¬MissesRoot known "." extension := by
  rw [firstKnown?_root normal, inferable_root]
  cases hf : firstKnown? known ((extension :: scriptExtensions).map ("." ++ ·)) with
  | some path =>
      obtain ⟨hk, before, after, hc, hb⟩ := firstKnown?_eq_some_iff.mp hf
      have mem : path ∈ (extension :: scriptExtensions).map ("." ++ ·) := by simp [hc]
      refine iff_of_true ⟨fun _ => ⟨hk, before, after ++ ["index.ts", "index.js"], ?_, hb⟩,
        fun unknown => absurd hk (unknown path (List.mem_append_left _ mem))⟩ fun missed => ?_
      · rw [hc, List.append_assoc, List.cons_append, Option.getD_some]
      · obtain ⟨last, hl, rfl⟩ := List.mem_map.mp mem
        exact missed.unknown last hl hk
  | none =>
      have unknown := List.forall_mem_map.mp (firstKnown?_eq_none_iff.mp hf)
      have result : "." ++ last ∉ known := unknown last hl
      constructor
      · rintro infers ⟨-, -, index⟩
        refine result (infers.first ?_).1
        rcases index with typed | untyped
        · exact ⟨"index.ts", by simp, typed⟩
        · exact ⟨"index.js", by simp, untyped⟩
      · refine fun found => ⟨fun ⟨candidate, hc, hk⟩ => absurd ?_ found, fun _ => result⟩
        refine ⟨rfl, unknown, ?_⟩
        rcases List.mem_append.mp hc with completed | index
        · obtain ⟨other, ho, rfl⟩ := List.mem_map.mp completed
          exact absurd hk (unknown other ho)
        · simp only [List.mem_cons, List.not_mem_nil, or_false] at index
          rcases index with rfl | rfl
          · exact .inl hk
          · exact .inr hk

/-! ## Inference -/

/-- The import of a script leads to the first known completion of its path, and without
one to no known path, unless only the index files of the root would do. -/
theorem resolveImport_infers_iff {ref : ImportRef}
    (script : Language.ofPath? source ≠ some .python) (inside : source.startsWith "/" = false)
    (relative : ref.specifier.startsWith "." = true)
    (plain : (Path.splitExtension (importedPath source ref.specifier)).2 ∉ scriptExtensions)
    (normal : ∀ path ∈ known, Path.normalize path = path) :
    Infers known
        (inferable (importedPath source ref.specifier) (Path.splitExtension source).2)
        (resolveImport source ref known) ↔
      ¬MissesRoot known (importedPath source ref.specifier) (Path.splitExtension source).2 := by
  have notRooted : ref.specifier.startsWith "/" = false := by
    rw [String.startsWith_string_iff] at relative
    rw [String.startsWith_string_eq_false_iff]
    obtain ⟨rest, hs⟩ := relative
    simp [← hs]
  have beside := Path.not_startsWith_join_directory inside notRooted
  have assumed := assumed_mem_completions (Path.splitExtension source).2
  rw [resolveImport_of_script script relative, ← importedPath, scriptPath_of_plain plain]
  by_cases root : importedPath source ref.specifier = "."
  · rw [root]
    refine infers_root_iff normal ?_
    split <;> simp [scriptExtensions]
  · have named : Path.normalize (Path.join (Path.directory source) ref.specifier) =
        importedPath source ref.specifier := rfl
    rw [inferable_of_ne_root beside named root]
    refine iff_of_true (infers_getD_firstKnown? ?_) fun missed => root missed.root
    exact List.mem_map.mpr ⟨_, assumed, rfl⟩

/-- A directory beside the one of the importing file, named with a slash at its end: the
extensions come before its index file. -/
theorem resolveImport_infers_iff_directory :
    let source := "src/ui/app.mts"
    let ref : ImportRef := ⟨"../lib/", ["lib"]⟩
    let known := ["src/lib/index.js", "src/lib.cjs", "src/lib.jsx"]
    Language.ofPath? source ≠ some .python ∧ source.startsWith "/" = false ∧
      ref.specifier.startsWith "." = true ∧
      (Path.splitExtension (importedPath source ref.specifier)).2 ∉ scriptExtensions ∧
      (∀ path ∈ known, Path.normalize path = path) ∧
      resolveImport source ref known = "src/lib.jsx" ∧
      (Infers known
          (inferable (importedPath source ref.specifier) (Path.splitExtension source).2)
          (resolveImport source ref known) ↔
        ¬MissesRoot known (importedPath source ref.specifier)
          (Path.splitExtension source).2) := by
  intro source ref known
  have script : Language.ofPath? source ≠ some .python := by decide +kernel
  have inside : source.startsWith "/" = false := by decide +kernel
  have relative : ref.specifier.startsWith "." = true := by decide +kernel
  have plain : (Path.splitExtension (importedPath source ref.specifier)).2 ∉
      scriptExtensions := by
    decide +kernel
  have normal : ∀ path ∈ known, Path.normalize path = path := by decide +kernel
  exact ⟨script, inside, relative, plain, normal, by decide +kernel,
    resolveImport_infers_iff script inside relative plain normal⟩

/-- The index file of the root is known, and the import of the root does not lead to it. -/
theorem resolveImport_missesRoot :
    let source := "src/app.ts"
    let ref : ImportRef := ⟨"..", ["lib"]⟩
    let known := ["index.ts"]
    Language.ofPath? source ≠ some .python ∧ source.startsWith "/" = false ∧
      ref.specifier.startsWith "." = true ∧
      (Path.splitExtension (importedPath source ref.specifier)).2 ∉ scriptExtensions ∧
      (∀ path ∈ known, Path.normalize path = path) ∧
      "index.ts" ∈ inferable (importedPath source ref.specifier) ".ts" ∧
      resolveImport source ref known = "..ts" := by
  decide +kernel

end CommitLens.Resolve
