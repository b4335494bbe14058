import CommitLens.Proofs.Dependency.Edge

/-!
# Dependencies and related files

A dependency is kept at the file that has it; at the file that it leads to, the
depending file is a related one.  Main statement: the related files of a change are
the files that depend on it and then the guesses from its name, each one once; what
is no source text has no dependencies, but others may depend on it all the same.
-/

namespace CommitLens

theorem unique_append {α : Type} [BEq α] [LawfulBEq α] (items others : List α) :
    unique (items ++ others) = unique items ++ unique (others.removeAll items) := by
  simp only [unique_eq_eraseDups, List.eraseDups_append]

theorem parseSource_of_not_isCodePath {path : String} (h : isCodePath path = false)
    (content : String) : ∃ error, parseSource path content = .error error := by
  have none : Language.ofPath? path = none := by simpa [isCodePath] using h
  unfold parseSource
  rw [none]
  exact ⟨_, rfl⟩

/-! ## Edges from both ends -/

/-- Both indexes of a graph know who depends on what. -/
theorem DependencyGraph.mem_dependents_ofEdges {edges : List Dependency}
    {source target : String} :
    source ∈ (ofEdges edges).dependents target ↔
      ∃ edge ∈ (ofEdges edges).outgoing source, edge.target = target := by
  simp only [dependents, incoming_ofEdges, outgoing_ofEdges, mem_unique, List.mem_map,
    List.mem_filter, decide_eq_true_eq]
  constructor
  · rintro ⟨edge, ⟨hm, ht⟩, hs⟩
    exact ⟨edge, ⟨hm, hs⟩, ht⟩
  · rintro ⟨edge, ⟨hm, hs⟩, ht⟩
    exact ⟨edge, ⟨hm, ht⟩, hs⟩

namespace Change

variable {change : Change} {known : List String}

/-- The new content is missing, empty or in no language, or it cannot be read. -/
def HasNoSource (change : Change) : Prop :=
  ∀ content, present? change.new = some content →
    isCodePath change.path = false ∨ ∃ error, parseSource change.path content = .error error

theorem dependencyEdges_of_hasNoSource (h : change.HasNoSource) :
    change.dependencyEdges known = [] := by
  unfold dependencyEdges
  cases hp : present? change.new with
  | none => rfl
  | some content =>
      have unread : ∃ error, parseSource change.path content = .error error := by
        rcases h content hp with other | unread
        · exact parseSource_of_not_isCodePath other content
        · exact unread
      obtain ⟨error, he⟩ := unread
      simp only [he]

/-- A change of the given file with another new content; any other change as it is. -/
def withNew (path : String) (content : Option String) (change : Change) : Change :=
  if change.path = path then { change with new := content } else change

theorem path_withNew (path : String) (content : Option String) (change : Change) :
    (change.withNew path content).path = change.path := by
  unfold withNew
  split <;> rfl

theorem map_path_withNew (path : String) (content : Option String) (changes : List Change) :
    (changes.map (withNew path content)).map (·.path) = changes.map (·.path) := by
  rw [List.map_map]
  exact List.map_congr_left fun change _ => path_withNew path content change

end Change

namespace DependencyGraph

variable {changes : List Change}

/-- The edges of a graph start at files of the change set. -/
theorem exists_of_mem_outgoing {source : String} {edge : Dependency}
    (h : edge ∈ (ofChanges changes).outgoing source) :
    ∃ change ∈ changes, change.path = source ∧
      edge ∈ change.dependencyEdges (changes.map (·.path)) := by
  rw [ofChanges, outgoing_ofEdges, mem_unique, List.mem_filter, decide_eq_true_iff] at h
  obtain ⟨change, hc, he⟩ := List.mem_flatMap.mp h.1
  exact ⟨change, hc, (Change.source_of_mem_dependencyEdges he).symm.trans h.2, he⟩

/-- The edges of a file do not depend on what the other files contain. -/
theorem outgoing_withNew {path source : String} (h : source ≠ path) (content : Option String) :
    (ofChanges (changes.map (Change.withNew path content))).outgoing source =
      (ofChanges changes).outgoing source := by
  simp only [ofChanges, Change.map_path_withNew, outgoing_ofEdges, List.filter_flatMap,
    List.flatMap_map]
  congr 1
  refine List.flatMap_congr fun change _ => ?_
  by_cases hp : change.path = path
  · have ne : change.path ≠ source := fun he => h (he.symm.trans hp)
    have ne' : (change.withNew path content).path ≠ source := by
      rw [Change.path_withNew]
      exact ne
    rw [Change.filter_dependencyEdges_of_ne _ ne, Change.filter_dependencyEdges_of_ne _ ne']
  · rw [Change.withNew, if_neg hp]

end DependencyGraph

/-! ## Linked changes -/

namespace LinkedChange

/-- A change has a dependency on a file. -/
def DependsOn (change : LinkedChange) (path : String) : Prop :=
  ∃ edge ∈ change.dependencies, edge.target = path

end LinkedChange

section Linked

variable {changes : List Change} {linked : LinkedChange}

theorem mem_linkChanges :
    linked ∈ linkChanges changes none ↔
      ∃ change ∈ changes, linked = change.link (DependencyGraph.ofChanges changes) := by
  simp only [linkChanges, Option.getD_none, List.mem_map, eq_comm]

/-- The graph lists as dependents of a path the changes that depend on it. -/
theorem mem_dependents_iff {source target : String} :
    source ∈ (DependencyGraph.ofChanges changes).dependents target ↔
      ∃ change ∈ linkChanges changes none, change.path = source ∧ change.DependsOn target := by
  rw [DependencyGraph.ofChanges, DependencyGraph.mem_dependents_ofEdges,
    ← DependencyGraph.ofChanges]
  constructor
  · rintro ⟨edge, he, ht⟩
    obtain ⟨change, hc, rfl, -⟩ := DependencyGraph.exists_of_mem_outgoing he
    exact ⟨_, mem_linkChanges.mpr ⟨change, hc, rfl⟩, rfl, edge, he, ht⟩
  · rintro ⟨linked, hl, rfl, edge, he, ht⟩
    obtain ⟨change, -, rfl⟩ := mem_linkChanges.mp hl
    exact ⟨edge, he, ht⟩

/-- What is related to a file: first its dependents, then the guesses from its name. -/
theorem relatedFiles_link (graph : DependencyGraph) (change : Change) :
    (change.link graph).relatedFiles =
      (graph.dependents change.path).filter (· != change.path) ++
        (unique ((Path.counterparts change.path).removeAll
          (graph.dependents change.path))).filter (· != change.path) := by
  show (unique (_ ++ _)).filter _ = _
  rw [unique_append, DependencyGraph.dependents, unique_unique, List.filter_append]

theorem nodup_relatedFiles_link (graph : DependencyGraph) (change : Change) :
    (change.link graph).relatedFiles.Nodup := by
  show ((unique _).filter _).Nodup
  exact (nodup_unique _).filter _

/-- Of each linked file it is known which linked files depend on it. -/
theorem mem_relatedFiles (hl : linked ∈ linkChanges changes none) {path : String} :
    path ∈ linked.relatedFiles ↔
      path ≠ linked.path ∧
        (path ∈ (DependencyGraph.ofChanges changes).dependents linked.path ∨
          path ∈ Path.counterparts linked.path) := by
  obtain ⟨change, -, rfl⟩ := mem_linkChanges.mp hl
  show path ∈ (unique (_ ++ _)).filter _ ↔ _
  rw [List.mem_filter, mem_unique, List.mem_append, bne_iff_ne, and_comm]
  rfl

/-- A file has no dependencies if nothing that was changed in it is source text. -/
theorem dependencies_eq_nil (hl : linked ∈ linkChanges changes none)
    (h : ∀ change ∈ changes, change.path = linked.path → change.HasNoSource) :
    linked.dependencies = [] := by
  obtain ⟨change, -, rfl⟩ := mem_linkChanges.mp hl
  refine List.eq_nil_iff_forall_not_mem.mpr fun edge he => ?_
  obtain ⟨other, ho, hp, hm⟩ := DependencyGraph.exists_of_mem_outgoing he
  rw [Change.dependencyEdges_of_hasNoSource (h other ho hp)] at hm
  contradiction

/-- What a file depends on it still depends on when another file has other content. -/
theorem exists_dependsOn_withNew {path target : String} (hl : linked ∈ linkChanges changes none)
    (hd : linked.DependsOn target) (ne : linked.path ≠ path) (content : Option String) :
    ∃ other ∈ linkChanges (changes.map (Change.withNew path content)) none,
      other.path = linked.path ∧ other.DependsOn target := by
  obtain ⟨change, hc, rfl⟩ := mem_linkChanges.mp hl
  obtain ⟨edge, he, ht⟩ := hd
  have same : (change.withNew path content).path = change.path := Change.path_withNew ..
  refine ⟨_, mem_linkChanges.mpr ⟨_, List.mem_map_of_mem hc, rfl⟩, same, edge, ?_, ht⟩
  have other : change.path ≠ path := ne
  show edge ∈ DependencyGraph.outgoing _ _
  rw [same, DependencyGraph.outgoing_withNew other]
  exact he

end Linked

/-! ## Two views of one relation -/

/-- The related files of linked changes are read off their dependencies. -/
structure LinksAgree (changes : List Change) : Prop where
  /-- A dependent of a file is one of its related files. -/
  related : ∀ source ∈ linkChanges changes none, ∀ target ∈ linkChanges changes none,
    source.path ≠ target.path → source.DependsOn target.path →
      source.path ∈ target.relatedFiles
  /-- Dependents come first, then guesses, and there is nothing else. -/
  listed : ∀ target ∈ linkChanges changes none, ∃ dependents guesses,
    target.relatedFiles = dependents ++ guesses ∧
      (∀ path, path ∈ dependents ↔ path ≠ target.path ∧
        ∃ source ∈ linkChanges changes none, source.path = path ∧
          source.DependsOn target.path) ∧
      ∀ path, path ∈ guesses ↔ path ≠ target.path ∧ path ∉ dependents ∧
        path ∈ Path.counterparts target.path
  distinct : ∀ target ∈ linkChanges changes none,
    target.relatedFiles.Nodup ∧ target.path ∉ target.relatedFiles
  /-- Without source text there are no edges. -/
  silent : ∀ change ∈ changes, change.HasNoSource →
    change.dependencyEdges (changes.map (·.path)) = []
  silentFile : ∀ source ∈ linkChanges changes none,
    (∀ change ∈ changes, change.path = source.path → change.HasNoSource) →
      source.dependencies = []
  /-- Whatever the content of a file, with none as well, its dependents are related to it. -/
  target : ∀ path content, ∀ source ∈ linkChanges changes none,
    source.path ≠ path → source.DependsOn path →
      ∀ target ∈ linkChanges (changes.map (Change.withNew path content)) none,
        target.path = path → source.path ∈ target.relatedFiles

theorem mem_relatedFiles_of_dependsOn {changes : List Change} {source target : LinkedChange}
    (hs : source ∈ linkChanges changes none) (ht : target ∈ linkChanges changes none)
    (ne : source.path ≠ target.path) (hd : source.DependsOn target.path) :
    source.path ∈ target.relatedFiles :=
  (mem_relatedFiles ht).mpr ⟨ne, .inl (mem_dependents_iff.mpr ⟨source, hs, rfl, hd⟩)⟩

theorem mem_guesses {dependents guesses : List String} {own path : String} :
    path ∈ (unique (guesses.removeAll dependents)).filter (· != own) ↔
      path ≠ own ∧ path ∉ dependents.filter (· != own) ∧ path ∈ guesses := by
  simp only [List.mem_filter, bne_iff_ne, mem_unique, List.removeAll, List.elem_eq_mem,
    Bool.not_eq_true', decide_eq_false_iff_not]
  constructor
  · rintro ⟨⟨hg, hd⟩, ne⟩
    exact ⟨ne, fun h => hd h.1, hg⟩
  · rintro ⟨ne, hd, hg⟩
    exact ⟨⟨hg, fun h => hd ⟨h, ne⟩⟩, ne⟩

/-- A file is among the related files of everything that it depends on, whatever the
change set: when files import one another or themselves, or are gone. -/
theorem linkChanges_agree (changes : List Change) : LinksAgree changes where
  related source hs target ht ne hd := mem_relatedFiles_of_dependsOn hs ht ne hd
  listed target ht := by
    obtain ⟨change, -, rfl⟩ := mem_linkChanges.mp ht
    refine ⟨_, _, relatedFiles_link _ change, fun path => ?_, fun path => mem_guesses⟩
    rw [List.mem_filter, bne_iff_ne, mem_dependents_iff, and_comm]
    rfl
  distinct target ht := by
    refine ⟨?_, fun h => ((mem_relatedFiles ht).mp h).1 rfl⟩
    obtain ⟨change, -, rfl⟩ := mem_linkChanges.mp ht
    exact nodup_relatedFiles_link _ change
  silent _ _ h := Change.dependencyEdges_of_hasNoSource h
  silentFile _ hs h := dependencies_eq_nil hs h
  target path content source hs ne hd target ht he := by
    obtain ⟨other, ho, hp, hd⟩ := exists_dependsOn_withNew hs hd ne content
    rw [← hp] at ne ⊢
    exact mem_relatedFiles_of_dependsOn ho ht (he ▸ ne) (he ▸ hd)

example : (linkChanges
    [{ path := "src/a.ts", kind := .modified, new := some "import { b } from './b';\nimport { c } from './c';\n" },
      { path := "src/b.ts", kind := .modified, new := some "import { a } from './a';\nimport { b } from './b';\n" },
      { path := "src/c.ts", kind := .deleted, old := some "export const c = 1;\n" }] none).map
      (fun change => (change.path, change.dependencies.map (·.target), change.relatedFiles.take 2)) =
    [("src/a.ts", ["src/b.ts", "src/c.ts"], ["src/b.ts", "src/a.spec.ts"]),
      ("src/b.ts", ["src/a.ts", "src/b.ts"], ["src/a.ts", "src/b.spec.ts"]),
      ("src/c.ts", [], ["src/a.ts", "src/c.spec.ts"])] := by
  decide +kernel

end CommitLens
