import CommitLens.Dependency.Graph
import CommitLens.Proofs.Surface

/-!
# Edges of dependency graphs

A graph keeps its edges twice, by their targets and by their sources.  Main
statements: both indexes hold the edges that were added, each one once and in the
order in which they came, so the edges of one file do not depend on those of the
others; and every answer of a graph is one about this list of edges.
-/

namespace CommitLens

deriving instance ReflBEq, LawfulBEq for DependencyKind
deriving instance ReflBEq, LawfulBEq for Dependency

/-! ## Indexes -/

namespace EdgeIndex

@[simp] theorem edges_nil (key : String) : edges [] key = [] := rfl

theorem edges_cons (entry : String × List Dependency) (index : EdgeIndex) (key : String) :
    edges (entry :: index) key = if entry.1 = key then entry.2 else edges index key := by
  by_cases h : entry.1 = key <;> simp [edges, h]

theorem edges_insert (index : EdgeIndex) (key other : String) (edge : Dependency) :
    edges (insert key edge index) other =
      if key = other then edges index other ++ [edge] else edges index other := by
  induction index with
  | nil => by_cases h : key = other <;> simp [insert, edges_cons, h]
  | cons entry rest ih =>
      obtain ⟨first, known⟩ := entry
      by_cases hf : first = key
      · subst hf
        by_cases h : first = other <;> simp [insert, edges_cons, h]
      · by_cases h : first = other
        · subst h
          simp [insert, edges_cons, hf, Ne.symm hf]
        · simp only [insert, beq_false_of_ne hf, Bool.false_eq_true, if_false, edges_cons, ih, h]

theorem mem_keys_of_mem_edges {index : EdgeIndex} {key : String} {edge : Dependency}
    (h : edge ∈ index.edges key) : key ∈ index.map Prod.fst := by
  induction index with
  | nil => contradiction
  | cons entry rest ih =>
      rw [edges_cons] at h
      rw [List.map_cons, List.mem_cons]
      split at h
      · rename_i hk
        exact .inl hk.symm
      · exact .inr (ih h)

theorem map_fst_insert (index : EdgeIndex) (key : String) (edge : Dependency) :
    (insert key edge index).map Prod.fst = appendNew (index.map Prod.fst) key := by
  induction index with
  | nil => rfl
  | cons entry rest ih =>
      obtain ⟨other, known⟩ := entry
      by_cases h : other = key
      · rw [appendNew_of_mem (by simp [h])]
        simp [insert, h]
      · rw [List.map_cons, appendNew_cons_of_ne h, ← ih]
        simp [insert, h]

/-- With every key once, looking the keys up gives the edges as they are stored. -/
theorem flatMap_edges {index : EdgeIndex} (h : (index.map Prod.fst).Nodup) :
    (index.map Prod.fst).flatMap index.edges = index.flatMap Prod.snd := by
  induction index with
  | nil => rfl
  | cons entry rest ih =>
      rw [List.map_cons, List.nodup_cons] at h
      have others : ∀ key ∈ rest.map Prod.fst, edges (entry :: rest) key = edges rest key := by
        intro key hk
        have ne : entry.1 ≠ key := fun he => h.1 (he ▸ hk)
        rw [edges_cons, if_neg ne]
      have first : edges (entry :: rest) entry.1 = entry.2 := by rw [edges_cons, if_pos rfl]
      rw [List.map_cons, List.flatMap_cons, List.flatMap_cons, first, ← ih h.2,
        List.flatMap_congr others]

end EdgeIndex

/-! ## Graphs -/

namespace DependencyGraph

/-- Both indexes hold the same edges. -/
structure Consistent (graph : DependencyGraph) : Prop where
  mem : ∀ edge, edge ∈ graph.incoming edge.target ↔ edge ∈ graph.outgoing edge.source

theorem Consistent.empty : Consistent {} :=
  ⟨fun _ => Iff.rfl⟩

variable {graph : DependencyGraph}

theorem add_of_mem {edge : Dependency} (h : edge ∈ graph.incoming edge.target) :
    graph.add edge = graph := by
  simp [add, h]

theorem add_of_not_mem {edge : Dependency} (h : edge ∉ graph.incoming edge.target) :
    graph.add edge =
      { byTarget := EdgeIndex.insert edge.target edge graph.byTarget
        bySource := EdgeIndex.insert edge.source edge graph.bySource } := by
  simp [add, h]

theorem incoming_add (graph : DependencyGraph) (edge : Dependency) (target : String) :
    (graph.add edge).incoming target =
      if edge.target = target then appendNew (graph.incoming target) edge
      else graph.incoming target := by
  by_cases h : edge ∈ graph.incoming edge.target
  · rw [add_of_mem h]
    split
    · rename_i ht
      rw [appendNew_of_mem (ht ▸ h)]
    · rfl
  · rw [add_of_not_mem h]
    show EdgeIndex.edges (EdgeIndex.insert edge.target edge graph.byTarget) target = _
    rw [EdgeIndex.edges_insert]
    split
    · rename_i ht
      subst ht
      exact (appendNew_of_not_mem h).symm
    · rfl

/-- An edge is looked for among those of its target only; in a consistent graph
this finds it among those of its source too. -/
theorem outgoing_add (h : graph.Consistent) (edge : Dependency) (source : String) :
    (graph.add edge).outgoing source =
      if edge.source = source then appendNew (graph.outgoing source) edge
      else graph.outgoing source := by
  by_cases hm : edge ∈ graph.incoming edge.target
  · rw [add_of_mem hm]
    split
    · rename_i hs
      rw [appendNew_of_mem (hs ▸ (h.mem edge).mp hm)]
    · rfl
  · rw [add_of_not_mem hm]
    show EdgeIndex.edges (EdgeIndex.insert edge.source edge graph.bySource) source = _
    rw [EdgeIndex.edges_insert]
    split
    · rename_i hs
      subst hs
      exact (appendNew_of_not_mem fun ho => hm ((h.mem edge).mpr ho)).symm
    · rfl

theorem Consistent.add (h : graph.Consistent) (edge : Dependency) :
    (graph.add edge).Consistent := by
  refine ⟨fun other => ?_⟩
  have same : other = edge → edge.target = other.target ∧ edge.source = other.source := by
    rintro rfl
    exact ⟨rfl, rfl⟩
  rw [incoming_add, outgoing_add h]
  split <;> split <;> simp only [mem_appendNew, h.mem other] <;> tauto

/-- An edge that is there already has a target that is there already. -/
theorem targets_add (graph : DependencyGraph) (edge : Dependency) :
    (graph.add edge).targets = appendNew graph.targets edge.target := by
  by_cases h : edge ∈ graph.incoming edge.target
  · rw [add_of_mem h, appendNew_of_mem]
    exact EdgeIndex.mem_keys_of_mem_edges h
  · rw [add_of_not_mem h]
    exact EdgeIndex.map_fst_insert graph.byTarget edge.target edge

/-! ## Graphs of edges -/

theorem incoming_foldl_add (edges : List Dependency) (target : String) :
    (edges.foldl add graph).incoming target =
      (edges.filter fun edge => edge.target = target).foldl appendNew
        (graph.incoming target) := by
  induction edges generalizing graph with
  | nil => rfl
  | cons edge rest ih =>
      rw [List.foldl_cons, ih, incoming_add]
      by_cases ht : edge.target = target <;> simp [ht]

theorem outgoing_foldl_add (edges : List Dependency) (h : graph.Consistent) (source : String) :
    (edges.foldl add graph).outgoing source =
      (edges.filter fun edge => edge.source = source).foldl appendNew
        (graph.outgoing source) := by
  induction edges generalizing graph with
  | nil => rfl
  | cons edge rest ih =>
      rw [List.foldl_cons, ih (h.add edge), outgoing_add h]
      by_cases hs : edge.source = source <;> simp [hs]

theorem incoming_ofEdges (edges : List Dependency) (target : String) :
    (ofEdges edges).incoming target =
      unique (edges.filter fun edge => edge.target = target) :=
  incoming_foldl_add edges target

theorem outgoing_ofEdges (edges : List Dependency) (source : String) :
    (ofEdges edges).outgoing source =
      unique (edges.filter fun edge => edge.source = source) :=
  outgoing_foldl_add edges .empty source

theorem targets_ofEdges (edges : List Dependency) :
    (ofEdges edges).targets = unique (edges.map (·.target)) := by
  have run : ∀ graph : DependencyGraph, (edges.foldl add graph).targets =
      (edges.map (·.target)).foldl appendNew graph.targets := by
    induction edges with
    | nil => exact fun _ => rfl
    | cons edge rest ih =>
        intro graph
        rw [List.foldl_cons, ih, targets_add, List.map_cons, List.foldl_cons]
  exact run {}

/-! ## Answers -/

theorem toList_eq_flatMap_incoming (h : graph.targets.Nodup) :
    graph.toList = graph.targets.flatMap graph.incoming :=
  (EdgeIndex.flatMap_edges h).symm

theorem size_eq_length_toList (graph : DependencyGraph) : graph.size = graph.toList.length := by
  rw [size, toList, List.length_flatMap, List.sum_eq_foldr]

/-- Edges taken target by target are all of them. -/
theorem flatMap_filter_target_perm {edges : List Dependency} {targets : List String}
    (distinct : edges.Nodup) (once : targets.Nodup)
    (found : ∀ edge ∈ edges, edge.target ∈ targets) :
    (targets.flatMap fun target => edges.filter fun edge => edge.target = target).Perm edges := by
  refine (List.perm_ext_iff_of_nodup ?_ distinct).mpr fun edge => ?_
  · refine List.nodup_flatMap.mpr ⟨fun target _ => distinct.filter _, once.imp ?_⟩
    intro one other hne edge h1 h2
    have at1 : edge.target = one := by simpa using (List.mem_filter.mp h1).2
    have at2 : edge.target = other := by simpa using (List.mem_filter.mp h2).2
    exact hne (at1.symm.trans at2)
  · constructor
    · intro h
      obtain ⟨target, _, h⟩ := List.mem_flatMap.mp h
      exact (List.mem_filter.mp h).1
    · intro h
      exact List.mem_flatMap.mpr
        ⟨edge.target, found edge h, List.mem_filter.mpr ⟨h, decide_eq_true rfl⟩⟩

/-- What a graph answers if `edges` are the edges that it holds. -/
structure Answers (graph : DependencyGraph) (edges : List Dependency) : Prop where
  incoming : ∀ target, graph.incoming target = edges.filter fun edge => edge.target = target
  outgoing : ∀ source, graph.outgoing source = edges.filter fun edge => edge.source = source
  dependents : ∀ target,
    graph.dependents target = ((graph.incoming target).map (·.source)).eraseDups
  targets : graph.targets = (edges.map (·.target)).eraseDups
  toList : graph.toList = graph.targets.flatMap graph.incoming
  perm : graph.toList.Perm edges
  size : graph.size = edges.length
  /-- Nothing is different when an edge comes again. -/
  again : ∀ edge ∈ edges, graph.add edge = graph

/-- A graph answers from the edges that it was made of and those that were added later,
each one taken where it came first. -/
theorem foldl_add_answers (edges added : List Dependency) :
    (added.foldl add (ofEdges edges)).Answers (edges ++ added).eraseDups := by
  have made : added.foldl add (ofEdges edges) = ofEdges (edges ++ added) :=
    (List.foldl_append ..).symm
  rw [made, ← unique_eq_eraseDups]
  generalize edges ++ added = edges
  have targets : (ofEdges edges).targets = unique ((unique edges).map (·.target)) := by
    rw [targets_ofEdges, unique_map_unique]
  have once : (ofEdges edges).targets.Nodup := targets ▸ nodup_unique _
  have incoming (target : String) : (ofEdges edges).incoming target =
      (unique edges).filter fun edge => edge.target = target := by
    rw [incoming_ofEdges, unique_filter]
  have outgoing (source : String) : (ofEdges edges).outgoing source =
      (unique edges).filter fun edge => edge.source = source := by
    rw [outgoing_ofEdges, unique_filter]
  have toList := toList_eq_flatMap_incoming once
  have perm : (ofEdges edges).toList.Perm (unique edges) := by
    rw [toList, List.flatMap_congr fun target _ => incoming target]
    refine flatMap_filter_target_perm (nodup_unique edges) once fun edge h => ?_
    rw [targets, mem_unique]
    exact List.mem_map_of_mem h
  exact
    { incoming, outgoing, toList, perm
      dependents := fun _ => unique_eq_eraseDups _
      targets := targets.trans (unique_eq_eraseDups _)
      size := (size_eq_length_toList _).trans perm.length_eq
      again := fun edge h => add_of_mem (incoming edge.target ▸
        List.mem_filter.mpr ⟨h, decide_eq_true rfl⟩) }

end DependencyGraph

end CommitLens
