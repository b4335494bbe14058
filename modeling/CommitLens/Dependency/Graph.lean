import CommitLens.Change.Record
import CommitLens.Files.Counterpart
import CommitLens.Language

/-!
# Dependency graphs

The dependencies between the files of a change set, found by their targets and
by their sources.
-/

namespace CommitLens

/-- Edges by a key, keys and edges in the order in which they came. -/
abbrev EdgeIndex := List (String × List Dependency)

namespace EdgeIndex

/-- The edges of a key. -/
def edges (index : EdgeIndex) (key : String) : List Dependency :=
  match index.find? fun entry => entry.1 == key with
  | some (_, edges) => edges
  | none => []

def insert (key : String) (edge : Dependency) : EdgeIndex → EdgeIndex
  | [] => [(key, [edge])]
  | (other, edges) :: rest =>
      if other == key then (other, edges ++ [edge]) :: rest
      else (other, edges) :: insert key edge rest

end EdgeIndex

structure DependencyGraph where
  byTarget : EdgeIndex := []
  bySource : EdgeIndex := []
  deriving Repr, BEq, Inhabited

namespace DependencyGraph

/-- The edges pointing at a file. -/
def incoming (graph : DependencyGraph) (target : String) : List Dependency :=
  graph.byTarget.edges target

/-- The edges starting at a file. -/
def outgoing (graph : DependencyGraph) (source : String) : List Dependency :=
  graph.bySource.edges source

/-- Add an edge that is not there yet. -/
def add (graph : DependencyGraph) (edge : Dependency) : DependencyGraph :=
  if (graph.incoming edge.target).contains edge then graph
  else
    { byTarget := EdgeIndex.insert edge.target edge graph.byTarget
      bySource := EdgeIndex.insert edge.source edge graph.bySource }

def ofEdges (edges : List Dependency) : DependencyGraph :=
  edges.foldl add {}

/-- The files that depend on a file, each one once. -/
def dependents (graph : DependencyGraph) (target : String) : List String :=
  unique ((graph.incoming target).map (·.source))

def targets (graph : DependencyGraph) : List String :=
  graph.byTarget.map (·.1)

/-- Every edge, target by target. -/
def toList (graph : DependencyGraph) : List Dependency :=
  graph.byTarget.flatMap (·.2)

def size (graph : DependencyGraph) : Nat :=
  (graph.byTarget.map fun entry => entry.2.length).foldr (· + ·) 0

end DependencyGraph

/-- The edges that a changed file contributes: those of its new content, if
that is there and can be read. -/
def Change.dependencyEdges (known : List String) (change : Change) : List Dependency :=
  match present? change.new with
  | none => []
  | some content =>
      match parseSource change.path content with
      | .ok surface => surface.dependencies change.path known
      | .error _ => []

/-- The graph of a change set. -/
def DependencyGraph.ofChanges (changes : List Change) : DependencyGraph :=
  let known := changes.map (·.path)
  ofEdges (changes.flatMap (Change.dependencyEdges known))

/-- A change with its place in a graph. -/
def Change.link (graph : DependencyGraph) (change : Change) : LinkedChange :=
  let related := unique (graph.dependents change.path ++ Path.counterparts change.path)
  { change with
    relatedFiles := related.filter (· != change.path)
    dependencies := graph.outgoing change.path
    scope := Scope.ofPath change.path
    hunks := CommitLens.hunks change.old change.new }

/-- Link every change; the graph is built from the changes unless one is
given. -/
def linkChanges (changes : List Change) (graph? : Option DependencyGraph) : List LinkedChange :=
  let graph := graph?.getD (DependencyGraph.ofChanges changes)
  changes.map (Change.link graph)

end CommitLens
