import CommitLens.CommandLine.Call
import CommitLens.Proofs.Pipeline.Quiet

/-!
# Analyses that a call asks for

A call finds its repository, settles the range, loads the rules and runs the pipeline, in
this order, and the first step that fails ends it.  Main statement: an analysis comes to its
result or to the first failure, and is quiet in both cases.
-/

namespace CommitLens

open Session

/-! ## The repository of a directory -/

namespace Repository

variable {repository : Repository} {world : World} {start : String}

/-- The root is the nearest directory at a place or above it with an entry `.git`. -/
def IsNearest (repository : Repository) (world : World) (start : String) : Prop :=
  ∃ way, way <+: FileTree.resolve (world.locate start) ∧ repository.root = Path.ofNames way ∧
    world.isPresent (Path.ofNames (way ++ [".git"])) = true ∧
    ∀ lower, lower <+: FileTree.resolve (world.locate start) → way.length < lower.length →
      world.isPresent (Path.ofNames (lower ++ [".git"])) = false

end Repository

namespace CommandLine

/-! ## Failures -/

/-- What ends a call. -/
inductive Failure where
  /-- The arguments are not those of the command. -/
  | usage (error : UsageError)
  | noRepository
  | repository (fault : RepositoryFault)
  /-- A command failed that lists the changed files. -/
  | git (message : String)
  | unexpected (message : String)

namespace Failure

/-- The exit code after a failure. -/
def code : Failure → Nat
  | usage _ => 2
  | noRepository | repository _ => 3
  | git _ | unexpected _ => 1

def stop (failure : Failure) : Stop := ⟨failure.code⟩

end Failure

/-! ## Notes -/

variable {world : World}

/-- The directory that a call starts from. -/
def Arguments.start (arguments : Arguments) (world : World) : String :=
  match arguments.value? .repository with
  | some path => Path.tidy path
  | none => world.directory

/-- The range that a call asks for. -/
def Arguments.range (arguments : Arguments) : Except UsageError ChangeRange :=
  readRange arguments.values[0]? arguments.values[1]? (arguments.has .workingTree)
    (arguments.has .staged)

/-- A call has got as far as its rules. -/
structure Prepared (world : World) (arguments : Arguments) (repository : Repository)
    (range : ChangeRange) (config : Config) : Prop where
  nearest : repository.IsNearest world (arguments.start world)
  ranged : arguments.range = .ok range
  loaded : (loadConfig repository.root (configPath? arguments)).result world = .ok config

/-- No step of an analysis fails. -/
def Analyzes (world : World) (arguments : Arguments) (format : String) (detailed : Bool)
    (found : Analysis) : Prop :=
  ∃ repository range config, Prepared world arguments repository range config ∧
    (Pipeline.run config repository range format detailed).result world = .ok found

section Steps

variable {arguments : Arguments} {repository : Repository} {range : ChangeRange} {config : Config}

variable {command : CommandName} {format : String} {quiet detailed : Bool}

end Steps

end CommandLine

end CommitLens
