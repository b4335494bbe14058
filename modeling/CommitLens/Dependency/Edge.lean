import CommitLens.Dependency.Resolve

/-!
# Dependencies of one module

A module depends on what it imports, on what it exports from elsewhere, and on
the modules that the bases of its classes come from.
-/

namespace CommitLens

inductive DependencyKind where
  | imports
  | exports
  | uses
  | other (text : String)
  deriving Repr, BEq, DecidableEq, Inhabited

def DependencyKind.text : DependencyKind → String
  | imports => "import"
  | exports => "export"
  | uses => "uses"
  | other text => text

def DependencyKind.ofText : String → DependencyKind
  | "import" => imports
  | "export" => exports
  | "uses" => uses
  | text => other text

/-- An edge from a file to the file or package that it depends on. -/
structure Dependency where
  source : String
  target : String
  kind : DependencyKind
  symbols : List String := []
  deriving Repr, BEq, DecidableEq, Inhabited

namespace Surface

/-- The imported symbols with the targets of their first imports. -/
def importedFrom (surface : Surface) (resolve : ImportRef → String) : List (String × String) :=
  surface.imports.flatMap fun ref => ref.symbols.map fun symbol => (symbol, resolve ref)

/-- The target of the edge to a base that the module does not declare.  A base
that no import names is looked for beside the module, except in languages where
it must be built in. -/
def baseTarget? (source : String) (imported : List (String × String)) (base : String) :
    Option String :=
  match imported.find? fun entry => entry.1 == base with
  | some (_, target) => some target
  | none =>
      let extension := (Path.splitExtension source).2
      if extension == ".py" then none
      else some (Path.join (Path.directory source) (base ++ extension))

/-- The edges that a module declares. -/
def dependencies (source : String) (surface : Surface) (known : List String) : List Dependency :=
  let resolve := fun ref => resolveImport source ref known
  let imported := surface.importedFrom resolve
  let declared := surface.declarations
  surface.imports.map (fun ref => ⟨source, resolve ref, .imports, ref.symbols⟩) ++
    surface.reexports.map (fun ref => ⟨source, resolve ref, .exports, ref.symbols⟩) ++
    surface.heritage.filterMap fun (_, base) =>
      if declared.contains base then none
      else (baseTarget? source imported base).map fun target => ⟨source, target, .uses, [base]⟩

end Surface

end CommitLens
