/-!
# Surfaces of source modules

A surface is what two versions of a source file are compared by: the names it
exports and declares, what it imports, the bases of its classes and the members
of its interfaces.
-/

namespace CommitLens

/-- An import, or an export of what another module has, of symbols from a
module. -/
structure ImportRef where
  specifier : String
  symbols : List String := []
  deriving Repr, BEq, DecidableEq, Inhabited

structure InterfaceMember where
  name : String
  optional : Bool := false
  deriving Repr, BEq, DecidableEq, Inhabited

structure Surface where
  exports : List String := []
  classes : List String := []
  interfaces : List String := []
  functions : List String := []
  enums : List String := []
  typeAliases : List String := []
  variableNames : List String := []
  imports : List ImportRef := []
  reexports : List ImportRef := []
  /-- Classes with one of their bases each. -/
  heritage : List (String × String) := []
  /-- The members of each interface, interfaces in the order in which they were
  first seen. -/
  interfaceMembers : List (String × List InterfaceMember) := []
  hasMarkup : Bool := false
  deriving Repr, BEq, DecidableEq, Inhabited

/-- Keep the first occurrence of each item. -/
def unique {α : Type} [BEq α] (items : List α) : List α :=
  items.foldl (fun kept item => if kept.contains item then kept else kept ++ [item]) []

/-- Add members to an interface, which may be new. -/
def addMembers (name : String) (members : List InterfaceMember) :
    List (String × List InterfaceMember) → List (String × List InterfaceMember)
  | [] => [(name, members)]
  | (other, known) :: rest =>
      if other == name then (other, known ++ members) :: rest
      else (other, known) :: addMembers name members rest

/-- Give an interface its members in place of those it may have. -/
def setMembers (name : String) (members : List InterfaceMember) :
    List (String × List InterfaceMember) → List (String × List InterfaceMember)
  | [] => [(name, members)]
  | (other, known) :: rest =>
      if other == name then (other, members) :: rest
      else (other, known) :: setMembers name members rest

namespace Surface

/-- What two parts of a module contribute, the first one first. -/
def append (a b : Surface) : Surface where
  exports := a.exports ++ b.exports
  classes := a.classes ++ b.classes
  interfaces := a.interfaces ++ b.interfaces
  functions := a.functions ++ b.functions
  enums := a.enums ++ b.enums
  typeAliases := a.typeAliases ++ b.typeAliases
  variableNames := a.variableNames ++ b.variableNames
  imports := a.imports ++ b.imports
  reexports := a.reexports ++ b.reexports
  heritage := a.heritage ++ b.heritage
  interfaceMembers := b.interfaceMembers.foldl (fun known (name, members) =>
    addMembers name members known) a.interfaceMembers
  hasMarkup := a.hasMarkup || b.hasMarkup

instance : Append Surface := ⟨append⟩

def concat (parts : List Surface) : Surface :=
  parts.foldl append {}

/-- Every declared name once, in a fixed order of categories. -/
def declarations (surface : Surface) : List String :=
  unique (surface.classes ++ surface.interfaces ++ surface.functions ++ surface.enums ++
    surface.typeAliases ++ surface.variableNames)

def importedModules (surface : Surface) : List String :=
  unique (surface.imports.map (·.specifier))

/-- The surface with every list of names free of repetitions. -/
def withoutRepetitions (surface : Surface) : Surface :=
  { surface with
    exports := unique surface.exports
    classes := unique surface.classes
    interfaces := unique surface.interfaces
    functions := unique surface.functions
    enums := unique surface.enums
    typeAliases := unique surface.typeAliases
    variableNames := unique surface.variableNames }

/-- The members recorded for an interface, if it is recorded. -/
def members? (surface : Surface) (name : String) : Option (List InterfaceMember) :=
  (surface.interfaceMembers.find? fun entry => entry.1 == name).map (·.2)

end Surface

/-- A source text without a syntax tree: the reason is part of reports. -/
structure ParseError where
  path : String
  reason : String
  deriving Repr, BEq, DecidableEq, Inhabited

def ParseError.message (error : ParseError) : String :=
  "Cannot parse '" ++ error.path ++ "': " ++ error.reason

end CommitLens
