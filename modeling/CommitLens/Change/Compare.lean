import CommitLens.Change.Record
import CommitLens.Language

/-!
# Comparing the versions of a file

The surfaces of the two versions are compared name by name.  Losing an export is
breaking; what a file merely declares, its interfaces and its imports count for
less.
-/

namespace CommitLens

/-- The items of a list that another list does not have. -/
def without (items others : List String) : List String :=
  items.filter fun item => !others.contains item

/-- What a comparison finds. -/
structure Comparison where
  deltas : List Delta
  impact : Impact
  summary : String
  deriving Repr, BEq, DecidableEq, Inhabited

namespace Surface

def addedExports (old new : Surface) : List String :=
  without new.exports old.exports

def removedExports (old new : Surface) : List String :=
  without old.exports new.exports

/-- Declarations that are not exported. -/
def localNames (surface : Surface) : List String :=
  without surface.declarations surface.exports

/-- Local names that are new, except those that were exports before. -/
def addedLocals (old new : Surface) : List String :=
  without (without new.localNames old.declarations) (removedExports old new)

/-- Local names that are gone, except those that are exports now. -/
def removedLocals (old new : Surface) : List String :=
  without (without old.localNames new.declarations) (addedExports old new)

/-- Exports and declarations that came or went. -/
def nameDeltas (old new : Surface) : List Delta :=
  (removedExports old new).map (fun name =>
      ⟨.methodRemoved, "Removed export: " ++ name, .breaking, some name⟩) ++
    (addedExports old new).map (fun name =>
      ⟨.methodAdded, "Added export: " ++ name, .medium, some name⟩) ++
    (removedLocals old new).map (fun name =>
      ⟨.implementationChanged, "Removed declaration: " ++ name, .medium, some name⟩) ++
    (addedLocals old new).map fun name =>
      ⟨.implementationChanged, "Added declaration: " ++ name, .low, some name⟩

/-- Members of one interface that came or went. -/
def memberDeltas (interfaceName : String) (old new : List InterfaceMember) : List Delta :=
  let symbol := fun (member : InterfaceMember) => interfaceName ++ "." ++ member.name
  let has := fun (members : List InterfaceMember) (member : InterfaceMember) =>
    members.any fun other => other.name == member.name
  (old.filter fun member => !has new member).map (fun member =>
      ⟨.interfaceChanged,
        "Property '" ++ member.name ++ "' removed from interface " ++ interfaceName,
        .high, some (symbol member)⟩) ++
    (new.filter fun member => !has old member).map fun member =>
      let text := "Property '" ++ member.name ++ "' added to interface " ++ interfaceName
      if member.optional then
        ⟨.interfaceChanged, text ++ " (optional)", .low, some (symbol member)⟩
      else ⟨.interfaceChanged, text, .medium, some (symbol member)⟩

/-- Members that came or went in the interfaces of both versions. -/
def interfaceDeltas (old new : Surface) : List Delta :=
  old.interfaceMembers.flatMap fun (name, members) =>
    match new.members? name with
    | some others => memberDeltas name members others
    | none => []

def importDeltas (old new : Surface) : List Delta :=
  (without new.importedModules old.importedModules).map (fun module =>
      { kind := .dependencyAdded, description := "Added import: " ++ module }) ++
    (without old.importedModules new.importedModules).map fun module =>
      { kind := .dependencyRemoved, description := "Removed import: " ++ module }

/-- Everything that differs between two surfaces. -/
def deltas (old new : Surface) : List Delta :=
  nameDeltas old new ++ interfaceDeltas old new ++ importDeltas old new

/-- What the differences mean to those who use the file. -/
def impact (old new : Surface) : Impact :=
  if !(removedExports old new).isEmpty then .major
  else if !(addedExports old new).isEmpty || !(removedLocals old new).isEmpty then .moderate
  else .minor

end Surface

/-- The greater of two impacts. -/
def Impact.rank : Impact → Nat
  | minor => 0
  | moderate => 1
  | major => 2
  | other _ => 0

def Impact.max (a b : Impact) : Impact :=
  if b.rank ≤ a.rank then a else b

namespace Change

def fileName (change : Change) : String :=
  Path.fileName change.path

/-- The path of the old version. -/
def oldPath (change : Change) : String :=
  (present? change.previousPath).getD change.path

def oldText (change : Change) : String :=
  change.old.getD ""

def newText (change : Change) : String :=
  change.new.getD ""

/-- An added file. -/
def compareAdded (change : Change) : Except ParseError Comparison := do
  let surface ← parseSource change.path change.newText
  let label := describeModule change.path surface change.newText
  return {
    deltas := [{ kind := .fileAdded, description := "Added " ++ label ++ ": " ++ change.fileName }]
    impact := if surface.exports.isEmpty then .minor else .moderate
    summary := "Added " ++ label ++ " with " ++ toString surface.declarations.length ++
      " declarations and " ++ toString surface.exports.length ++ " exports" }

/-- A deleted file: with its exports gone, it is breaking. -/
def compareDeleted (change : Change) : Except ParseError Comparison := do
  let surface ← parseSource change.path change.oldText
  let label := describeModule change.path surface change.oldText
  let (severity, impact) : Severity × Impact :=
    if surface.exports.isEmpty then (.medium, .moderate) else (.breaking, .major)
  return {
    deltas := [⟨.fileDeleted, "Deleted file: " ++ change.fileName, severity, none⟩]
    impact
    summary := "Deleted " ++ label ++ " with " ++ toString surface.exports.length ++ " exports" }

/-- The surface of the old version.  What was no source text before has none. -/
def oldSurface (change : Change) : Except ParseError Surface :=
  if isCodePath change.oldPath then parseSource change.oldPath change.oldText else .ok {}

/-- What two surfaces and the contents tell about a modified file. -/
def deltasBetween (change : Change) (old new : Surface) : List Delta :=
  let found := Surface.deltas old new
  if found.isEmpty && change.old != change.new then
    [{ kind := .implementationChanged
       description := "Changed implementation of " ++ change.fileName }]
  else found

/-- A file with another content. -/
def compareModified (change : Change) : Except ParseError Comparison := do
  let old ← change.oldSurface
  let new ← parseSource change.path change.newText
  let deltas := change.deltasBetween old new
  let label := describeModule change.path new change.newText
  let count := if deltas.isEmpty then ""
    else " with " ++ toString deltas.length ++ " semantic changes"
  return {
    deltas
    impact := Surface.impact old new
    summary := "Modified " ++ label ++ ": " ++ change.fileName ++ count }

/-- A file with another name, and maybe another content. -/
def compareRenamed (change : Change) : Except ParseError Comparison := do
  let oldName := Path.fileName change.oldPath
  let rename : Delta :=
    ⟨.fileRenamed, "Renamed from " ++ oldName ++ " to " ++ change.fileName, .medium, none⟩
  if change.old == change.new || change.old.isNone || change.new.isNone then
    return ⟨[rename], .moderate, "Renamed " ++ oldName ++ " to " ++ change.fileName⟩
  else
    let found ← change.compareModified
    return { found with
      deltas := rename :: found.deltas
      impact := found.impact.max .moderate }

def compareSource (change : Change) : Except ParseError Comparison :=
  match change.kind with
  | .added => change.compareAdded
  | .deleted => change.compareDeleted
  | .renamed => change.compareRenamed
  | _ => change.compareModified

/-- A file that is no source text has no deltas. -/
def describeOther (change : Change) : Comparison :=
  let verb := match change.kind with
    | .added => "Added"
    | .deleted => "Deleted"
    | .renamed => "Renamed"
    | _ => "Modified"
  ⟨[], .minor, verb ++ " non-code file: " ++ change.fileName⟩

/-- The comparison of a change: an error is a source text that cannot be
read. -/
def compare (change : Change) : Except ParseError Comparison :=
  if isCodePath change.path then change.compareSource else .ok change.describeOther

end Change

/-- The symbols that deltas name, each one once. -/
def affectedSymbols (deltas : List Delta) : List String :=
  unique (deltas.filterMap fun delta => present? delta.affectedSymbol)

namespace LinkedChange

/-- A change with the result of its comparison. -/
def withComparison (change : LinkedChange) (found : Comparison) (analyzed : Bool) :
    ComparedChange :=
  { change with
    deltas := found.deltas
    affectedSymbols := CommitLens.affectedSymbols found.deltas
    impact := found.impact
    summary := found.summary
    analyzed }

/-- The compared change, and what went wrong with it if something did. -/
def compare (change : LinkedChange) : ComparedChange × Option FileFailure :=
  match change.toChange.compare with
  | .ok found => (change.withComparison found true, none)
  | .error error =>
      (change.withComparison ⟨[], .minor, "Could not parse " ++ change.fileName⟩ false,
        some ⟨change.path, "semantic", error.reason⟩)

end LinkedChange

/-- Compare every change; the failures are in the order of the changes. -/
def compareChanges (changes : List LinkedChange) : List ComparedChange × List FileFailure :=
  let results := changes.map LinkedChange.compare
  (results.map (·.1), results.filterMap (·.2))

end CommitLens
