import CommitLens.Python.Module
import CommitLens.Python.Printer
import CommitLens.Surface

/-!
# Surfaces of Python modules

Exports are the names of the last literal `__all__`, or else every declared
name that does not start with an underscore.  A class goes to the enums, the
interfaces or the plain classes by the names of its bases.
-/

namespace CommitLens.Python

/-- The bare name of a base: what is subscripted, without a path. -/
def baseName : Expr → String
  | .subscript e _ => simpleName e
  | e => simpleName e
where
  simpleName : Expr → String
    | .member _ name => name
    | .name id => id
    | _ => ""

mutual

/-- The names that a target binds.  Stars, members and subscripts bind none. -/
def targetNames : Expr → List String
  | .name id => [id]
  | .tuple items => targetNamesOf items
  | .list items => targetNamesOf items
  | _ => []

def targetNamesOf : List Expr → List String
  | [] => []
  | e :: rest => targetNames e ++ targetNamesOf rest

end

def isAllName : Expr → Bool
  | .name id => id == "__all__"
  | _ => false

def literalTexts (items : List Expr) : List String :=
  items.filterMap fun e =>
    match e with
    | .constant (.text s) => some s
    | _ => none

/-- The names of a literal list of exports. -/
def exportList? : Statement → Option (List String)
  | .assign targets value => listFor targets value
  | .annotate target _ (some value) => listFor [target] value
  | _ => none
where
  listFor (targets : List Expr) (value : Expr) : Option (List String) :=
    if targets.any isAllName then
      match value with
      | .list items | .tuple items => some (literalTexts items)
      | _ => none
    else none

/-- A member may be left out if it has a value, or a type that says so. -/
def isOptionalMember (mark : Expr) (value : Option Expr) : Bool :=
  let text := mark.render
  value.isSome || ["Optional", "NotRequired", "None"].any (Text.containsText text)

def memberOf? : Statement → Option InterfaceMember
  | .annotate (.name id) mark value => some ⟨id, isOptionalMember mark value⟩
  | .functionDef name => if name.startsWith "_" then none else some ⟨name, false⟩
  | _ => none

def enumBases : List String :=
  ["Enum", "IntEnum", "StrEnum", "Flag", "IntFlag"]

def interfaceBases : List String :=
  ["Protocol", "ABC", "TypedDict"]

def addClass (name : String) (bases : List Expr) (body : List Statement) (surface : Surface) :
    Surface :=
  let names := bases.map baseName
  let heritage := (names.filter (!·.isEmpty)).map fun base => (name, base)
  let surface := { surface with heritage := surface.heritage ++ heritage }
  if names.any enumBases.contains then { surface with enums := surface.enums ++ [name] }
  else if names.any interfaceBases.contains then
    { surface with
      interfaces := surface.interfaces ++ [name]
      interfaceMembers := setMembers name (body.filterMap memberOf?) surface.interfaceMembers }
  else { surface with classes := surface.classes ++ [name] }

/-- The names of an assignment, unless it lists the exports. -/
def addNames (statement : Statement) (surface : Surface) : Surface :=
  match statement with
  | .assign targets _ => { surface with variableNames := surface.variableNames ++ targetNamesOf targets }
  | .annotate target mark _ =>
      if mark.render.endsWith "TypeAlias" then
        { surface with typeAliases := surface.typeAliases ++ targetNames target }
      else { surface with variableNames := surface.variableNames ++ targetNames target }
  | _ => surface

def importOf (item : Alias) : ImportRef :=
  ⟨item.name, [item.boundTo.getD item.name]⟩

/-- Leading dots stay in front of the module. -/
def relativeSpecifier (level : Nat) (module : Option String) : String :=
  String.ofList (List.replicate level '.') ++ module.getD ""

/-- What a top-level statement adds to the surface. -/
def addStatement (surface : Surface) (statement : Statement) : Surface :=
  match statement with
  | .classDef name bases body => addClass name bases body surface
  | .functionDef name => { surface with functions := surface.functions ++ [name] }
  | .importModules items => { surface with imports := surface.imports ++ items.map importOf }
  | .importFrom level module items =>
      let ref : ImportRef := ⟨relativeSpecifier level module, items.map (·.name)⟩
      { surface with imports := surface.imports ++ [ref] }
  | .assign _ _ | .annotate _ _ _ =>
      if (exportList? statement).isSome then surface else addNames statement surface
  | .other => surface

def publicNames (names : List String) : List String :=
  names.filter fun name => !name.startsWith "_"

def surfaceOf (statements : List Statement) : Surface :=
  let surface := statements.foldl addStatement {}
  let listed := (statements.filterMap exportList?).getLast?
  { surface with exports := listed.getD (publicNames surface.declarations) }.withoutRepetitions

/-- The surface of a text, or why it has none. -/
def parseSurface (text : String) : Except SyntaxError Surface :=
  (parseModule text).map surfaceOf

end CommitLens.Python
