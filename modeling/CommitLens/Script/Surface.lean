import CommitLens.Script.Program
import CommitLens.Surface
import CommitLens.Text.Blank

/-!
# Surfaces of scripts

The statements of a program contribute to its surface one by one; only the top
level counts.  A name of a pattern is every variable below it, those read in
default values and computed keys included.
-/

namespace CommitLens.Script

/-- A string without its quotes; escapes stay as they are written. -/
def unquoted (text : String) : String :=
  match text.toList with
  | quote :: rest =>
      if ['\x22', '\x27', '\x60'].contains quote && rest.getLast? == some quote then
        String.ofList rest.dropLast
      else text
  | [] => text

/-- The part of a text after its last dot. -/
def afterLastDot (text : String) : String :=
  (Text.split '.' text).getLast?.getD text

/-- The bare name of a base: no type arguments, no path in front. -/
def bareName (text : String) : String :=
  afterLastDot (Text.trim (String.ofList (text.toList.takeWhile (· != '<'))))

/-- What a declaration adds to the surface, and the names it binds. -/
structure Declared where
  surface : Surface := {}
  names : List String := []

def Declared.append (a b : Declared) : Declared :=
  ⟨a.surface ++ b.surface, a.names ++ b.names⟩

variable (src : Source)

def textOf : Option Tree → String
  | some tree => src.text tree
  | none => ""

/-- The variables below a pattern in source order. -/
def boundNames (pattern : Tree) : List String :=
  ((Tree.walk [pattern]).filter fun tree =>
    tree.kind == .identifier || tree.kind == .shorthandBinding).map src.text

def basesOf (clause : Tree) : List String :=
  let bases :=
    if clause.kind == .extendsClause || clause.kind == .implementsClause then
      clause.namedChildren.filter fun tree =>
        tree.kind != .typeArguments && tree.kind != .comment
    else [clause]
  bases.map fun base => bareName (src.text base)

/-- The bases of a class in source order.  A comment between its clauses counts
as one. -/
def heritageOf (name : String) (tree : Tree) : List (String × String) :=
  (tree.children.filter fun child => child.kind == .classHeritage).flatMap fun heritage =>
    heritage.namedChildren.flatMap fun clause => (basesOf src clause).map fun base => (name, base)

def isOptionMark (tree : Tree) : Bool :=
  tree.kind == .mark && src.text tree == "?"

def memberOf? (tree : Tree) : Option InterfaceMember :=
  if tree.kind == .propertySignature || tree.kind == .methodSignature then
    let name := textOf src (tree.child? .name)
    if name.isEmpty then none else some ⟨name, tree.children.any (isOptionMark src)⟩
  else none

def membersOf (tree : Tree) : List (String × List InterfaceMember) :=
  match tree.child? .body with
  | none => []
  | some body => [(textOf src (tree.child? .name), body.namedChildren.filterMap (memberOf? src))]

def declareVariables (tree : Tree) : Declared :=
  let names := (tree.namedChildren.filter fun child => child.kind == .variableDeclarator).flatMap
    fun declarator => (declarator.child? .name).elim [] (boundNames src)
  ⟨{ variableNames := names }, names⟩

/-- A declaration of one name. -/
def declareNamed (tree : Tree) : Declared :=
  let name := textOf src (tree.child? .name)
  if name.isEmpty then {}
  else match tree.kind with
    | .classDeclaration => ⟨{ classes := [name], heritage := heritageOf src name tree }, [name]⟩
    | .interfaceDeclaration =>
        ⟨{ interfaces := [name], interfaceMembers := membersOf src tree }, [name]⟩
    | .functionDeclaration => ⟨{ functions := [name] }, [name]⟩
    | .enumDeclaration => ⟨{ enums := [name] }, [name]⟩
    | .typeAliasDeclaration => ⟨{ typeAliases := [name] }, [name]⟩
    | .moduleDeclaration => ⟨{}, [name]⟩
    | _ => {}

mutual

/-- Declarations for code that lives elsewhere hold further declarations. -/
def declare : Tree → Declared
  | .node .ambientDeclaration _ _ _ children => declareAll children
  | .node .variableDeclaration role start stop children =>
      declareVariables src (.node .variableDeclaration role start stop children)
  | tree => declareNamed src tree

def declareAll : List Tree → Declared
  | [] => {}
  | tree :: rest => (if tree.isNamed then declare tree else {}).append (declareAll rest)

end

/-! ## Imports and exports -/

def clauseSymbols (clause : Tree) : List String :=
  clause.namedChildren.flatMap fun child =>
    match child.kind with
    | .identifier => ["default"]
    | .namespaceImport => ["*"]
    | .namedImports =>
        (child.namedChildren.filter fun item => item.kind == .importSpecifier).map fun item =>
          textOf src (item.child? .name)
    | _ => []

def importPart (source : Option Tree) (symbols : List String) : Surface :=
  match source with
  | none => {}
  | some tree => { imports := [⟨unquoted (src.text tree), symbols⟩] }

def importOf (tree : Tree) : Surface :=
  let required := tree.namedChildren.filter fun child => child.kind == .importRequireClause
  let symbols := tree.namedChildren.flatMap fun child =>
    match child.kind with
    | .importRequireClause =>
        (child.namedChildren.filter fun item => item.kind == .identifier).map src.text
    | .importClause => clauseSymbols src child
    | _ => []
  let source := (required.getLast?.map fun clause => clause.child? .source).getD
    (tree.child? .source)
  importPart src source symbols

/-- Does the statement itself hold the keyword or mark? -/
def hasMark (tree : Tree) (text : String) : Bool :=
  tree.children.any fun child => child.kind == .mark && src.text child == text

/-- The names that an export list gives and takes. -/
def exportedItems (clause : Tree) : List (String × String) :=
  (clause.namedChildren.filter fun item => item.kind == .exportSpecifier).map fun item =>
    let name := textOf src (item.child? .name)
    let newName := textOf src (item.child? .newName)
    (if newName.isEmpty then name else newName, name)

/-- The names an export statement without a declaration exports, and those it
takes from elsewhere. -/
def exportedNames (tree : Tree) : List String × List String :=
  tree.namedChildren.foldl (fun (exported, taken) child =>
    match child.kind with
    | .exportClause =>
        let items := exportedItems src child
        (exported ++ items.map (·.1), taken ++ items.map (·.2))
    | .namespaceExport =>
        (exported ++ (child.namedChildren.getLast?.map src.text).toList, taken ++ ["*"])
    | _ => (exported, taken)) ([], [])

def exportList (tree : Tree) : Surface :=
  let (exported, taken) := exportedNames src tree
  match tree.child? .source with
  | none => { exports := exported }
  | some source =>
      let symbols := if taken.isEmpty && hasMark src tree "*" then ["*"] else taken
      { exports := exported, reexports := [⟨unquoted (src.text source), symbols⟩] }

def exportOf (tree : Tree) : Surface :=
  match tree.child? .declaration with
  | some declaration =>
      let declared := declare src declaration
      let names := if hasMark src tree "default" then ["default"] else declared.names
      declared.surface ++ { exports := names }
  | none =>
      if hasMark src tree "default" || hasMark src tree "=" then { exports := ["default"] }
      else exportList src tree

/-- Exports by assignment, told by the exact text of the target. -/
def assignedExport (target : String) : List String :=
  if target == "module.exports" then ["default"]
  else if target.startsWith "module.exports." || target.startsWith "exports." then
    [afterLastDot target]
  else []

def assignmentExports (tree : Tree) : Surface :=
  match tree.namedChildren.head? with
  | some expression =>
      if expression.kind == .assignment then
        { exports := assignedExport (textOf src (expression.child? .left)) }
      else {}
  | none => {}

/-! ## Programs -/

def statementSurface (tree : Tree) : Surface :=
  match tree.kind with
  | .importStatement => importOf src tree
  | .exportStatement => exportOf src tree
  | .expressionStatement => assignmentExports src tree
  | _ => (declare src tree).surface

def surfaceOf (program : Tree) : Surface :=
  let surface := Surface.concat (program.namedChildren.map (statementSurface src))
  let hasMarkup := (Tree.walk [program]).any fun tree => tree.kind == .markup
  { surface with hasMarkup := hasMarkup }.withoutRepetitions

/-- The surface of a text, or the line near which the text does not fit the
grammar. -/
def parseSurface (dialect : Dialect) (text : String) : Except Nat Surface :=
  let src := Source.ofText dialect text
  let program := parse src
  match firstBrokenLine? src program with
  | some line => .error line
  | none => .ok (surfaceOf src program)

end CommitLens.Script
