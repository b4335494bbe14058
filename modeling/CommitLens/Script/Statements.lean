import CommitLens.Script.Expressions

/-!
# Statements

Declarations, imports and exports keep the parts that a surface needs under
kinds of their own; every other statement is read and only its extent matters.
-/

namespace CommitLens.Script

open Rule

/-! ## Declarations -/

def declarator (g : Grammar) : Rule :=
  node .variableDeclarator (any [
    typed (all [role .name identifier, mark "!", typeMark g]),
    all [role .name (any [destructuring g, identifier]), opt (typed (typeMark g)),
      opt (initializer g)]])

/-- The end of a declaration of variables: it stands after an expression if the
last declarator has a value. -/
def afterDeclarators (rule : Rule) : Rule := fun src c => do
  let (trees, next) ← rule src c
  let valued := (trees.getLast?.bind fun tree => tree.child? .value).isSome
  let (more, last) ← semicolon valued src next
  return (trees ++ more, last)

/-- A keyword that could be a variable too: as such it would end a statement
before a line end. -/
def openingWord (text : String) : Rule :=
  all [word text, guard fun src c => !closesStatement src c true]

/-- The rule `opening` reads the keywords that could be variables, where a
statement may begin with one. -/
def lexicalDeclaration (opening : String → Rule) (g : Grammar) : Rule :=
  node .variableDeclaration
    (afterDeclarators (all [any [word "const", opening "let"], sepBy1 comma (declarator g)]))

def variableDeclaration (g : Grammar) : Rule :=
  node .variableDeclaration
    (afterDeclarators (all [word "var", sepBy1 comma (declarator g)]))

/-- Resources that are closed at the end of their block bind no names here. -/
def usingDeclaration (g : Grammar) : Rule :=
  untyped (node .otherStatement
    (afterDeclarators (all [opt (word "await"), word "using", onSameLine,
      sepBy1 comma (declarator g)])))

def functionHead (g : Grammar) : Rule :=
  all [optionally (all [word "async", onSameLine]) (word "function"), opt (mark "*"),
    role .name identifier, callSignature g]

def functionDeclaration (g : Grammar) : Rule :=
  node .functionDeclaration (all [functionHead g,
    any [role .body (block g),
      typed (all [notAhead (mark "\x7b"), semicolon false])]])

def classDeclaration (g : Grammar) : Rule :=
  node .classDeclaration (all [many (decorator g), opt (typed (word "abstract")), word "class",
    role .name typeName, classRest g])

def interfaceDeclaration (g : Grammar) : Rule :=
  node .interfaceDeclaration (all [word "interface", role .name typeName,
    opt (typeParameters g), opt (all [word "extends", sepBy1 comma g.type]),
    role .body (node .interfaceBody (typeMembers g))])

def enumItem (g : Grammar) : Rule :=
  all [propertyName g, opt (initializer g)]

def enumDeclaration (g : Grammar) : Rule :=
  node .enumDeclaration (all [opt (word "const"), word "enum", role .name identifier,
    mark "\x7b", opt (all [sepBy1 comma (enumItem g), opt comma]), mark "\x7d"])

def typeAliasDeclaration (opening : String → Rule) (g : Grammar) : Rule :=
  node .typeAliasDeclaration (all [opening "type", role .name typeName,
    opt (typeParameters g), equalsMark, g.type, semicolon false])

def moduleDeclaration (opening : String → Rule) (g : Grammar) : Rule :=
  node .moduleDeclaration (all [any [opening "module", opening "namespace"],
    role .name (any [string, group .member (sepBy1 (mark ".") identifier)]), opt (block g)])

def importAlias : Rule :=
  node .otherStatement (all [word "import", identifier, equalsMark,
    sepBy1 (mark ".") identifier, semicolon false])

/-- Declarations that only languages with types have. -/
def typedDeclaration (opening : String → Rule) (g : Grammar) : Rule :=
  typed (any [enumDeclaration g, interfaceDeclaration g, typeAliasDeclaration opening g,
    moduleDeclaration opening g, importAlias])

def declarationRule (opening : String → Rule) (g : Grammar) : Rule :=
  any [functionDeclaration g, classDeclaration g, lexicalDeclaration opening g,
    variableDeclaration g, typedDeclaration opening g, usingDeclaration g]

def ambientDeclaration (opening : String → Rule) (g : Grammar) : Rule :=
  typed (node .ambientDeclaration (all [opening "declare",
    any [
      declarationRule word g,
      all [word "global", block g],
      all [word "module", mark ".", anyName, mark ":", g.type, semicolon false]]]))

def declaration (opening : String → Rule) (g : Grammar) : Rule :=
  any [declarationRule opening g, ambientDeclaration opening g]

/-! ## Imports -/

def exportedName : Rule :=
  any [identifier, string, anyName]

def origin : Rule :=
  all [word "from", role .source string]

def typeOnly (rule : Rule) : Rule :=
  any [typed (all [words ["type", "typeof"], rule]), rule]

/-- A place where an item of a list in braces ends. -/
def itemEnd : Rule :=
  ahead (any [comma, mark "\x7d"])

def importSpecifier : Rule :=
  node .importSpecifier (typeOnly (any [
    all [role .name exportedName, word "as", role .newName identifier, itemEnd],
    all [role .name identifier, itemEnd]]))

def namedImports : Rule :=
  node .namedImports (listed "\x7b" importSpecifier "\x7d")

def namespaceImport : Rule :=
  node .namespaceImport (all [mark "*", word "as", identifier])

def importClause : Rule :=
  node .importClause (any [
    namespaceImport,
    namedImports,
    all [identifier, opt (all [comma, any [namespaceImport, namedImports]])]])

def importRequireClause : Rule :=
  typed (node .importRequireClause (all [identifier, equalsMark, word "require", mark "(",
    role .source string, mark ")"]))

def importStatement (g : Grammar) : Rule :=
  node .importStatement (all [word "import",
    typeOnly (any [all [importClause, origin], importRequireClause, role .source string]),
    opt (all [words ["with", "assert"], object g]), semicolon false])

/-! ## Exports -/

def exportSpecifier : Rule :=
  node .exportSpecifier (typeOnly
    (any [
      all [role .name exportedName, word "as", role .newName exportedName, itemEnd],
      all [role .name exportedName, itemEnd]]))

def exportClause : Rule :=
  node .exportClause (listed "\x7b" exportSpecifier "\x7d")

def namespaceExport : Rule :=
  node .namespaceExport (all [mark "*", word "as", exportedName])

def exportStatement (g : Grammar) : Rule :=
  let close := semicolon false
  node .exportStatement (any [
    all [word "export", namespaceExport, origin, close],
    all [word "export", mark "*", origin, close],
    all [word "export", optionally (typed (word "type")) exportClause, opt origin, close],
    typed (all [word "export", importAlias]),
    typed (all [word "export", equalsMark, g.expression, semicolon true]),
    typed (all [word "export", word "as", word "namespace", identifier, close]),
    all [many (decorator g), word "export",
      any [
        all [word "default",
          any [role .declaration (declaration openingWord g),
            all [g.expression, semicolon true]]],
        role .declaration (declaration word g)]]])

/-! ## Other statements -/

def condition (g : Grammar) : Rule :=
  all [mark "(", expressions g, mark ")"]

def ifStatement (g : Grammar) : Rule :=
  all [word "if", condition g, g.statement, opt (all [word "else", g.statement])]

def eachHead (g : Grammar) : Rule :=
  all [
    any [
      all [word "var", any [destructuring g, identifier], opt (initializer g)],
      all [words ["let", "const"], any [destructuring g, identifier]],
      untyped (all [optionally (word "await") (word "using"), identifier]),
      any [destructuring g, place g, all [mark "(", expressions g, mark ")"]]],
    words ["in", "of"], expressions g]

def countHead (g : Grammar) : Rule :=
  let clause := any [all [expressions g, mark ";"], mark ";"]
  all [any [lexicalDeclaration word g, variableDeclaration g, clause], clause, opt (expressions g)]

def forStatement (g : Grammar) : Rule :=
  all [word "for",
    any [
      all [opt (word "await"), mark "(", eachHead g, mark ")"],
      all [mark "(", countHead g, mark ")"]],
    g.statement]

def whileStatement (g : Grammar) : Rule :=
  all [word "while", condition g, g.statement]

def doStatement (g : Grammar) : Rule :=
  all [word "do", g.statement, word "while", condition g, opt (mark ";")]

def switchCase (g : Grammar) : Rule :=
  all [any [all [word "case", expressions g], word "default"], mark ":", many g.statement]

def switchStatement (g : Grammar) : Rule :=
  all [word "switch", condition g, mark "\x7b", many (switchCase g), mark "\x7d"]

def tryStatement (g : Grammar) : Rule :=
  all [word "try", block g,
    opt (all [word "catch",
      opt (all [mark "(", any [destructuring g, identifier], opt (typed (typeMark g)),
        mark ")"]),
      block g]),
    opt (all [word "finally", block g])]

def jumpStatement : Rule :=
  all [words ["break", "continue"],
    any [semicolon false, all [token .word variableName?, semicolon false]]]

def returnStatement (g : Grammar) : Rule :=
  all [word "return", any [semicolon false, all [expressions g, semicolon true]]]

def labeledStatement (g : Grammar) : Rule :=
  all [token .word variableName?, mark ":", g.statement]

def otherStatement (g : Grammar) : Rule :=
  node .otherStatement (any [
    mark ";",
    ifStatement g,
    forStatement g,
    whileStatement g,
    doStatement g,
    switchStatement g,
    tryStatement g,
    returnStatement g,
    all [word "throw", expressions g, semicolon true],
    jumpStatement,
    all [word "debugger", semicolon false],
    all [word "with", condition g, g.statement],
    labeledStatement g])

/-- Without types a bare word `export` may be assigned to. -/
def exportAssignment (g : Grammar) : Rule :=
  untyped (node .assignment (all [role .left (word "export"), equalsMark, g.expression]))

def expressionStatement (g : Grammar) : Rule :=
  node .expressionStatement
    (all [any [exportAssignment g, expressions g], semicolon true])

/-- A block, unless an assignment follows that makes it a pattern. -/
def blockStatement (g : Grammar) : Rule :=
  all [block g, notAhead equalsMark]

def statementRule (g : Grammar) : Rule :=
  all [skipMarkupComments, any [
    blockStatement g,
    importStatement g,
    exportStatement g,
    otherStatement g,
    declaration openingWord g,
    expressionStatement g]]

end CommitLens.Script
