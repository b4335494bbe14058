import CommitLens.Python.Patterns

/-!
# Reading statements

A logical line may hold several simple statements; compound statements have
blocks.
-/

namespace CommitLens.Python

open Parse

/-- Expressions that nest deeper than this cannot be represented. -/
def nestingLimit : Nat := 2950

def checked (reader : Parse Expr) : Parse Expr := fun ctx place =>
  match reader ctx place with
  | .ok (e, place) => if nestingLimit < e.depth then .error .tooDeep else .ok (e, place)
  | .error stop => .error stop

variable (g : Grammar)

def expr : Parse Expr := checked g.expression

def row : Parse Expr := checked (starExpressions g)

def named : Parse Expr := checked (namedExpression g)

def yieldOrRow : Parse Expr := do
  if ← at? "yield" then checked (yieldExpression g) else row g

/-! ## Simple statements -/

def augmentedAssignments : List String :=
  ["+=", "-=", "*=", "@=", "/=", "%=", "&=", "|=", "^=", "<<=", ">>=", "**=", "//="]

/-- The targets and the value of an assignment whose first target is read. -/
def assignmentFrom (line : Nat) (first : Expr) : Parse Statement := do
  let parts ← grow [first] fun parts => do
    match parts with
    | [] => return none
    | last :: _ =>
        if !(← at? "=") then return none
        else if !last.isTarget then refuseAt line
        else
          expect "="
          return some ((← yieldOrRow g) :: parts)
  match parts with
  | value :: targets => return .assign targets.reverse value
  | [] => fail

def annotatedFrom (line : Nat) (target : Expr) : Parse Statement := do
  if !target.isSingleTarget && !(← isStrict) then fail
  expect ":"
  let mark ← expr g
  if !target.isSingleTarget then refuseAt line
  let value ← if ← accept "=" then some <$> yieldOrRow g else pure none
  return .annotate target mark value

def expressionStatement : Parse Statement := do
  let line := (← peek).line
  let first ← yieldOrRow g
  if ← at? "=" then assignmentFrom g line first
  else if ← at? ":" then annotatedFrom g line first
  else if (augmentedAssignments.any (Token.isWord (← peek))) then
    if !first.isSingleTarget then refuseAt line
    skip
    let _ ← yieldOrRow g
    return .other
  else return .other

def nameList : Parse Unit := do
  let _ ← identifier
  let _ ← many do
    if ← accept "," then return some (← identifier) else return none

def dotted : Parse String := do
  let first ← identifier
  let rest ← many do
    if ← accept "." then return some (← identifier) else return none
  return String.intercalate "." (first :: rest)

def importAlias (name : Parse String) : Parse Alias := do
  let name ← name
  if ← accept "as" then return ⟨name, some (← identifier)⟩
  else return ⟨name, none⟩

def importModules : Parse Statement := do
  let first ← importAlias dotted
  let rest ← many do
    if ← accept "," then return some (← importAlias dotted) else return none
  return .importModules (first :: rest)

/-- The dots in front of a module. -/
def importLevel : Parse Nat := do
  let dots ← many (acceptAny [".", "..."])
  return dots.foldl (fun level dot => level + dot.length) 0

def importFrom : Parse Statement := do
  let level ← importLevel
  let module ← if 0 < level && (← at? "import") then pure none else some <$> dotted
  expect "import"
  if ← accept "*" then return .importFrom level module [⟨"*", none⟩]
  else if ← accept "(" then
    let first ← importAlias identifier
    let (more, _) ← moreItems (importAlias identifier)
    expect ")"
    return .importFrom level module (first :: more)
  else
    let first ← importAlias identifier
    let rest ← many do
      if ← accept "," then return some (← importAlias identifier) else return none
    return .importFrom level module (first :: rest)

def deletion : Parse Statement := do
  let item := bitOr g
  let first ← item
  let (more, _) ← moreItems item
  if Expr.areDeletable (first :: more) then return .other else fail

def atLineEnd : Parse Bool := do
  return (← peek).kind == .newline || (← at? ";")

/-- A statement that begins with the keyword that was read. -/
def keywordStatement (keyword : String) : Parse Statement := do
  match keyword with
  | "return" => if !(← atLineEnd) then let _ ← row g
  | "raise" =>
      if !(← atLineEnd) then
        let _ ← expr g
        if ← accept "from" then let _ ← expr g
  | "global" | "nonlocal" => nameList
  | "del" => let _ ← deletion g
  | "assert" =>
      let _ ← expr g
      if ← accept "," then let _ ← expr g
  | _ => return .other
  return .other

def simpleStatement : Parse Statement := do
  match ← acceptAny ["return", "raise", "global", "nonlocal", "del", "assert", "pass", "break",
      "continue"] with
  | some keyword => keywordStatement g keyword
  | none =>
      if ← accept "import" then importModules
      else if ← accept "from" then importFrom
      else expressionStatement g

def simpleStatements : Parse (List Statement) := do
  let first ← simpleStatement g
  let rest ← many do
    if ← accept ";" then
      if (← peek).kind == .newline then return none
      else return some (← simpleStatement g)
    else return none
  expectKind .newline
  return first :: rest

/-! ## Compound statements -/

def statementsUntilDedent : Parse (List Statement) := do
  let first ← g.statement
  let rest ← many do
    if ← acceptKind .dedent then return none
    else return some (← g.statement)
  return first ++ rest.flatten

def block : Parse (List Statement) := do
  expect ":"
  if ← acceptKind .newline then
    expectKind .indent
    statementsUntilDedent g
  else simpleStatements g

def skipBlock : Parse Unit := do
  let _ ← block g

def elseBlock : Parse Unit := do
  if ← accept "else" then skipBlock g

def ifStatement : Parse Unit := do
  let _ ← named g
  skipBlock g
  let _ ← many do
    if ← accept "elif" then
      let _ ← named g
      return some (← skipBlock g)
    else return none
  elseBlock g

def forStatement : Parse Unit := do
  let _ ← checked (targetRow (bitOr g))
  expect "in"
  let _ ← row g
  skipBlock g
  elseBlock g

def withItem : Parse Unit := do
  let _ ← expr g
  let named ← optional do
    expect "as"
    let _ ← targetItem (bitOr g)
    if (← at? ",") || (← at? ")") || (← at? ":") then return else fail
  if named.isNone && (← at? "as") then fail

def withItems : Parse Unit := do
  withItem g
  let _ ← many do
    if ← accept "," then return some (← withItem g) else return none

def withStatement : Parse Unit := do
  orElse
    (do
      expect "("
      withItem g
      let _ ← moreItems (withItem g)
      expect ")"
      if ← at? ":" then return else fail)
    (withItems g)
  skipBlock g

/-- One handler; handlers of groups have a star and name what they handle. -/
def handler (isGroup : Bool) : Parse Unit := do
  if isGroup then expect "*"
  if isGroup || !(← at? ":") then
    let _ ← expr g
    if ← accept "as" then let _ ← identifier
  skipBlock g

def handlers : Parse Unit := do
  let isGroup ← at? "*"
  handler g isGroup
  let _ ← many do
    if ← accept "except" then return some (← handler g isGroup) else return none
  elseBlock g
  if ← accept "finally" then skipBlock g

def tryStatement : Parse Unit := do
  skipBlock g
  if ← accept "finally" then skipBlock g
  else if ← accept "except" then handlers g
  else if ← isStrict then report
  else fail

def parameterMark : Parse Unit := do
  if ← accept ":" then let _ ← expr g

def starMark : Parse Unit := do
  if ← accept ":" then
    if ← accept "*" then let _ ← bitOr g
    else let _ ← expr g

def functionDefinition : Parse Statement := do
  let name ← identifier
  expect "("
  let _ ← parameters g ")" (parameterMark g) (starMark g)
  expect ")"
  if ← accept "->" then let _ ← expr g
  skipBlock g
  return .functionDef name

def classDefinition : Parse Statement := do
  let name ← identifier
  let given ← if ← accept "(" then arguments g (bitOr g) false else pure {}
  return .classDef name given.values (← block g)

def decorators : Parse Unit := do
  let _ ← many do
    if ← accept "@" then
      let _ ← named g
      return some (← expectKind .newline)
    else return none

def definition : Parse Statement := do
  decorators g
  if ← accept "class" then classDefinition g
  else
    let _ ← accept "async"
    expect "def"
    functionDefinition g

def caseBlock : Parse Unit := do
  expect "case"
  patternRow g
  if ← accept "if" then let _ ← named g
  skipBlock g

def matchStatement : Parse Unit := do
  expect "match"
  let item := starOr (bitOr g) (namedExpression g)
  let _ ← item
  let _ ← moreItems item
  expect ":"
  expectKind .newline
  expectKind .indent
  caseBlock g
  let _ ← many do
    if ← acceptKind .dedent then return none
    else return some (← caseBlock g)

/-- A compound statement that begins with the keyword that was read. -/
def compoundRest (keyword : String) : Parse Unit := do
  match keyword with
  | "if" => ifStatement g
  | "while" =>
      let _ ← named g
      skipBlock g
      elseBlock g
  | "for" => forStatement g
  | "with" => withStatement g
  | "try" => tryStatement g
  | _ => fail

def statementRule : Parse (List Statement) := do
  match ← acceptAny ["if", "while", "for", "with", "try"] with
  | some keyword =>
      compoundRest g keyword
      return [.other]
  | none =>
      let token ← peek
      if ["def", "class", "@"].any (Token.isWord token) then return [← definition g]
      else if Token.isWord token "async" then
        if Token.isWord (← peekAt 1) "def" then return [← definition g]
        else
          skip
          match ← acceptAny ["for", "with"] with
          | some keyword =>
              compoundRest g keyword
              return [.other]
          | none => fail
      else if Token.isWord token "match" then
        orElse (andThen (matchStatement g) fun _ => pure [.other]) (simpleStatements g)
      else simpleStatements g

end CommitLens.Python
