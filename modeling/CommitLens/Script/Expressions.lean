import CommitLens.Script.Members

/-!
# Expressions

An expression is a row of operands with operators between them.  Which operator
binds first does not show in a surface, so a row stays flat; an assignment is a
node of its own, because its target may be an export.
-/

namespace CommitLens.Script

open Rule

/-! ## Operators -/

/-- Operators and marks that may be mistaken for a shorter one, longest first. -/
def operatorTexts : List String :=
  [">>>=", "===", "!==", ">>>", "<<=", ">>=", "**=", "&&=", "||=", "??=", "=>", "==", "!=", "<=",
    ">=", "&&", "||", "??", "**", "<<", ">>", "+=", "-=", "*=", "/=", "%=", "&=", "|=", "^=", "++",
    "--", "+", "-", "*", "/", "%", "&", "|", "^", "<", ">", "=", "!", "~"]

def binaryOperators : List String :=
  ["===", "!==", ">>>", "==", "!=", "<=", ">=", "&&", "||", "??", "**", "<<", ">>", "+", "-", "*",
    "/", "%", "&", "|", "^", "<", ">"]

def augmentedAssignments : List String :=
  [">>>=", "<<=", ">>=", "**=", "&&=", "||=", "??=", "+=", "-=", "*=", "/=", "%=", "&=", "|=", "^="]

/-- The longest operator at the cursor, if it is one of the given ones. -/
def operator (choices : List String) : Rule :=
  token .mark fun src i => do
    let text ← operatorTexts.find? fun text => src.has i text
    if choices.contains text then return i + text.length else none

def binaryOperator : Rule :=
  any [operator binaryOperators, words ["in", "instanceof"]]

/-- The mark of a conditional expression, not one of an optional access. -/
def choiceMark : Rule :=
  token .mark fun src i =>
    let next := src.char (i + 1)
    if src.char i == '?' && next != '?' && (next != '.' || (src.char (i + 2)).isDigit) then
      some (i + 1)
    else none

/-- Step over a line comment in the style of markup. -/
def skipMarkupComments : Rule := fun src c =>
  some ([], go src (src.left c.here) c)
where
  go (src : Source) : Nat → Cursor → Cursor
    | 0, c => c
    | fuel + 1, c =>
        match markupComment? src c.here with
        | some stop => go src fuel ⟨c.past, skipGap src stop⟩
        | none => c

/-! ## Parts of a chain -/

def spread (g : Grammar) : Rule :=
  node .otherExpression (all [mark "...", g.expression])

def expressions (g : Grammar) : Rule :=
  group .otherExpression (sepBy1 comma g.expression)

def template (g : Grammar) : Rule :=
  templateRule (expressions g)

def arguments (g : Grammar) : Rule :=
  node .otherExpression (listedWithHoles "(" (any [spread g, g.expression]) ")")

def subscript (g : Grammar) : Rule :=
  all [mark "[", expressions g, mark "]"]

def memberName : Rule :=
  any [anyName, privateName]

def optionalMark : Rule :=
  token .mark fun src i =>
    if src.has i "?." && !(src.char (i + 2)).isDigit then some (i + 2) else none

/-- Type arguments of a value stand before a call, or where no operand can
follow them. -/
def valueTypeArguments (g : Grammar) : Rule :=
  typed (all [typeArguments g,
    any [arguments g, template g,
      guard fun src c =>
        src.isEnd c.here || c.breaksLine src || ")],;:\x7d.".toList.contains (src.char c.here)]])

/-- What may follow a value without a call. -/
def accessTails (g : Grammar) : List (Kind × Rule) :=
  [(.member, all [mark ".", memberName]),
    (.member, subscript g),
    (.otherExpression, template g),
    (.member, typed (all [onSameLine, markNot "!" "="]))]

def callTails (g : Grammar) : List (Kind × Rule) :=
  [(.member, all [optionalMark, any [memberName, subscript g]]),
    (.otherExpression, all [optionalMark, opt (typed (typeArguments g)),
      any [arguments g, template g]]),
    (.otherExpression, arguments g),
    (.otherExpression, valueTypeArguments g)]

/-! ## Operands -/

/-- A parenthesised expression, or a function whose parameters the parentheses
hold.  Where a colon may belong to a conditional expression around it, the
function does not tell what it returns. -/
def parenthesized (g : Grammar) (inChoice : Bool) : Rule := fun src c =>
  let grouped := node .parenthesized (all [mark "(", expressions g, mark ")"])
  let returns := if inChoice then nothing else opt (typed (returnMark g))
  let function := node .otherExpression
    (all [parameters g, returns, mark "=>", arrowBody g])
  match grouped src c with
  | none => function src c
  | some (trees, next) =>
      if src.has next.here "=>" || (src.dialect.hasTypes && src.char next.here == ':') then
        (function src c).orElse fun _ => some (trees, next)
      else some (trees, next)

def genericFunction (g : Grammar) : Rule :=
  typed (node .otherExpression
    (all [typeParameters g, parameters g, opt (returnMark g), mark "=>", arrowBody g]))

def nameFunction (g : Grammar) : Rule :=
  node .otherExpression (all [identifier, mark "=>", arrowBody g])

def asyncFunction (g : Grammar) : Rule :=
  node .otherExpression (all [word "async",
    any [
      all [identifier, mark "=>", arrowBody g],
      all [callSignature g, mark "=>", arrowBody g]]])

def creation (g : Grammar) : Rule :=
  node .otherExpression (all [word "new",
    any [
      all [mark ".", word "target"],
      all [extend g.primary (accessTails g), opt (typed (typeArguments g)), opt (arguments g)]]])

def importValue : Rule :=
  node .word (all [word "import",
    any [all [mark ".", word "meta"], ahead (mark "(")]])

def objectMember (g : Grammar) : Rule :=
  any [
    spread g,
    methodDefinition g,
    node .otherMember (all [propertyName g, mark ":", g.expression]),
    token .word variableName?]

def object (g : Grammar) : Rule :=
  node .object (listedWithHoles "\x7b" (objectMember g) "\x7d")

def array (g : Grammar) : Rule :=
  node .array (listedWithHoles "[" (any [spread g, g.expression]) "]")

/-- A private name that is looked for in a value. -/
def privateProbe : Rule :=
  all [privateName, ahead (word "in")]

def namespaceBlock (g : Grammar) : Rule :=
  typed (node .moduleDeclaration (all [words ["namespace", "module"], onSameLine,
    role .name (any [string, group .member (sepBy1 (mark ".") identifier)]), block g]))

def primaryRule (g : Grammar) (inChoice : Bool) : Rule :=
  any [
    nameFunction g,
    asyncFunction g,
    functionExpression g,
    namespaceBlock g,
    identifier,
    parenthesized g inChoice,
    genericFunction g,
    token .word string?,
    number,
    template g,
    array g,
    object g,
    creation g,
    classExpression g,
    importValue,
    token .word regex?,
    all [guard fun src _ => src.dialect.hasMarkup, g.element],
    privateProbe,
    node .word (words ["this", "super", "null", "true", "false"])]

def chainRule (g : Grammar) (inChoice : Bool) : Rule :=
  extend (primaryRule g inChoice) (accessTails g ++ callTails g)

def leftOperator (g : Grammar) : Rule :=
  any [
    operator ["!", "~", "++", "--", "+", "-"],
    words ["typeof", "void", "delete"],
    all [word "await", guard fun src c =>
      !src.isEnd c.here && !",;:.=)]\x7d?".toList.contains (src.char c.here)],
    typed (all [guard fun src _ => !src.dialect.hasMarkup, typeArguments g])]

def yielded (g : Grammar) : Rule :=
  node .otherExpression (all [word "yield", opt (any [all [mark "*", g.expression], g.expression])])

def destructuringAssignment (g : Grammar) : Rule :=
  node .assignment (all [role .left (destructuring g), equalsMark, g.expression])

/-- A chain, or an assignment to it. -/
def assigned (g : Grammar) (inChoice : Bool) : Rule := fun src c =>
  match chainRule g inChoice src c with
  | none => destructuringAssignment g src c
  | some (trees, next) =>
      let kind := (trees.head?.map Tree.kind).getD .broken
      let under (kind : Kind) (trees : List Tree) (rest : Rule) : Option (List Tree × Cursor) :=
        (rest src next).map fun (more, last) =>
          ([.node kind .plain c.here last.past (trees ++ more)], last)
      let found :=
        if kind == .identifier || kind == .member || kind == .parenthesized then
          (under .assignment (trees.map (Tree.withRole .left))
              (all [equalsMark, g.expression])).orElse fun _ =>
            (under .otherExpression trees
              (all [operator augmentedAssignments, g.expression])).orElse fun _ =>
              under .otherExpression trees (all [onSameLine, operator ["++", "--"]])
        else if kind == .object || kind == .array then
          if (equalsMark src next).isSome then destructuringAssignment g src c else none
        else none
      found.orElse fun _ => some (trees, next)

def operand (g : Grammar) (inChoice : Bool) : Rule :=
  group .otherExpression
    (all [skipMarkupComments, many (leftOperator g), any [yielded g, assigned g inChoice]])

/-! ## Rows of operands -/

def typeTail (g : Grammar) : Rule :=
  typed (all [words ["as", "satisfies"], g.type])

def binaryRow (g : Grammar) (inChoice : Bool) : Rule :=
  all [operand g inChoice,
    many (any [all [binaryOperator, operand g inChoice], typeTail g])]

def choiceTail (g : Grammar) : Rule :=
  all [choiceMark,
    any [all [g.expression, mark ":"],
      all [group .otherExpression (binaryRow g true), mark ":"]],
    g.expression]

def expressionRule (g : Grammar) : Rule :=
  group .otherExpression (all [binaryRow g false, opt (choiceTail g)])

end CommitLens.Script
