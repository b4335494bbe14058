import CommitLens.Python.Expressions

/-!
# Reading match patterns

Nothing of a pattern shows in a surface, so patterns are only checked.
-/

namespace CommitLens.Python

open Parse

variable (g : Grammar)

def isImaginary (number : String) : Bool :=
  number.endsWith "j" || number.endsWith "J"

/-- A number, or a real number and an imaginary one. -/
def patternNumber : Parse Unit := do
  let _ ← accept "-"
  let first ← peek
  expectKind .number
  if (← acceptAny ["+", "-"]).isSome then
    if isImaginary first.text then reportLine first.line
    let second ← peek
    expectKind .number
    if !isImaginary second.text then reportLine second.line

def patternStrings : Parse Unit := do
  let _ ← strings g

def captureName : Parse Unit := do
  let name ← identifier
  if name == "_" then fail

/-- Patterns with commas between them, up to a closing mark. -/
def patternItems (item : Parse Unit) (closing : String) : Parse Unit := do
  if ← accept closing then return
  item
  let _ ← moreItems item
  expect closing

def starPattern : Parse Unit := do
  if ← accept "*" then
    let _ ← identifier
  else g.pattern

def dottedName : Parse Bool := do
  let _ ← identifier
  let rest ← many do
    if ← accept "." then return some (← identifier) else return none
  return !rest.isEmpty

def mappingKey : Parse Unit := do
  let token ← peek
  if token.kind == .string then patternStrings g
  else if token.kind == .number || token.text == "-" then patternNumber
  else if (← acceptAny ["None", "True", "False"]).isSome then return
  else if ← dottedName then return
  else fail

/-- Patterns in a row, where a rest alone needs a comma behind it. -/
def patternRow : Parse Unit := do
  let isRest ← at? "*"
  starPattern g
  let (_, isRow) ← moreItems (starPattern g)
  if isRest && !isRow then fail

/-- One more entry of a mapping; what takes the rest is the last one. -/
def mappingItem : Parse Bool := do
  if ← accept "**" then
    captureName
    return true
  else
    mappingKey g
    expect ":"
    g.pattern
    return false

/-- Items with commas between them, up to a closing mark.  Every item decides
what the next one may be. -/
def patternItemsFrom {α : Type} (start : α) (item : α → Parse α) (closing : String) :
    Parse Unit := do
  if ← accept closing then return
  let _ ← grow (← item start) fun state => do
    if ← accept "," then
      if ← at? closing then return none else return some (← item state)
    else return none
  expect closing

/-- One more argument of a class; after one with a name, all have names. -/
def classItem (isNamed : Bool) : Parse Bool := do
  let line := (← peek).line
  if ← keywordAhead then
    let _ ← identifier
    expect "="
    g.pattern
    return true
  else if isNamed then
    if ← isStrict then
      g.pattern
      reportLine line
    else fail
  else
    g.pattern
    return false

def closedPattern : Parse Unit := do
  let token ← peek
  if token.kind == .string then patternStrings g
  else if token.kind == .number || Token.isWord token "-" then patternNumber
  else if (← acceptAny ["None", "True", "False"]).isSome then return
  else if ← accept "(" then
    if ← accept ")" then return
    patternRow g
    expect ")"
  else if ← accept "[" then patternItems (starPattern g) "]"
  else if ← accept "\x7b" then
    patternItemsFrom false (fun isLast => if isLast then fail else mappingItem g) "\x7d"
  else
    let _ ← dottedName
    if ← accept "(" then patternItemsFrom false (classItem g) ")"

def patternRule : Parse Unit := do
  closedPattern g
  let _ ← many do
    if ← accept "|" then return some (← closedPattern g) else return none
  if ← accept "as" then captureName

end CommitLens.Python
