import CommitLens.Python.Parse

/-!
# Reading expressions

One reader for each level of precedence, from the loosest to the tightest.
-/

namespace CommitLens.Python

open Parse

/-! ## Targets -/

namespace Expr

mutual

/-- May a value be assigned to the expression? -/
def isTarget : Expr → Bool
  | name _ | member _ _ | subscript _ _ => true
  | tuple items | list items => areTargets items
  | starred e =>
      match e with
      | starred _ => false
      | e => isTarget e
  | _ => false

def areTargets : List Expr → Bool
  | [] => true
  | e :: rest => isTarget e && areTargets rest

end

/-- A target of its own, neither a sequence nor a rest. -/
def isSingleTarget : Expr → Bool
  | name _ | member _ _ | subscript _ _ => true
  | _ => false

mutual

def isDeletable : Expr → Bool
  | name _ | member _ _ | subscript _ _ => true
  | tuple items | list items => areDeletable items
  | _ => false

def areDeletable : List Expr → Bool
  | [] => true
  | e :: rest => isDeletable e && areDeletable rest

end

end Expr

/-- One expression, or a tuple of several. -/
def rowOf (first : Expr) (more : List Expr) (isRow : Bool) : Expr :=
  if isRow then .tuple (first :: more) else first

variable (g : Grammar)

/-! ## Operators -/

def leftChain (operators : List String) (next : Parse Expr) : Parse Expr := do
  let first ← next
  grow first fun left => do
    match ← acceptAny operators with
    | none => return none
    | some op =>
        let right ← next
        return some (.binary op left right)

def awaited (primary : Parse Expr) : Parse Expr := do
  if ← accept "await" then
    return .await (← primary)
  else primary

def power (primary : Parse Expr) : Parse Expr := do
  let base ← awaited primary
  if ← accept "**" then
    return .binary "**" base (← g.factor)
  else return base

/-- Signs before a power; they are read in a row. -/
def factorOf (primary : Parse Expr) : Parse Expr := do
  let signs ← many (acceptAny ["+", "-", "~"])
  let base ← power g primary
  return signs.foldr (fun sign e => .unary sign e) base

def bitOrOf (primary : Parse Expr) : Parse Expr :=
  leftChain ["|"] <| leftChain ["^"] <| leftChain ["&"] <| leftChain ["<<", ">>"] <|
    leftChain ["+", "-"] <| leftChain ["*", "/", "//", "%", "@"] <| factorOf g primary

def comparisonOperator : Parse (Option String) := do
  match ← acceptAny ["==", "!=", "<=", "<", ">=", ">", "in"] with
  | some op => return some op
  | none =>
      if ← accept "is" then
        return some (if ← accept "not" then "is not" else "is")
      else optional do
        expect "not"
        expect "in"
        return "not in"

def comparisonOf (bitOr : Parse Expr) : Parse Expr := do
  let first ← bitOr
  let rest ← many do
    match ← comparisonOperator with
    | none => return none
    | some op => return some (op, ← bitOr)
  return if rest.isEmpty then first else .compare first rest

def inversionOf (comparison : Parse Expr) : Parse Expr := do
  let negations ← many (acceptAny ["not"])
  let base ← comparison
  return negations.foldl (fun e _ => .unary "not" e) base

def booleanChain (op : String) (next : Parse Expr) : Parse Expr := do
  let first ← next
  let rest ← many do
    if ← accept op then return some (← next) else return none
  return if rest.isEmpty then first else .boolean op (first :: rest)

def disjunctionOf (bitOr : Parse Expr) : Parse Expr :=
  booleanChain "or" (booleanChain "and" (inversionOf (comparisonOf bitOr)))

/-! ## Comprehensions and lists of expressions -/

/-- Does a name follow that is bound within an expression? -/
def bindingAhead : Parse Bool := do
  if Token.isIdentifier (← peek) then return Token.isWord (← peekAt 1) ":="
  else return false

/-- A name bound within an expression, or an expression. -/
def namedExpression : Parse Expr := do
  if ← bindingAhead then
    let target ← identifier
    expect ":="
    return .assigned (.name target) (← g.expression)
  let e ← g.expression
  if ← at? ":=" then fail else return e

def starOr (bitOr other : Parse Expr) : Parse Expr := do
  if ← accept "*" then
    return .starred (← bitOr)
  else other

/-- Expressions with commas between them, stars allowed. -/
def starRow (bitOr : Parse Expr) : Parse Expr := do
  let item := starOr bitOr g.expression
  let first ← item
  let (more, isRow) ← moreItems item
  return rowOf first more isRow

/-- Refuse an expression where it stands; a strict reader tells the line on
which it starts. -/
def refuseAt {α : Type} (line : Nat) : Parse α := do
  if ← isStrict then reportLine line else fail

def targetItem (bitOr : Parse Expr) : Parse Expr := do
  let line := (← peek).line
  let target ← starOr bitOr bitOr
  if target.isTarget then return target else refuseAt line

/-- Targets with commas between them. -/
def targetRow (bitOr : Parse Expr) : Parse Expr := do
  let first ← targetItem bitOr
  let (more, isRow) ← moreItems (targetItem bitOr)
  return rowOf first more isRow

def startsClause : Parse Bool := do
  if ← at? "for" then return true
  else if ← at? "async" then return Token.isWord (← peekAt 1) "for"
  else return false

def clause (bitOr : Parse Expr) : Parse (Bool × Expr × Expr × List Expr) := do
  let isAsync ← accept "async"
  expect "for"
  let target ← targetRow bitOr
  expect "in"
  let source ← disjunctionOf bitOr
  let conditions ← many do
    if ← accept "if" then return some (← disjunctionOf bitOr) else return none
  return (isAsync, target, source, conditions)

def clauses (bitOr : Parse Expr) : Parse (List (Bool × Expr × Expr × List Expr)) := do
  let first ← clause bitOr
  let rest ← many do
    if ← startsClause then return some (← clause bitOr) else return none
  return first :: rest

/-! ## Calls and subscripts -/

/-- What the arguments so far allow: after keywords no positional ones, after
a mapping spread out no sequence spread out. -/
structure Arguments where
  values : List Expr := []
  keywords : List (Option String × Expr) := []
  hasMapping : Bool := false
  /-- A positional argument came after a keyword. -/
  isMixed : Bool := false

def keywordAhead : Parse Bool := do
  if Token.isIdentifier (← peek) then return Token.isWord (← peekAt 1) "="
  else return false

/-- One more argument; the line is that of the first one.  In a call, a single
argument may be a comprehension. -/
def argument (bitOr : Parse Expr) (isCall : Bool) (line : Nat) (given : Arguments) :
    Parse Arguments := do
  if ← at? "*" then
    if given.hasMapping then
      if ← isStrict then reportLine line else fail
    else
      skip
      return { given with values := given.values ++ [.starred (← g.expression)] }
  else if ← accept "**" then
    let e ← g.expression
    return { given with keywords := given.keywords ++ [(none, e)], hasMapping := true }
  else if ← keywordAhead then
    let name ← identifier
    expect "="
    let e ← g.expression
    return { given with keywords := given.keywords ++ [(some name, e)] }
  else if !given.keywords.isEmpty && !(← isStrict) then fail
  else
    let own := (← peek).line
    let e ← namedExpression g
    if ← at? "=" then refuseAt own
    else if isCall && given.values.isEmpty && (← startsClause) then
      let clauses ← clauses bitOr
      if ← at? ")" then
        return { given with values := [.comprehension .round e none clauses] }
      else fail
    else return { given with
      values := given.values ++ [e], isMixed := given.isMixed || !given.keywords.isEmpty }

/-- Arguments up to the closing parenthesis. -/
def arguments (bitOr : Parse Expr) (isCall : Bool) : Parse Arguments := do
  if ← accept ")" then return {}
  let line := (← peek).line
  let first ← argument g bitOr isCall line {}
  let all ← grow first fun given => do
    if ← accept "," then
      if ← at? ")" then return none
      else return some (← argument g bitOr isCall line given)
    else return none
  if all.isMixed then report
  expect ")"
  return all

def sliceEnd : Parse (Option Expr) := do
  if (← at? ":") || (← at? "]") || (← at? ",") then return none
  else return some (← g.expression)

def sliceItem : Parse Expr := do
  if ← accept "*" then
    return .starred (← g.expression)
  if ← bindingAhead then namedExpression g
  else
    let first ← if ← at? ":" then pure none else some <$> namedExpression g
    if ← accept ":" then
      let last ← sliceEnd g
      let step ← if ← accept ":" then sliceEnd g else pure none
      return .slice first last step
    else match first with
      | some e => return e
      | none => fail

def subscriptIndex : Parse Expr := do
  let first ← sliceItem g
  let (more, isRow) ← moreItems (sliceItem g)
  expect "]"
  match first, isRow with
  | .starred _, false => return .tuple [first]
  | _, _ => return rowOf first more isRow

/-! ## Strings -/

/-- Cut off a literal part and decode it. -/
def decodedPart (isRaw inFormat : Bool) (cs : List Char) : Parse (String × List Char) := do
  match literalPart isRaw inFormat false cs with
  | none => report
  | some (text, rest) =>
      match decodeText isRaw text with
      | none => report
      | some decoded => return (decoded, rest)

def conversion (cs : List Char) : Parse (Option Char × List Char) := do
  match cs with
  | '!' :: c :: rest => if "sra".toList.contains c then return (some c, rest) else report
  | '!' :: [] => report
  | _ => return (none, cs)

/-- Drop the mark that asks for the source of a value, with blanks after it. -/
def dropEquals (cs : List Char) : List Char :=
  match cs with
  | '=' :: rest => rest.dropWhile fun c => c == ' ' || (9 ≤ c.toNat && c.toNat ≤ 13)
  | _ => cs

/-- Formatted strings nest in their formats once. -/
def formatDepth : Nat := 2

mutual

/-- The parts of a formatted string, up to its end or the brace that closes
the format. -/
def formattedParts (isRaw : Bool) (line : Nat) : Nat → Nat → List Char →
    Parse (List Expr × List Char)
  | 0, _, _ => report
  | _ + 1, 0, _ => report
  | fuel + 1, depth + 1, cs => do
      let (text, rest) ← decodedPart isRaw (depth + 1 < formatDepth) cs
      let literal : List Expr := if text.isEmpty then [] else [.constant (.text text)]
      match rest with
      | '\x7b' :: source =>
          let consumed := cs.take (cs.length - source.length)
          let (value, after) ←
            formattedValue isRaw (line + consumed.count '\n') fuel depth source
          let used := source.take (source.length - after.length)
          let (more, last) ←
            formattedParts isRaw (line + consumed.count '\n' + used.count '\n') fuel (depth + 1)
              after
          return (literal ++ value :: more, last)
      | _ => return (literal, rest)

def formattedValue (isRaw : Bool) (line : Nat) : Nat → Nat → List Char →
    Parse (Expr × List Char)
  | 0, _, _ => report
  | fuel + 1, depth, cs => do
      match valuePart {} cs with
      | none => report
      | some (source, rest) =>
          if source.all fun c => " \t\n\x0c".toList.contains c then report
          let e ← within (lexFrom line (['('] ++ source ++ [')'])) g.value
          let (conversion, rest) ← conversion (dropEquals rest)
          match rest with
          | ':' :: format =>
              let (parts, after) ← formattedParts isRaw line fuel depth format
              match after with
              | '\x7d' :: last =>
                  return (.formattedValue e conversion (some (.formatted parts)), last)
              | _ => report
          | '\x7d' :: last => return (.formattedValue e conversion none, last)
          | _ => report

end

/-- The parts of one string token. -/
def stringParts (token : Token) : Parse (List Expr) := do
  let literal := Literal.ofToken token.text
  if literal.isBytes then
    match decodeBytes literal.isRaw literal.body with
    | some values => return [.constant (.bytes values)]
    | none => report
  else if literal.isFormatted then
    let fuel := 2 * literal.body.length + 2
    let (parts, rest) ← formattedParts g literal.isRaw token.line fuel formatDepth literal.body
    if rest.isEmpty then return [.formatted parts] else report
  else match decodeText literal.isRaw literal.body with
    | some text => return [.constant (.text text)]
    | none => report

/-- Strings that stand side by side are one string. -/
def joinStrings (parts : List Expr) : Option Expr :=
  let isBytes (e : Expr) : Bool :=
    match e with
    | .constant (.bytes _) => true
    | _ => false
  let isFormatted (e : Expr) : Bool :=
    match e with
    | .formatted _ => true
    | _ => false
  if parts.any isBytes then
    if parts.all isBytes then
      some (.constant (.bytes (parts.flatMap fun e =>
        match e with
        | .constant (.bytes values) => values
        | _ => [])))
    else none
  else if parts.any isFormatted then
    some (.formatted (parts.flatMap fun e =>
      match e with
      | .formatted parts => parts
      | e => [e]))
  else
    some (.constant (.text (String.join (parts.map fun e =>
      match e with
      | .constant (.text text) => text
      | _ => ""))))

def strings : Parse Expr := do
  let tokens ← many do
    let token ← peek
    if token.kind == .string then
      skip
      return some token
    else return none
  let parts ← tokens.foldlM (fun done token => return done ++ (← stringParts g token)) []
  match joinStrings parts with
  | some e => return e
  | none => report

/-! ## Atoms -/

/-- After an opening parenthesis. -/
def parenthesized (bitOr : Parse Expr) : Parse Expr := do
  if ← accept ")" then return .tuple []
  if ← accept "yield" then
    let e ← if ← accept "from" then Expr.yieldFrom <$> g.expression
      else Expr.yield <$> optional (starRow g bitOr)
    expect ")"
    return e
  let isStarred ← at? "*"
  let item := starOr bitOr (namedExpression g)
  let first ← item
  if !isStarred && (← startsClause) then
    let clauses ← clauses bitOr
    expect ")"
    return .comprehension .round first none clauses
  let (more, isRow) ← moreItems item
  expect ")"
  if isStarred && !isRow then fail else return rowOf first more isRow

/-- After an opening square bracket. -/
def bracketed (bitOr : Parse Expr) : Parse Expr := do
  if ← accept "]" then return .list []
  let isStarred ← at? "*"
  let item := starOr bitOr (namedExpression g)
  let first ← item
  if !isStarred && (← startsClause) then
    let clauses ← clauses bitOr
    expect "]"
    return .comprehension .square first none clauses
  let (more, _) ← moreItems item
  expect "]"
  return .list (first :: more)

/-- The value of a key.  A strict reader tells the line of the colon before a value
that is missing. -/
def dictValue (colonLine : Nat) : Parse Expr := do
  if (← isStrict) && ((← at? "\x7d") || (← at? ",")) then reportLine colonLine
  else g.expression

def dictItem (bitOr : Parse Expr) : Parse (Option Expr × Expr) := do
  if ← accept "**" then return (none, ← bitOr)
  let line := (← peek).line
  let key ← g.expression
  let colonLine := (← peek).line
  if ← accept ":" then return (some key, ← dictValue g colonLine)
  else refuseAt line

def dictFrom (bitOr : Parse Expr) (first : Option Expr × Expr) : Parse Expr := do
  let (more, _) ← moreItems (dictItem g bitOr)
  expect "\x7d"
  return .dict (first :: more)

/-- After an opening brace. -/
def braced (bitOr : Parse Expr) : Parse Expr := do
  if ← accept "\x7d" then return .dict []
  if ← at? "**" then
    dictFrom g bitOr (← dictItem g bitOr)
  else
    let isStarred ← at? "*"
    let isBinding ← bindingAhead
    let item := starOr bitOr (namedExpression g)
    let first ← item
    let colonLine := (← peek).line
    if !isStarred && !isBinding && (← accept ":") then
      let value ← dictValue g colonLine
      if ← startsClause then
        let clauses ← clauses bitOr
        expect "\x7d"
        return .comprehension .curly first (some value) clauses
      else dictFrom g bitOr (some first, value)
    else if !isStarred && (← startsClause) then
      let clauses ← clauses bitOr
      expect "\x7d"
      return .comprehension .curly first none clauses
    else
      let (more, _) ← moreItems item
      expect "\x7d"
      return .set (first :: more)

def wordConstant? (text : String) : Option Constant :=
  match text with
  | "None" => some .none
  | "True" => some (.bool true)
  | "False" => some (.bool false)
  | "..." => some .ellipsis
  | _ => none

/-- Whole decimal numbers have a limit on their digits. -/
def digitLimit : Nat := 4300

def isTooLong (literal : String) : Bool :=
  let digits := literal.toList.filter (· != '_')
  digits.all Char.isDigit && digitLimit < digits.length

def atom (bitOr : Parse Expr) : Parse Expr := do
  let token ← peek
  match token.kind with
  | .string => strings g
  | .number =>
      if isTooLong token.text then reportLine token.line
      else
        skip
        return .constant (.number token.text)
  | .name | .mark =>
      match wordConstant? token.text with
      | some constant =>
          skip
          return .constant constant
      | none =>
          if ← accept "(" then parenthesized g bitOr
          else if ← accept "[" then bracketed g bitOr
          else if ← accept "\x7b" then braced g bitOr
          else return .name (← identifier)
  | _ => fail

def primary (bitOr : Parse Expr) : Parse Expr := do
  let first ← atom g bitOr
  grow first fun e => do
    if ← accept "." then return some (.member e (← identifier))
    else if ← accept "(" then
      let given ← arguments g bitOr true
      return some (.call e given.values given.keywords)
    else if ← accept "[" then return some (.subscript e (← subscriptIndex g))
    else return none

/-! ## Expressions -/

/-- Operands that are joined by anything but comparisons.  The rule refers to
itself through the brackets of its operands. -/
def bitOrUpTo : Nat → Parse Expr
  | 0 => fail
  | fuel + 1 => fun ctx place => bitOrOf g (primary g (bitOrUpTo fuel)) ctx place

def bitOr : Parse Expr := do
  bitOrUpTo g (← stepLimit)

def disjunction : Parse Expr :=
  disjunctionOf (bitOr g)

def factorRule : Parse Expr :=
  factorOf g (primary g (bitOr g))

/-- What may stand between the names of parameters. -/
structure ParameterState where
  done : List (String × Option Expr) := []
  hasDefault : Bool := false
  hasSlash : Bool := false
  hasStar : Bool := false
  /-- A bare star still needs a parameter. -/
  starIsBare : Bool := false
  hasMapping : Bool := false

/-- One parameter; the mark after its name is read by `after`. -/
def parameter (after : Parse Unit) (starAfter : Parse Unit) (state : ParameterState) :
    Parse ParameterState := do
  if state.hasMapping then fail
  else if ← at? "/" then
    if state.hasSlash || state.hasStar || state.done.isEmpty then fail
    else
      skip
      return { state with hasSlash := true, done := state.done ++ [("/", none)] }
  else if ← at? "**" then
    if state.starIsBare then fail
    else
      skip
      let name ← identifier
      after
      return { state with hasMapping := true, done := state.done ++ [("**" ++ name, none)] }
  else if ← at? "*" then
    if state.hasStar then fail
    else
      skip
      if ← at? "," then
        return { state with hasStar := true, starIsBare := true, done := state.done ++ [("*", none)] }
      else
        let name ← identifier
        starAfter
        return { state with hasStar := true, done := state.done ++ [("*" ++ name, none)] }
  else
    let name ← identifier
    after
    let equalsLine := (← peek).line
    if ← accept "=" then
      if (← isStrict) && ((← at? ")") || (← at? ",")) then reportLine equalsLine
      let value ← g.expression
      return { state with
        hasDefault := true, starIsBare := false, done := state.done ++ [(name, some value)] }
    else if state.hasDefault && !state.hasStar then fail
    else return { state with starIsBare := false, done := state.done ++ [(name, none)] }

/-- Parameters up to a closing mark, which is not read. -/
def parameters (closing : String) (after starAfter : Parse Unit) :
    Parse (List (String × Option Expr)) := do
  if ← at? closing then return []
  let first ← parameter g after starAfter {}
  let last ← grow first fun state => do
    if ← at? closing then return none
    expect ","
    if ← at? closing then return none
    return some (← parameter g after starAfter state)
  if last.starIsBare then fail else return last.done

def lambda : Parse Expr := do
  expect "lambda"
  let given ← parameters g ":" (pure ()) (pure ())
  expect ":"
  return .lambda given (← g.expression)

/-- Words that may open an expression that is no mistake. -/
def isSoftStart (first second : Token) : Bool :=
  first.kind == .name && (["match", "case", "_"].contains first.text || second.kind == .string)

def isOldStatement (e : Expr) : Bool :=
  match e with
  | .name id => id == "print" || id == "exec"
  | _ => false

/-- In brackets, an expression at once after an expression lacks a comma. -/
def checkComma (line : Nat) : Parse Unit := do
  let found ← ahead (optional (lenient (andThen g.expression fun _ => depthBefore)))
  match found with
  | some (_ + 1) => reportLine line
  | _ => return

def expressionRule : Parse Expr := do
  if ← at? "lambda" then lambda g
  else
    let strict ← isStrict
    let token ← peek
    let isSoft := strict &&
      isSoftStart token (← if strict && token.kind == .name then peekAt 1 else pure token)
    let first ← disjunction g
    if strict && !isSoft && !isOldStatement first then checkComma g token.line
    if ← at? "if" then
      orElse
        (do
          expect "if"
          let test ← disjunction g
          if strict && !(← at? "else") && !(← at? ":") then reportLine token.line
          expect "else"
          return .choice test first (← g.expression))
        (pure first)
    else return first

/-- Expressions with commas between them, stars allowed. -/
def starExpressions : Parse Expr :=
  starRow g (bitOr g)

def yieldExpression : Parse Expr := do
  expect "yield"
  if ← accept "from" then return .yieldFrom (← g.expression)
  else return .yield (← optional (starExpressions g))

end CommitLens.Python
