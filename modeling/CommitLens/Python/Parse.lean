import CommitLens.Python.Literal
import CommitLens.Python.Syntax
import CommitLens.Text.Compatibility

/-!
# Reading tokens

A reader looks at tokens one after the other.  A failure remembers the
furthest token that any attempt has looked at, because that is where the
syntax is said to be wrong.  Some errors are reported at once, and no other
attempt is made then.
-/

namespace CommitLens.Python

structure Context where
  tokens : Array Token
  fault : Option Fault
  /-- Look for mistakes with a line of their own. -/
  strict : Bool
  deriving Inhabited

structure Place where
  index : Nat
  /-- The furthest token that was looked at. -/
  seen : Nat
  deriving Repr, Inhabited

inductive Stop where
  | failed (seen : Nat)
  | reported (line seen : Nat)
  /-- The tokens end in a fault on that line. -/
  | faulted (line : Nat)
  | tooDeep
  deriving Repr, Inhabited

def Parse (α : Type) := Context → Place → Except Stop (α × Place)

namespace Parse

variable {α β : Type}

def pureValue (value : α) : Parse α := fun _ place => .ok (value, place)

def andThen (first : Parse α) (next : α → Parse β) : Parse β := fun ctx place =>
  match first ctx place with
  | .ok (value, place) => next value ctx place
  | .error stop => .error stop

instance : Monad Parse where
  pure := pureValue
  bind := andThen

def fail : Parse α := fun _ place => .error (.failed place.seen)

/-- Where the first reader fails, use the second one from the same place. -/
def orElse (first second : Parse α) : Parse α := fun ctx place =>
  match first ctx place with
  | .error (.failed seen) => second ctx { place with seen := max place.seen seen }
  | answer => answer

def optional (reader : Parse α) : Parse (Option α) :=
  orElse (andThen reader fun value => pureValue (some value)) (pureValue none)

/-- Read without moving on. -/
def ahead (reader : Parse α) : Parse α := fun ctx place =>
  match reader ctx place with
  | .ok (value, next) => .ok (value, { place with seen := next.seen })
  | .error stop => .error stop

/-- The token some places ahead. -/
def peekAt (ahead : Nat) : Parse Token := fun ctx place =>
  let index := place.index + ahead
  match ctx.tokens[index]? with
  | some token => .ok (token, { place with seen := max place.seen index })
  | none =>
      match ctx.fault with
      | some fault => .error (.faulted fault.line)
      | none => .ok (⟨.finish, "", 0, 0⟩, place)

def peek : Parse Token := peekAt 0

def skip : Parse Unit := fun _ place => .ok ((), { place with index := place.index + 1 })

def lineSeen (ctx : Context) (seen : Nat) : Nat :=
  (ctx.tokens[seen]?.map Token.line).getD ((ctx.tokens.back?.map Token.line).getD 1)

/-- Report an error on the line of the last token that was looked at. -/
def report : Parse α := fun ctx place =>
  .error (.reported (lineSeen ctx place.seen) place.seen)

def reportLine (line : Nat) : Parse α := fun _ place => .error (.reported line place.seen)

def isStrict : Parse Bool := fun ctx place => .ok (ctx.strict, place)

def lenient (reader : Parse α) : Parse α := fun ctx place => reader { ctx with strict := false } place

/-- How many brackets are open after the token before this place. -/
def depthBefore : Parse Nat := fun ctx place =>
  .ok (((ctx.tokens[place.index - 1]?).map Token.depth).getD 0, place)

def Token.isWord (token : Token) (text : String) : Bool :=
  (token.kind == .mark || token.kind == .name) && token.text == text

def at? (text : String) : Parse Bool := do
  return Token.isWord (← peek) text

def accept (text : String) : Parse Bool := do
  if ← at? text then
    skip
    return true
  else return false

def expect (text : String) : Parse Unit := do
  if ← accept text then return else fail

def acceptKind (kind : TokenKind) : Parse Bool := do
  if (← peek).kind == kind then
    skip
    return true
  else return false

def expectKind (kind : TokenKind) : Parse Unit := do
  if ← acceptKind kind then return else fail

/-- The mark or keyword of the list that comes next. -/
def acceptAny (texts : List String) : Parse (Option String) := do
  let token ← peek
  match texts.find? (Token.isWord token) with
  | some text =>
      skip
      return some text
  | none => return none

def keywords : List String :=
  ["False", "None", "True", "and", "as", "assert", "async", "await", "break", "class", "continue",
    "def", "del", "elif", "else", "except", "finally", "for", "from", "global", "if", "import",
    "in", "is", "lambda", "nonlocal", "not", "or", "pass", "raise", "return", "try", "while",
    "with", "yield"]

def Token.isIdentifier (token : Token) : Bool :=
  token.kind == .name && !keywords.contains token.text

/-- Names are compared in their compatibility form. -/
def nameText (text : String) : String :=
  if Text.isAscii text then text else Text.Compatibility.normalize text

def identifier : Parse String := do
  let token ← peek
  if Token.isIdentifier token then
    skip
    return nameText token.text
  else fail

def stepLimit : Parse Nat := fun ctx place => .ok (ctx.tokens.size + 1, place)

def manyUpTo (step : Parse (Option α)) : Nat → Parse (List α)
  | 0 => pureValue []
  | fuel + 1 => do
      match ← step with
      | none => return []
      | some value =>
          let rest ← manyUpTo step fuel
          return value :: rest

/-- Repeat a step until it has nothing more. -/
def many (step : Parse (Option α)) : Parse (List α) := do
  manyUpTo step (← stepLimit)

def growUpTo (step : α → Parse (Option α)) : Nat → α → Parse α
  | 0, value => pureValue value
  | fuel + 1, value => do
      match ← step value with
      | none => return value
      | some next => growUpTo step fuel next

/-- Replace a value by what a step makes of it, as long as it does. -/
def grow (value : α) (step : α → Parse (Option α)) : Parse α := do
  growUpTo step (← stepLimit) value

/-- More items after a first one, separated by commas.  A last comma stands
alone where no item can be read after it. -/
def moreItems (item : Parse α) : Parse (List α × Bool) := do
  if !(← at? ",") then return ([], false)
  let items ← many do
    if ← at? "," then
      optional (andThen (expect ",") fun _ => item)
    else return none
  let _ ← accept ","
  return (items, true)

/-- Run a reader on other tokens; an error is reported on its line there. -/
def within (lexed : Lexed) (reader : Parse α) : Parse α := fun ctx place =>
  let inner : Context := ⟨lexed.tokens, lexed.fault, ctx.strict⟩
  match reader inner ⟨0, 0⟩ with
  | .ok (value, _) => .ok (value, place)
  | .error .tooDeep => .error .tooDeep
  | .error (.failed seen) => .error (.reported (lineSeen inner seen) place.seen)
  | .error (.reported line _) => .error (.reported line place.seen)
  | .error (.faulted line) => .error (.reported line place.seen)

end Parse

/-- The readers that refer to each other through nested syntax. -/
structure Grammar where
  expression : Parse Expr
  factor : Parse Expr
  /-- The value of a formatted string, in parentheses. -/
  value : Parse Expr
  pattern : Parse Unit
  statement : Parse (List Statement)

def Grammar.empty : Grammar :=
  ⟨.fail, .fail, .fail, .fail, .fail⟩

end CommitLens.Python
