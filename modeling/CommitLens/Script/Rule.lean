import CommitLens.Script.Source

/-!
# Grammar rules

A rule reads the tokens from a cursor on and answers with the trees it built
and the cursor after them, or fails.  Rules are composed in sequence (`all`),
as an ordered choice (`any`), and repeated; a repetition stops as soon as
nothing more is read.
-/

namespace CommitLens.Script

abbrev Rule := Source → Cursor → Option (List Tree × Cursor)

namespace Rule

def fail : Rule := fun _ _ => none

def nothing : Rule := fun _ c => some ([], c)

def all : List Rule → Rule
  | [] => nothing
  | rule :: rest => fun src c => do
      let (trees, c) ← rule src c
      let (more, c) ← all rest src c
      return (trees ++ more, c)

def any : List Rule → Rule
  | [] => fail
  | rule :: rest => fun src c => (rule src c).orElse fun _ => any rest src c

def opt (rule : Rule) : Rule :=
  any [rule, nothing]

/-- Repeat a rule as long as it reads something. -/
def manyUpTo (rule : Rule) : Nat → Rule
  | 0 => nothing
  | fuel + 1 => fun src c =>
      match rule src c with
      | none => some ([], c)
      | some (trees, next) =>
          if next.past ≤ c.past then some ([], c)
          else (manyUpTo rule fuel src next).map fun (more, last) => (trees ++ more, last)

def many (rule : Rule) : Rule := fun src c =>
  manyUpTo rule (src.left c.past) src c

def many1 (rule : Rule) : Rule :=
  all [rule, many rule]

/-- Read the first rule where it does not keep the second one from reading. -/
def optionally (first rest : Rule) : Rule :=
  any [all [first, rest], rest]

def sepBy1 (separator rule : Rule) : Rule :=
  all [rule, many (all [separator, rule])]

/-- Succeed without reading, if the test holds of the place. -/
def guard (test : Source → Cursor → Bool) : Rule := fun src c =>
  if test src c then some ([], c) else none

/-- Succeed without reading, if the rule would succeed. -/
def ahead (rule : Rule) : Rule :=
  guard fun src c => (rule src c).isSome

def notAhead (rule : Rule) : Rule :=
  guard fun src c => (rule src c).isNone

/-- Use a rule in the dialects with types only. -/
def typed (rule : Rule) : Rule :=
  all [guard fun src _ => src.dialect.hasTypes, rule]

def untyped (rule : Rule) : Rule :=
  all [guard fun src _ => !src.dialect.hasTypes, rule]

/-- Put the trees of a rule under one node. -/
def node (kind : Kind) (rule : Rule) : Rule := fun src c => do
  let (trees, next) ← rule src c
  return ([.node kind .plain c.here next.past trees], next)

/-- Put the trees of a rule under one node, unless it is a single one. -/
def group (kind : Kind) (rule : Rule) : Rule := fun src c => do
  let (trees, next) ← rule src c
  match trees with
  | [tree] => return ([tree], next)
  | _ => return ([.node kind .plain c.here next.past trees], next)

def role (role : Role) (rule : Rule) : Rule := fun src c =>
  (rule src c).map fun (trees, next) => (trees.map (Tree.withRole role), next)

/-- Extend a tree on its right as long as one of the rules reads on; each step
puts all that was read so far under a node of the kind given with the rule. -/
def extendUpTo (tails : List (Kind × Rule)) (start : Nat) : Nat → List Tree → Rule
  | 0, trees => fun _ c => some (trees, c)
  | fuel + 1, trees => fun src c =>
      match tails.findSome? fun (kind, tail) => (tail src c).map fun read => (kind, read) with
      | none => some (trees, c)
      | some (kind, more, next) =>
          extendUpTo tails start fuel [.node kind .plain start next.past (trees ++ more)] src next

def extend (first : Rule) (tails : List (Kind × Rule)) : Rule := fun src c => do
  let (trees, next) ← first src c
  extendUpTo tails c.here (src.left next.past) trees src next

/-- Keep a tree only if it is of one of the given kinds. -/
def ofKind (kinds : List Kind) (rule : Rule) : Rule := fun src c => do
  let (trees, next) ← rule src c
  if trees.all fun tree => kinds.contains tree.kind then return (trees, next) else none

/-! ## Tokens -/

/-- A token that a reader finds at the cursor, as a leaf. -/
def token (kind : Kind) (read : Source → Nat → Option Nat) : Rule := fun src c => do
  let stop ← read src c.here
  return ([.leaf kind c.here stop], .afterToken src stop)

/-- A token that follows at once, without a gap. -/
def tokenAtOnce (kind : Kind) (read : Source → Nat → Option Nat) : Rule := fun src c => do
  let stop ← read src c.past
  return ([.leaf kind c.past stop], .afterToken src stop)

/-- A punctuation mark, whatever follows. -/
def mark (text : String) : Rule :=
  token .mark fun src i => if src.has i text then some (i + text.length) else none

/-- A punctuation mark that is not followed at once by one of some characters. -/
def markNot (text : String) (after : String) : Rule :=
  token .mark fun src i =>
    if src.has i text && !(after.toList.contains (src.char (i + text.length))) then
      some (i + text.length)
    else none

def equalsMark : Rule := markNot "=" "=>"

/-- A keyword: a whole name with the given text. -/
def word (text : String) : Rule :=
  token .mark fun src i =>
    if src.has i text && nameRest src (i + text.length) == i + text.length then
      some (i + text.length)
    else none

def words (texts : List String) : Rule :=
  any (texts.map word)

def onSameLine : Rule :=
  guard fun src c => !c.breaksLine src

/-- Words that are never names of variables. -/
def reservedWords : List String :=
  ["break", "case", "catch", "class", "const", "continue", "debugger", "default", "delete", "do",
    "else", "export", "extends", "finally", "for", "function", "if", "import", "in", "instanceof",
    "new", "return", "super", "switch", "this", "throw", "try", "typeof", "var", "void", "while",
    "with", "null", "true", "false"]

/-- The names of variables. -/
def variableName? (src : Source) (i : Nat) : Option Nat := do
  let stop ← name? src i
  if reservedWords.contains (src.slice i stop) then none else return stop

/-- A variable; the undefined value is written like one, but is none. -/
def identifier : Rule := fun src c => do
  let stop ← variableName? src c.here
  let kind := if src.slice c.here stop == "undefined" then .word else .identifier
  return ([.leaf kind c.here stop], .afterToken src stop)

/-- Any name, keywords included, as a leaf of its own kind. -/
def anyName : Rule :=
  token .word name?

def typeName : Rule :=
  token .word variableName?

def privateName : Rule :=
  token .word fun src i => if src.char i == '#' then name? src (i + 1) else none

def string : Rule :=
  token .word string?

def number : Rule :=
  token .word number?

def comma : Rule := mark ","

/-- The end of a statement: a semicolon, or none where a line end or the end of
a block closes it. -/
def semicolon (afterExpression : Bool) : Rule :=
  any [mark ";", guard fun src c => closesStatement src c afterExpression]

/-- Items between brackets, separated by commas; a last comma is allowed. -/
def listed (opening : String) (item : Rule) (closing : String) : Rule :=
  all [mark opening, opt (sepBy1 comma item), opt comma, mark closing]

/-- Items between brackets, separated by commas, where items may be left out. -/
def listedWithHoles (opening : String) (item : Rule) (closing : String) : Rule :=
  all [mark opening, opt item, many (all [comma, opt item]), mark closing]

end Rule

/-- The rules that refer to each other through nested syntax. -/
structure Grammar where
  expression : Rule
  /-- A value with the member accesses, calls and the like that follow it. -/
  chain : Rule
  primary : Rule
  pattern : Rule
  statement : Rule
  type : Rule
  element : Rule

/-- The grammar without nesting: nothing can be read. -/
def Grammar.empty : Grammar :=
  ⟨.fail, .fail, .fail, .fail, .fail, .fail, .fail⟩

end CommitLens.Script
