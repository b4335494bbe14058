import CommitLens.Python.Statements
import CommitLens.Text.Blank

/-!
# Python modules

A module is read twice at most: if the first reading fails, a stricter one
looks for mistakes that have a line of their own.  Otherwise the syntax is
wrong at the furthest token that was looked at, unless the tokens themselves
have a fault that comes first.
-/

namespace CommitLens.Python

open Parse

def Grammar.next (g : Grammar) : Grammar where
  expression := expressionRule g
  factor := factorRule g
  value := starExpressions g
  pattern := patternRule g
  statement := statementRule g

/-- The grammar whose syntax nests up to a depth. -/
def Grammar.ofDepth (depth : Nat) : Grammar :=
  Nat.repeat Grammar.next depth .empty

/-- All statements up to the end of the tokens. -/
def moduleRule (g : Grammar) : Parse (List Statement) := do
  let blocks ← many do
    if (← peek).kind == .finish then return none
    else return some (← g.statement)
  return blocks.flatten

inductive SyntaxError where
  | onLine (line : Nat)
  | nullCharacter
  | tooDeep
  deriving Repr, BEq, DecidableEq

def SyntaxError.reason : SyntaxError → String
  | onLine line => "syntax error near line " ++ toString line
  | nullCharacter => "source code string cannot contain null bytes"
  | tooDeep => "source is too deeply nested to parse"

/-- The line of an error, unless a fault further on is reported in its place:
a misspelled token, or a bracket that was opened on an earlier line and is
never closed. -/
def reportedLine (lexed : Lexed) (line seenLine : Nat) : Nat :=
  match lexed.fault with
  | none => line
  | some fault =>
      if fault.misspelled then fault.line
      else match fault.openLine with
        | some openLine => if openLine < seenLine then openLine else line
        | none => line

/-- The error of a module whose first reading failed at a token. -/
def errorAt (g : Grammar) (lexed : Lexed) (seen : Nat) : SyntaxError :=
  let ctx : Context := ⟨lexed.tokens, lexed.fault, true⟩
  match moduleRule g ctx ⟨0, 0⟩ with
  | .error (.reported line last) => .onLine (reportedLine lexed line (lineSeen ctx last))
  | .error (.faulted line) => .onLine line
  | .error .tooDeep => .tooDeep
  | .error (.failed last) =>
      let line := lineSeen ctx seen
      let kind := (lexed.tokens[seen]?.map Token.kind).getD .finish
      if kind == .indent || kind == .dedent then .onLine line
      else .onLine (reportedLine lexed line (lineSeen ctx (max seen last)))
  | .ok _ => .onLine (lineSeen ctx seen)

/-- The statements of a module. -/
def parseModule (text : String) : Except SyntaxError (List Statement) :=
  if text.toList.contains '\x00' then .error .nullCharacter
  else
    let cs := Text.unifyLineFeeds text.toList
    let lexed := lexFrom 1 cs
    let g := Grammar.ofDepth (2 * cs.length + 16)
    let ctx : Context := ⟨lexed.tokens, lexed.fault, false⟩
    match moduleRule g ctx ⟨0, 0⟩ with
    | .ok (statements, _) => .ok statements
    | .error (.reported line seen) =>
        .error (.onLine (reportedLine lexed line (lineSeen ctx seen)))
    | .error (.faulted line) => .error (.onLine line)
    | .error .tooDeep => .error .tooDeep
    | .error (.failed seen) => .error (errorAt g lexed seen)

end CommitLens.Python
