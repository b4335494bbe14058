import CommitLens.Python.Syntax
import CommitLens.Text.Quoted

/-!
# Writing expressions

An expression as text, with the parentheses that its operators need and no
others.  Tuples always have theirs.
-/

namespace CommitLens.Python

/-- How tightly an expression binds, from the loosest on. -/
inductive Binding where
  | named
  | tuple
  | yield
  | test
  | or
  | and
  | not
  | comparison
  | bitOr
  | bitXor
  | bitAnd
  | shift
  | sum
  | term
  | factor
  | power
  | await
  | atom
  deriving Repr, BEq, DecidableEq, Inhabited

namespace Binding

def level : Binding → Nat
  | named => 0
  | tuple => 1
  | yield => 2
  | test => 3
  | or => 4
  | and => 5
  | not => 6
  | comparison => 7
  | bitOr => 8
  | bitXor => 9
  | bitAnd => 10
  | shift => 11
  | sum => 12
  | term => 13
  | factor => 14
  | power => 15
  | await => 16
  | atom => 17

def ofOperator (op : String) : Binding :=
  match op with
  | "|" => bitOr
  | "^" => bitXor
  | "&" => bitAnd
  | "<<" | ">>" => shift
  | "+" | "-" => sum
  | "**" => power
  | _ => term

end Binding

/-- Parentheses where the place binds tighter than the expression. -/
def wrapped (place own : Nat) (text : String) : String :=
  if own < place then "(" ++ text ++ ")" else text

def commaSeparated (items : List String) : String :=
  String.intercalate ", " items

/-- The items of a tuple; a single one has a comma after it. -/
def tupleItems (items : List String) : String :=
  match items with
  | [item] => item ++ ","
  | _ => commaSeparated items

def Constant.render : Constant → String
  | none => "None"
  | bool true => "True"
  | bool false => "False"
  | ellipsis => "..."
  | text s => Text.quoted s
  | bytes values => Text.quotedBytes values
  | number literal => literal

def Brackets.around (brackets : Brackets) (text : String) : String :=
  match brackets with
  | .square => "[" ++ text ++ "]"
  | .curly => "\x7b" ++ text ++ "\x7d"
  | .round => "(" ++ text ++ ")"

namespace Expr

/-- Literal text of a formatted string, with its braces doubled. -/
def formattedText (s : String) : String :=
  String.ofList (s.toList.flatMap fun c => if c == '\x7b' || c == '\x7d' then [c, c] else [c])

def conversionText : Option Char → String
  | none => ""
  | some c => String.ofList ['!', c]

mutual

/-- Write an expression at a place that binds as given.  The parentheses of a
tuple are left out in a subscript. -/
def renderAt (place : Nat) : Expr → String
  | name id => id
  | constant value => value.render
  | tuple items => "(" ++ tupleItems (renderAll Binding.test.level items) ++ ")"
  | list items => "[" ++ commaSeparated (renderAll Binding.test.level items) ++ "]"
  | set items => "\x7b" ++ commaSeparated (renderAll Binding.test.level items) ++ "\x7d"
  | dict items => "\x7b" ++ commaSeparated (renderPairs items) ++ "\x7d"
  | starred e => "*" ++ renderAt Binding.bitOr.level e
  | member e last => renderAt Binding.atom.level e ++ "." ++ last
  | subscript e (tuple (item :: items)) =>
      renderAt Binding.atom.level e ++ "[" ++
        tupleItems (renderAt Binding.test.level item :: renderAll Binding.test.level items) ++ "]"
  | subscript e index =>
      renderAt Binding.atom.level e ++ "[" ++ renderAt Binding.test.level index ++ "]"
  | slice first last step =>
      let tail := match step with
        | none => ""
        | some e => ":" ++ renderAt Binding.test.level e
      renderOption first ++ ":" ++ renderOption last ++ tail
  | call function arguments keywords =>
      renderAt Binding.atom.level function ++ "(" ++
        commaSeparated (renderAll Binding.test.level arguments ++ renderKeywords keywords) ++ ")"
  | unary op e =>
      let binding := if op == "not" then Binding.not else Binding.factor
      let space := if op == "not" then " " else ""
      wrapped place binding.level (op ++ space ++ renderAt binding.level e)
  | binary op left right =>
      let level := (Binding.ofOperator op).level
      let (leftLevel, rightLevel) := if op == "**" then (level + 1, level) else (level, level + 1)
      wrapped place level (renderAt leftLevel left ++ " " ++ op ++ " " ++ renderAt rightLevel right)
  | boolean op items =>
      let level := (if op == "or" then Binding.or else Binding.and).level
      wrapped place level
        (String.intercalate (" " ++ op ++ " ") (renderRising (level + 1) items))
  | compare first rest =>
      let level := Binding.comparison.level
      wrapped place level (renderAt (level + 1) first ++ renderComparisons rest)
  | choice test body other =>
      let level := Binding.test.level
      wrapped place level (renderAt (level + 1) body ++ " if " ++ renderAt (level + 1) test ++
        " else " ++ renderAt level other)
  | lambda parameters body =>
      let given := renderParameters parameters
      let head := if given.isEmpty then "lambda: " else "lambda " ++ commaSeparated given ++ ": "
      wrapped place Binding.test.level (head ++ renderAt Binding.test.level body)
  | comprehension brackets element value clauses =>
      let head := match value with
        | none => renderAt Binding.test.level element
        | some e => renderAt Binding.test.level element ++ ": " ++ renderAt Binding.test.level e
      brackets.around (head ++ renderClauses clauses)
  | await e => wrapped place Binding.await.level ("await " ++ renderAt Binding.atom.level e)
  | yield none => wrapped place Binding.yield.level "yield"
  | yield (some e) => wrapped place Binding.yield.level ("yield " ++ renderAt Binding.atom.level e)
  | yieldFrom e =>
      wrapped place Binding.yield.level ("yield from " ++ renderAt Binding.atom.level e)
  | assigned target value =>
      wrapped place Binding.named.level
        (renderAt Binding.atom.level target ++ " := " ++ renderAt Binding.atom.level value)
  | formatted parts => "f'" ++ String.join (renderParts parts) ++ "'"
  | formattedValue e conversion format =>
      "\x7b" ++ renderAt (Binding.test.level + 1) e ++ conversionText conversion ++
        renderFormat format ++ "\x7d"

def renderAll (place : Nat) : List Expr → List String
  | [] => []
  | e :: rest => renderAt place e :: renderAll place rest

/-- Each operand of a row of one operator binds tighter than the one before. -/
def renderRising (place : Nat) : List Expr → List String
  | [] => []
  | e :: rest => renderAt place e :: renderRising (place + 1) rest

def renderOption : Option Expr → String
  | none => ""
  | some e => renderAt Binding.test.level e

def renderPairs : List (Option Expr × Expr) → List String
  | [] => []
  | (none, e) :: rest => ("**" ++ renderAt Binding.bitOr.level e) :: renderPairs rest
  | (some key, e) :: rest =>
      (renderAt Binding.test.level key ++ ": " ++ renderAt Binding.test.level e) ::
        renderPairs rest

def renderKeywords : List (Option String × Expr) → List String
  | [] => []
  | (none, e) :: rest => ("**" ++ renderAt Binding.test.level e) :: renderKeywords rest
  | (some label, e) :: rest => (label ++ "=" ++ renderAt Binding.test.level e) :: renderKeywords rest

def renderComparisons : List (String × Expr) → String
  | [] => ""
  | (op, e) :: rest =>
      " " ++ op ++ " " ++ renderAt (Binding.comparison.level + 1) e ++ renderComparisons rest

def renderParameters : List (String × Option Expr) → List String
  | [] => []
  | (label, none) :: rest => label :: renderParameters rest
  | (label, some e) :: rest => (label ++ "=" ++ renderAt Binding.test.level e) :: renderParameters rest

def renderClauses : List (Bool × Expr × Expr × List Expr) → String
  | [] => ""
  | (isAsync, target, source, conditions) :: rest =>
      (if isAsync then " async for " else " for ") ++ renderAt Binding.tuple.level target ++ " in " ++
        renderAt (Binding.test.level + 1) source ++ renderConditions conditions ++
        renderClauses rest

def renderConditions : List Expr → String
  | [] => ""
  | e :: rest => " if " ++ renderAt (Binding.test.level + 1) e ++ renderConditions rest

def renderParts : List Expr → List String
  | [] => []
  | constant (.text s) :: rest => formattedText s :: renderParts rest
  | e :: rest => renderAt Binding.atom.level e :: renderParts rest

def renderFormat : Option Expr → String
  | none => ""
  | some (formatted parts) => ":" ++ String.join (renderParts parts)
  | some e => ":" ++ renderAt Binding.test.level e

end

def render (e : Expr) : String :=
  renderAt Binding.test.level e

end Expr

end CommitLens.Python
