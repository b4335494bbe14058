/-!
# Syntax of Python modules

Expressions keep everything that is needed to write them out again.
Statements keep what a surface is made of: definitions, imports and
assignments; all others are alike.
-/

namespace CommitLens.Python

inductive Constant where
  | none
  | bool (b : Bool)
  | ellipsis
  | text (s : String)
  | bytes (values : List Nat)
  /-- A number as it is written. -/
  | number (literal : String)
  deriving Repr, BEq, DecidableEq, Inhabited

/-- The brackets around a comprehension. -/
inductive Brackets where
  | square
  | curly
  | round
  deriving Repr, BEq, DecidableEq, Inhabited

inductive Expr where
  | name (id : String)
  | constant (value : Constant)
  | tuple (items : List Expr)
  | list (items : List Expr)
  | set (items : List Expr)
  /-- Keys with values; an item without a key is a mapping spread out. -/
  | dict (items : List (Option Expr × Expr))
  | starred (e : Expr)
  | member (e : Expr) (name : String)
  | subscript (e index : Expr)
  | slice (first last step : Option Expr)
  /-- Keyword arguments without a name are mappings spread out. -/
  | call (function : Expr) (arguments : List Expr) (keywords : List (Option String × Expr))
  | unary (op : String) (e : Expr)
  | binary (op : String) (left right : Expr)
  | boolean (op : String) (items : List Expr)
  | compare (first : Expr) (rest : List (String × Expr))
  | choice (test body other : Expr)
  /-- Parameters as they are written, stars included, with their defaults. -/
  | lambda (parameters : List (String × Option Expr)) (body : Expr)
  /-- An element, its value in a mapping, and clauses: is the clause
  asynchronous, its targets, what it runs over, and its conditions. -/
  | comprehension (brackets : Brackets) (element : Expr) (value : Option Expr)
      (clauses : List (Bool × Expr × Expr × List Expr))
  | await (e : Expr)
  | yield (e : Option Expr)
  | yieldFrom (e : Expr)
  | assigned (target value : Expr)
  /-- Literal text between values, each with its conversion and its format. -/
  | formatted (parts : List Expr)
  | formattedValue (e : Expr) (conversion : Option Char) (format : Option Expr)
  deriving Inhabited

/-- A name in an import, and the name it is bound to. -/
structure Alias where
  name : String
  boundTo : Option String := none
  deriving Repr, BEq, DecidableEq, Inhabited

inductive Statement where
  | classDef (name : String) (bases : List Expr) (body : List Statement)
  | functionDef (name : String)
  | importModules (items : List Alias)
  | importFrom (level : Nat) (module : Option String) (items : List Alias)
  | assign (targets : List Expr) (value : Expr)
  | annotate (target mark : Expr) (value : Option Expr)
  | other
  deriving Inhabited

namespace Expr

mutual

/-- How deep an expression nests. -/
def depth : Expr → Nat
  | name _ | constant _ => 1
  | tuple items | list items | set items | boolean _ items | formatted items =>
      depthOfAll items + 1
  | dict items => depthOfPairs items + 1
  | starred e | member e _ | unary _ e | await e | yieldFrom e => depth e + 1
  | subscript e index => max (depth e) (depth index) + 1
  | slice first last step =>
      max (depthOfOption first) (max (depthOfOption last) (depthOfOption step)) + 1
  | call function arguments keywords =>
      max (depth function) (max (depthOfAll arguments) (depthOfNamed keywords)) + 1
  | binary _ left right | assigned left right => max (depth left) (depth right) + 1
  | compare first rest => max (depth first) (depthOfLabelled rest) + 1
  | choice test body other => max (depth test) (max (depth body) (depth other)) + 1
  | lambda parameters body => max (depthOfDefaults parameters) (depth body) + 1
  | comprehension _ element value clauses =>
      max (depth element) (max (depthOfOption value) (depthOfClauses clauses)) + 1
  | yield e => depthOfOption e + 1
  | formattedValue e _ format => max (depth e) (depthOfOption format) + 1

def depthOfAll : List Expr → Nat
  | [] => 0
  | e :: rest => max (depth e) (depthOfAll rest)

def depthOfOption : Option Expr → Nat
  | none => 0
  | some e => depth e

def depthOfPairs : List (Option Expr × Expr) → Nat
  | [] => 0
  | (key, value) :: rest => max (max (depthOfOption key) (depth value)) (depthOfPairs rest)

def depthOfNamed : List (Option String × Expr) → Nat
  | [] => 0
  | (_, e) :: rest => max (depth e) (depthOfNamed rest)

def depthOfLabelled : List (String × Expr) → Nat
  | [] => 0
  | (_, e) :: rest => max (depth e) (depthOfLabelled rest)

def depthOfDefaults : List (String × Option Expr) → Nat
  | [] => 0
  | (_, e) :: rest => max (depthOfOption e) (depthOfDefaults rest)

def depthOfClauses : List (Bool × Expr × Expr × List Expr) → Nat
  | [] => 0
  | (_, target, source, conditions) :: rest =>
      max (max (depth target) (max (depth source) (depthOfAll conditions))) (depthOfClauses rest)

end

end Expr

end CommitLens.Python
