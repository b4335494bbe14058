import CommitLens.Script.Types

/-!
# Functions, classes and markup

The parts of expressions that have bodies of their own.
-/

namespace CommitLens.Script

open Rule

def block (g : Grammar) : Rule :=
  node .otherStatement (all [mark "\x7b", many g.statement, mark "\x7d"])

/-! ## Functions -/

def arrowBody (g : Grammar) : Rule :=
  any [block g, g.expression]

def functionExpression (g : Grammar) : Rule :=
  node .otherExpression (all [optionally (word "async") (word "function"), opt (mark "*"),
    opt identifier, callSignature g, block g])

def methodDefinition (g : Grammar) : Rule :=
  node .otherMember
    (any [
      typed (modified memberModifiers (all [methodHead g, block g]) 4),
      untyped (modified ["static"] (all [methodHead g, block g]) 1)])

/-! ## Classes -/

def field (g : Grammar) : Rule :=
  let named := all [role .name (propertyName g), opt (typed (any [mark "?", mark "!"])),
    opt (typed (typeMark g))]
  let modifiedNamed := any [typed (modified memberModifiers named 4),
    untyped (modified ["static"] named 1)]
  let fieldEnd (afterExpression : Bool) := any [semicolon afterExpression, typed comma]
  any [
    all [node .otherMember (all [modifiedNamed, initializer g]), fieldEnd true],
    all [node .otherMember modifiedNamed, fieldEnd false]]

def classMember (g : Grammar) : Rule :=
  all [many (decorator g),
    any [
      methodDefinition g,
      all [word "static", block g],
      typed (all [any [indexSignature g, methodSignature g], memberEnd]),
      field g,
      mark ";"]]

def classBody (g : Grammar) : Rule :=
  role .body (node .otherMember (all [mark "\x7b", many (classMember g), mark "\x7d"]))

def extendsClause (g : Grammar) : Rule :=
  node .extendsClause (all [word "extends",
    sepBy1 comma (all [g.chain, opt (typeArguments g)])])

def implementsClause (g : Grammar) : Rule :=
  node .implementsClause (all [word "implements", sepBy1 comma g.type])

def classHeritage (g : Grammar) : Rule :=
  node .classHeritage (any [
    typed (any [all [extendsClause g, opt (implementsClause g)], implementsClause g]),
    untyped (all [word "extends", g.expression])])

def classRest (g : Grammar) : Rule :=
  all [opt (typed (typeParameters g)), opt (classHeritage g), classBody g]

def classExpression (g : Grammar) : Rule :=
  node .otherExpression (all [many (decorator g), word "class",
    optionally (role .name typeName) (classRest g)])

/-! ## Markup -/

/-- A name with dashes. -/
def dashedName? (src : Source) (i : Nat) : Option Nat := do
  let stop ← name? src i
  return if src.char stop == '-' then src.skipWhile (fun c => isNameMark c || c == '-') stop
    else stop

/-- A quoted value that may span lines and has character references. -/
def markupString? (src : Source) (i : Nat) : Option Nat :=
  let quote := src.char i
  if quote == '\x22' || quote == '\x27' then go quote (src.left i) (i + 1) else none
where
  go (quote : Char) : Nat → Nat → Option Nat
    | 0, _ => none
    | fuel + 1, i =>
        let c := src.char i
        if src.isEnd i then none
        else if c == quote then some (i + 1)
        else if c == '&' && (src.char (i + 1) == '#' || (src.char (i + 1)).isAlpha) then
          (characterReference? src i).bind (go quote fuel)
        else go quote fuel (i + 1)

def markupName : Rule :=
  group .member (all [token .identifier dashedName?,
    opt (any [
      many1 (all [mark ".", token .word dashedName?]),
      all [mark ":", token .word dashedName?]])])

def markupExpression (g : Grammar) : Rule :=
  node .otherExpression (all [mark "\x7b",
    opt (any [all [mark "...", g.expression], sepBy1 comma g.expression]), mark "\x7d"])

def markupAttribute (g : Grammar) : Rule :=
  any [
    markupExpression g,
    node .otherExpression (all [token .word dashedName?,
      opt (all [mark ":", token .word dashedName?]),
      opt (all [mark "=",
        any [token .word markupString?, markupExpression g, g.element]])])]

def markupChild (g : Grammar) : Rule :=
  any [
    tokenAtOnce .word markupText?,
    tokenAtOnce .word characterReference?,
    markupExpression g,
    g.element]

def elementRule (g : Grammar) : Rule :=
  let closing := all [mark "</", opt markupName, mark ">"]
  let paired := all [mark ">", many (markupChild g), closing]
  node .markup (all [mark "<",
    any [
      all [markupName, opt (typed (typeArguments g)), many (markupAttribute g),
        any [mark "/>", paired]],
      paired]])

end CommitLens.Script
