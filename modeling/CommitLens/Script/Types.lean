import CommitLens.Script.Rule

/-!
# Patterns, types and signatures

Patterns bind names: in declarations, parameters and assignments.  Types stand
after colons and in declarations of their own; signatures join the two.
-/

namespace CommitLens.Script

open Rule

/-! ## Names of members and patterns -/

def computedName (g : Grammar) : Rule :=
  node .otherExpression (all [mark "[", g.expression, mark "]"])

def propertyName (g : Grammar) : Rule :=
  any [anyName, privateName, string, number, computedName g]

def initializer (g : Grammar) : Rule :=
  all [equalsMark, role .value g.expression]

def shorthandBinding (g : Grammar) : Rule :=
  group .pattern (all [token .shorthandBinding variableName?, opt (initializer g)])

def restPattern (g : Grammar) : Rule :=
  node .pattern (all [mark "...", g.pattern])

def boundPattern (g : Grammar) : Rule :=
  group .pattern (all [g.pattern, opt (initializer g)])

def pairPattern (g : Grammar) : Rule :=
  node .pattern (all [propertyName g, mark ":", boundPattern g])

def destructuring (g : Grammar) : Rule :=
  any [node .pattern (listedWithHoles "\x7b"
      (any [restPattern g, pairPattern g, shorthandBinding g]) "\x7d"),
    node .pattern (listedWithHoles "[" (boundPattern g) "]")]

/-- A place that can be assigned: a name or a member of something. -/
def place (g : Grammar) : Rule :=
  all [ahead (any [identifier, word "this", word "super"]),
    ofKind [.identifier, .member] g.chain]

def patternRule (g : Grammar) : Rule :=
  any [destructuring g, restPattern g, place g]

/-! ## Type parameters and arguments -/

def typeArguments (g : Grammar) : Rule :=
  node .typeArguments (all [mark "<", sepBy1 comma g.type, opt comma, mark ">"])

def typeParameter (g : Grammar) : Rule :=
  optionally (word "const")
    (all [typeName, opt (all [any [word "extends", mark ":"], g.type]),
      opt (all [equalsMark, g.type])])

def typeParameters (g : Grammar) : Rule :=
  node .type (all [mark "<", sepBy1 comma (typeParameter g), opt comma, mark ">"])

def typeMark (g : Grammar) : Rule :=
  all [mark ":", g.type]

/-! ## Signatures -/

def decorator (g : Grammar) : Rule :=
  node .otherExpression (all [mark "@",
    any [all [mark "(", g.expression, mark ")"],
      all [identifier, many (all [mark ".", anyName])]],
    opt (typed (typeArguments g)),
    opt (listedWithHoles "(" (any [all [mark "...", g.expression], g.expression]) ")")])

/-- Keywords in any order before a rule, each of them left to the rule where
the rule cannot do without. -/
def modified (keywords : List String) (rule : Rule) : Nat → Rule
  | 0 => rule
  | fuel + 1 => any [all [words keywords, modified keywords rule fuel], rule]

def parameter (g : Grammar) : Rule :=
  any [
    typed (all [many (decorator g),
      modified ["public", "private", "protected", "override", "readonly"]
        (all [any [g.pattern, word "this"], opt (mark "?"), opt (typeMark g),
          opt (initializer g)]) 3]),
    untyped (boundPattern g)]

def parameters (g : Grammar) : Rule :=
  node .otherExpression (all [mark "(", opt (all [sepBy1 comma (parameter g), opt comma]),
    mark ")"])

def typePredicate (g : Grammar) : Rule :=
  all [any [identifier, word "this"], word "is", g.type]

/-- What a function returns: a type, or a statement about one of its
parameters. -/
def returnType (g : Grammar) : Rule :=
  any [
    all [word "asserts", any [typePredicate g, identifier, word "this"]],
    typePredicate g,
    g.type]

def returnMark (g : Grammar) : Rule :=
  all [mark ":", returnType g]

def callSignature (g : Grammar) : Rule :=
  any [
    typed (all [opt (typeParameters g), parameters g, opt (returnMark g)]),
    untyped (parameters g)]

/-! ## Members of object types -/

def memberModifiers : List String :=
  ["public", "private", "protected", "static", "override", "readonly", "abstract", "declare",
    "accessor"]

def methodHead (g : Grammar) : Rule :=
  optionally (word "async")
    (optionally (any [words ["get", "set"], mark "*"])
      (all [role .name (propertyName g), opt (typed (mark "?")), callSignature g]))

def methodSignature (g : Grammar) : Rule :=
  node .methodSignature (modified memberModifiers (methodHead g) 4)

def propertySignature (g : Grammar) : Rule :=
  node .propertySignature
    (modified memberModifiers
      (all [role .name (propertyName g), opt (mark "?"), opt (typeMark g)]) 4)

def indexSignature (g : Grammar) : Rule :=
  node .otherMember (modified memberModifiers
    (all [opt (all [any [mark "+", mark "-"], word "readonly"]), mark "[",
      any [all [identifier, mark ":", g.type],
        all [typeName, word "in", g.type, opt (all [word "as", g.type])]],
      mark "]", opt (any [mark "-", mark "+"]), opt (mark "?"), typeMark g]) 2)

def constructSignature (g : Grammar) : Rule :=
  node .otherMember (all [opt (word "abstract"), word "new", opt (typeParameters g), parameters g,
    opt (typeMark g)])

def typeMember (g : Grammar) : Rule :=
  any [node .otherMember (callSignature g), constructSignature g, indexSignature g,
    methodSignature g, propertySignature g]

def memberEnd : Rule :=
  any [comma, semicolon false]

def typeMembers (g : Grammar) : Rule :=
  all [mark "\x7b", opt (any [comma, mark ";"]),
    opt (all [typeMember g, many (all [memberEnd, typeMember g])]), opt memberEnd, mark "\x7d"]

/-! ## Types -/

def functionType (g : Grammar) : Rule :=
  all [opt (typeParameters g), parameters g, mark "=>", returnType g]

def constructorType (g : Grammar) : Rule :=
  all [opt (word "abstract"), word "new", opt (typeParameters g), parameters g, mark "=>", g.type]

def tupleItem (g : Grammar) : Rule :=
  all [opt (mark "..."),
    any [all [identifier, opt (mark "?"), mark ":", g.type],
      all [g.type, opt (mark "?")]]]

def typeQuery (g : Grammar) : Rule :=
  all [word "typeof",
    any [
      all [word "import", mark "(", g.expression, mark ")"],
      identifier,
      word "this"],
    many (all [mark ".", any [anyName, privateName]]),
    many (all [onSameLine, mark "[", g.type, mark "]"]),
    opt (typeArguments g)]

/-- The name of a type: the parts before the last one are variables. -/
def namedType (g : Grammar) : Rule :=
  all [
    any [
      all [word "import", mark "(", g.expression, mark ")", many1 (all [mark ".", anyName])],
      all [identifier, many1 (all [mark ".", anyName])],
      typeName],
    opt (typeArguments g)]

def templateRule (expressions : Rule) : Rule :=
  node .otherExpression (all [mark "\x60", tokenAtOnce .word templateText?,
    many (all [
      tokenAtOnce .mark fun src i => if src.has i "$\x7b" then some (i + 2) else none,
      expressions, mark "\x7d", tokenAtOnce .word templateText?]),
    tokenAtOnce .mark fun src i => if src.char i == '\x60' then some (i + 1) else none])

mutual

/-- A type without unions, conditions and array marks around it. -/
def plainType (g : Grammar) : Nat → Rule
  | 0 => fail
  | fuel + 1 => any [
      functionType g,
      constructorType g,
      all [words ["readonly", "keyof", "unique"], arrayType g fuel],
      all [word "infer", typeName, opt (all [word "extends", unionType g fuel])],
      typeQuery g,
      all [mark "(", g.type, mark ")"],
      typeMembers g,
      listedWithHoles "[" (tupleItem g) "]",
      templateRule g.type,
      string, number, all [mark "-", number],
      words ["true", "false", "null", "void", "this", "const"],
      namedType g]

def arrayType (g : Grammar) : Nat → Rule
  | 0 => fail
  | fuel + 1 =>
      all [plainType g fuel, many (all [onSameLine, mark "[", opt g.type, mark "]"])]

def unionType (g : Grammar) : Nat → Rule
  | 0 => fail
  | fuel + 1 =>
      let bar := any [mark "|", mark "&"]
      group .type (all [opt bar, arrayType g fuel, many (all [bar, arrayType g fuel])])

end

/-- Type operators that may stand in front of each other. -/
def typeOperatorDepth : Nat := 12

def typeRule (g : Grammar) : Rule :=
  let union := unionType g typeOperatorDepth
  group .type (all [union,
    opt (all [word "extends", union, mark "?", g.type, mark ":", g.type])])

end CommitLens.Script
