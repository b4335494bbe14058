/-!
# Syntax trees of scripts

A tree keeps every token of the text: keywords and punctuation marks are
leaves of kind `mark`, all other leaves and all inner nodes are *named*.
Extents are character positions, the end excluded.  A statement that does not
fit the grammar is one `broken` node.

Main statement: the traversal with an explicit stack visits the nodes of a
tree in the order of the recursive traversal, parents before children and
children from left to right.
-/

namespace CommitLens.Script

inductive Kind where
  /-- A keyword or a punctuation mark. -/
  | mark
  | comment
  /-- A variable where it is read or bound. -/
  | identifier
  /-- A name bound by an object pattern without a key of its own. -/
  | shorthandBinding
  /-- Any other leaf: property and type names, labels, literals. -/
  | word
  | program
  | broken
  | importStatement
  | importClause
  | namespaceImport
  | namedImports
  | importSpecifier
  | importRequireClause
  | exportStatement
  | exportClause
  | exportSpecifier
  | namespaceExport
  | expressionStatement
  | variableDeclaration
  | variableDeclarator
  | classDeclaration
  | functionDeclaration
  | interfaceDeclaration
  | enumDeclaration
  | typeAliasDeclaration
  | moduleDeclaration
  | ambientDeclaration
  | otherStatement
  | classHeritage
  | extendsClause
  | implementsClause
  | typeArguments
  | interfaceBody
  | propertySignature
  | methodSignature
  | otherMember
  | assignment
  | member
  | parenthesized
  | object
  | array
  | pattern
  | otherExpression
  | type
  /-- An element of markup. -/
  | markup
  deriving Repr, BEq, DecidableEq, Inhabited

/-- The part that a child plays in its parent. -/
inductive Role where
  | plain
  | name
  | newName
  | body
  | source
  | declaration
  | left
  | value
  deriving Repr, BEq, DecidableEq, Inhabited

inductive Tree where
  | node (kind : Kind) (role : Role) (start stop : Nat) (children : List Tree)
  deriving Inhabited

namespace Tree

def kind : Tree → Kind
  | node kind _ _ _ _ => kind

def role : Tree → Role
  | node _ role _ _ _ => role

def start : Tree → Nat
  | node _ _ start _ _ => start

def stop : Tree → Nat
  | node _ _ _ stop _ => stop

def children : Tree → List Tree
  | node _ _ _ _ children => children

def leaf (kind : Kind) (start stop : Nat) : Tree :=
  node kind .plain start stop []

def withRole (role : Role) : Tree → Tree
  | node kind _ start stop children => node kind role start stop children

def isNamed (tree : Tree) : Bool :=
  tree.kind != .mark

def namedChildren (tree : Tree) : List Tree :=
  tree.children.filter isNamed

/-- The first child that plays the given part. -/
def child? (tree : Tree) (role : Role) : Option Tree :=
  tree.children.find? fun child => child.role == role

mutual

/-- The nodes of a tree, parents first and children from left to right. -/
def nodes : Tree → List Tree
  | node kind role start stop children =>
      node kind role start stop children :: nodesOf children

def nodesOf : List Tree → List Tree
  | [] => []
  | tree :: rest => nodes tree ++ nodesOf rest

end

mutual

/-- How many nodes a tree has. -/
def size : Tree → Nat
  | node _ _ _ _ children => sizeOf children + 1

def sizeOf : List Tree → Nat
  | [] => 0
  | tree :: rest => size tree + sizeOf rest

end

theorem size_eq (tree : Tree) : size tree = sizeOf tree.children + 1 := by
  cases tree
  rw [size, children]

theorem sizeOf_append (a b : List Tree) : sizeOf (a ++ b) = sizeOf a + sizeOf b := by
  induction a with
  | nil => simp [sizeOf]
  | cons tree rest ih => simp [sizeOf, ih, Nat.add_assoc]

/-- Visit the nodes of pending trees: take the next tree, put its children in
front of the others. -/
def walk : List Tree → List Tree
  | [] => []
  | tree :: pending => tree :: walk (tree.children ++ pending)
termination_by pending => sizeOf pending
decreasing_by
  rw [sizeOf_append, sizeOf, size_eq]
  omega

theorem nodes_eq (tree : Tree) : nodes tree = tree :: nodesOf tree.children := by
  cases tree
  rw [nodes, children]

theorem nodesOf_append (a b : List Tree) : nodesOf (a ++ b) = nodesOf a ++ nodesOf b := by
  induction a with
  | nil => simp [nodesOf]
  | cons tree rest ih => simp [nodesOf, ih]

theorem walk_eq_nodesOf (pending : List Tree) : walk pending = nodesOf pending := by
  fun_induction walk pending with
  | case1 => rfl
  | case2 tree pending ih => rw [ih, nodesOf_append, nodesOf, nodes_eq, List.cons_append]

theorem walk_singleton (tree : Tree) : walk [tree] = nodes tree := by
  rw [walk_eq_nodesOf, nodesOf, nodesOf, List.append_nil]

/-- The nodes that do not fit the grammar. -/
def isBroken (tree : Tree) : Bool :=
  tree.kind == .broken

end Tree

end CommitLens.Script
