import CommitLens.Script.Statements

/-!
# Programs

The rules for nested syntax are tied together level by level: the grammar of
level zero reads nothing, each further level may nest once more.  A program is
read statement by statement; where a statement does not fit the grammar the
rest of the text is one broken node.
-/

namespace CommitLens.Script

open Rule

def Grammar.next (g : Grammar) : Grammar where
  expression := expressionRule g
  chain := chainRule g false
  primary := primaryRule g false
  pattern := patternRule g
  statement := statementRule g
  type := typeRule g
  element := elementRule g

/-- The grammar whose syntax nests up to a depth. -/
def Grammar.ofDepth (depth : Nat) : Grammar :=
  Nat.repeat Grammar.next depth .empty

/-- The statements from a cursor on, the last of them broken if it does not fit
the grammar. -/
def statementsFrom (g : Grammar) (src : Source) : Nat → Cursor → List Tree
  | 0, _ => []
  | fuel + 1, c =>
      match skipMarkupComments src c with
      | none => []
      | some (_, c) =>
          if src.isEnd c.here then []
          else match g.statement src c with
            | some (trees, next) => trees ++ statementsFrom g src fuel next
            | none => [.leaf .broken c.here src.chars.size]

/-- A first line that names an interpreter is no part of the program. -/
def programStart (src : Source) : Nat :=
  if src.has 0 "#!" then src.skipWhile (!isLineStop ·) 0 else 0

mutual

/-- Put the comments between the children of every node. -/
def withComments (src : Source) : Tree → Tree
  | .node kind role start stop children =>
      .node kind role start stop (weaveComments src none children)

def weaveComments (src : Source) (before : Option Nat) : List Tree → List Tree
  | [] => []
  | tree :: rest =>
      let comments := (before.map fun stop => commentsOfGap src stop tree.start).getD []
      comments ++ withComments src tree :: weaveComments src (some tree.stop) rest

end

/-- Nested syntax takes at least a character a level. -/
def nestingDepth (src : Source) : Nat :=
  4 * src.chars.size + 16

/-- The syntax tree of a text. -/
def parse (src : Source) : Tree :=
  let start : Cursor := .afterToken src (programStart src)
  let statements := statementsFrom (.ofDepth (nestingDepth src)) src (src.left 0) start
  withComments src (.node .program .plain 0 src.chars.size statements)

/-- The line of the first broken node, if there is one. -/
def firstBrokenLine? (src : Source) (tree : Tree) : Option Nat :=
  ((Tree.walk [tree]).find? Tree.isBroken).map fun broken => src.lineOf broken.start

end CommitLens.Script
