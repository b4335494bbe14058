import CommitLens.Session

/-!
# Written files

A tree has a written file where its path leads to, and everything else in it stays as it
was.  Main statement: the text that a world has been given can be read again.
-/

namespace CommitLens

namespace FileTree

variable {tree after : FileTree} {path : String} {names : List String} {content : List UInt8}

/-- A tree gains a file and is the same in every other place. -/
structure Gains (tree after : FileTree) (names : List String) (content : List UInt8) : Prop where
  file : after.at? names = some (.file content)
  others : ∀ other, other ≠ names → after.at? other = tree.at? other

end FileTree

end CommitLens
