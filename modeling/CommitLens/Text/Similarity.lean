import CommitLens.Text.Blank

/-!
# Similar words

Two words are as similar as the share of their characters that lies in common
blocks: the longest common block, and what is common before and behind it.
-/

namespace CommitLens.Text

/-- How many characters two words begin with in common. -/
def commonStart : List Char → List Char → Nat
  | a :: as, b :: bs => if a == b then commonStart as bs + 1 else 0
  | _, _ => 0

/-- Where the longest common block starts in both words, and how long it is; the
first one of those. -/
def longestBlock (a b : List Char) : Nat × Nat × Nat :=
  (List.range a.length).foldl (fun best i =>
    (List.range b.length).foldl (fun best j =>
      let size := commonStart (a.drop i) (b.drop j)
      if best.2.2 < size then (i, j, size) else best) best) (0, 0, 0)

/-- How many characters lie in common blocks.  The first argument bounds the
number of blocks. -/
def commonCount : Nat → List Char → List Char → Nat
  | 0, _, _ => 0
  | fuel + 1, a, b =>
      let (i, j, size) := longestBlock a b
      if size == 0 then 0
      else commonCount fuel (a.take i) (b.take j) + size +
        commonCount fuel (a.drop (i + size)) (b.drop (j + size))

/-- Common characters and all characters of two words, those of both words
counted. -/
def similarity (a b : String) : Nat × Nat :=
  (2 * commonCount (a.length + 1) a.toList b.toList, a.length + b.length)

/-- The words that are similar to another one by three fifths or more, three at
most and the most similar ones first. -/
def similarWords (word : String) (candidates : List String) : List String :=
  let rated := (candidates.map fun other => (similarity other word, other)).filter
    fun ((common, all), _) => 3 * all ≤ 5 * common
  let ranked := rated.mergeSort fun ((c, n), a) ((c', n'), b) =>
    c' * n < c * n' || (c' * n == c * n' && b ≤ a)
  (ranked.take 3).map (·.2)

end CommitLens.Text
