import CommitLens.Text.Blank

/-!
# Paths

Slash-separated paths as texts: taking them apart, joining them and making
them normal.  Nothing here looks at a file system.
-/

namespace CommitLens.Path

/-- The part of a list after the last occurrence of a character, and the part
before it with that character. -/
def cutAfterLast (mark : Char) (cs : List Char) : List Char × List Char :=
  let tail := (cs.reverse.takeWhile (· != mark)).reverse
  (cs.take (cs.length - tail.length), tail)

theorem cutAfterLast_append (mark : Char) (cs : List Char) :
    (cutAfterLast mark cs).1 ++ (cutAfterLast mark cs).2 = cs := by
  have key : ∀ (p : Char → Bool) (l : List Char),
      l.take (l.length - (l.reverse.takeWhile p).reverse.length) ++
        (l.reverse.takeWhile p).reverse = l := by
    intro p l
    have split := List.takeWhile_append_dropWhile (p := p) (l := l.reverse)
    have whole : l = (l.reverse.dropWhile p).reverse ++ (l.reverse.takeWhile p).reverse := by
      rw [← List.reverse_append, split, List.reverse_reverse]
    have count : l.length =
        (l.reverse.dropWhile p).length + (l.reverse.takeWhile p).length := by
      have := congrArg List.length whole
      simpa using this
    rw [List.length_reverse, count, Nat.add_sub_cancel]
    conv => lhs; lhs; rw [whole]
    rw [List.take_left' (by simp), ← whole]
  exact key _ cs

/-- The directory of a path, without slashes at its end unless it has nothing
else. -/
def directory (path : String) : String :=
  let head := (cutAfterLast '/' path.toList).1
  let trimmed := (head.reverse.dropWhile (· == '/')).reverse
  String.ofList (if trimmed.isEmpty then head else trimmed)

/-- The last part of a path. -/
def fileName (path : String) : String :=
  String.ofList (cutAfterLast '/' path.toList).2

/-- A path without its extension, and the extension with its dot.  Dots that
open a file name start no extension. -/
def splitExtension (path : String) : String × String :=
  let (head, name) := cutAfterLast '/' path.toList
  let (stem, extension) := cutAfterLast '.' name
  if stem.all (· == '.') then (path, "")
  else (String.ofList (head ++ stem.dropLast), String.ofList ('.' :: extension))

def join (base path : String) : String :=
  if path.startsWith "/" then path
  else if base.isEmpty || base.endsWith "/" then base ++ path
  else base ++ "/" ++ path

/-- Resolve empty parts, `.` and `..`; the parts so far are in reverse order. -/
def normalParts (rooted : Bool) : List String → List String → List String
  | done, [] => done.reverse
  | done, part :: rest =>
      if part.isEmpty || part == "." then normalParts rooted done rest
      else if part != ".." then normalParts rooted (part :: done) rest
      else match done with
        | [] => normalParts rooted (if rooted then [] else [part]) rest
        | last :: more =>
            normalParts rooted (if last == ".." then part :: done else more) rest

/-- The shortest path with the same meaning; two slashes in front are kept. -/
def normalize (path : String) : String :=
  let slashes := (path.toList.takeWhile (· == '/')).length
  let root := if slashes == 0 then "" else if slashes == 2 then "//" else "/"
  let body := Text.join "/" (normalParts (slashes != 0) [] (Text.split '/' path))
  let whole := root ++ body
  if whole.isEmpty then "." else whole

end CommitLens.Path
