import CommitLens.Files.Kind

/-!
# Tests and what they test

Guesses from the naming of files: where the tests of a file would be, and which
file a test is for.  Nothing is looked up.
-/

namespace CommitLens.Path

/-- A file name without its extension. -/
def stem (parts : Parts) : String :=
  let name := parts.fileName.toList
  String.ofList (name.take (name.length - parts.extension.length))

/-- Replace the first `.spec.` or `.test.` by a dot. -/
def dropTestInfix : List Char → List Char
  | [] => []
  | c :: cs =>
      if ".spec.".toList.isPrefixOf (c :: cs) || ".test.".toList.isPrefixOf (c :: cs) then
        '.' :: cs.drop 5
      else c :: dropTestInfix cs

/-- The module that a test module is for. -/
def testedModule (stem : String) : String :=
  let cs := stem.toList
  if "test_".toList.isPrefixOf cs then String.ofList (cs.drop 5)
  else String.ofList (cs.take (cs.length - 5))

/-- The files that a path is related to by its name. -/
def counterparts (path : String) : List String :=
  let parts := Path.parts path
  let name := stem parts
  if isTestName parts.fileName then
    if parts.extension == ".py" then [join parts.directory (testedModule name ++ ".py")]
    else [String.ofList (dropTestInfix path.toList)]
  else if [".ts", ".tsx", ".js", ".jsx", ".mjs", ".cjs"].contains parts.extension then
    [parts.directory, "tests/unit"].flatMap fun directory =>
      [".spec", ".test"].map fun mark => join directory (name ++ mark ++ parts.extension)
  else if parts.extension == ".py" then
    [parts.directory, "tests", "tests/unit"].map fun directory =>
      join directory ("test_" ++ name ++ ".py")
  else []

end CommitLens.Path
