import CommitLens.Files.Kind

/-!
# Scopes of paths

A coarse label by the place of a file: tests first, then directories with a
meaning of their own, then files of configuration.
-/

namespace CommitLens

inductive Scope where
  | test
  | publicApi
  | internalCode
  | documentation
  | sample
  | configuration
  | unknown
  | other (text : String)
  deriving Repr, BEq, DecidableEq, Inhabited

namespace Scope

def text : Scope → String
  | test => "test"
  | publicApi => "public"
  | internalCode => "internal"
  | documentation => "documentation"
  | sample => "example"
  | configuration => "configuration"
  | unknown => "unknown"
  | other text => text

def ofText : String → Scope
  | "test" => test
  | "public" => publicApi
  | "internal" => internalCode
  | "documentation" => documentation
  | "example" => sample
  | "configuration" => configuration
  | "unknown" => unknown
  | text => other text

end Scope

namespace Path

/-- The tokens of a path, cut at slashes, dots, underscores and hyphens. -/
def tokens (cs : List Char) : List (List Char) :=
  Text.splitOnChar '/' (cs.map fun c => if c = '.' || c = '_' || c = '-' then '/' else c)

def isTestToken (token : List Char) : Bool :=
  ["test", "tests", "spec", "specs"].any fun word => token == word.toList

/-- Is a token of the path a word for tests?  A line feed at the end does not
count. -/
def hasTestToken (cs : List Char) : Bool :=
  (tokens cs).any isTestToken ||
    (cs.getLast? == some '\n' && (tokens cs.dropLast).any isTestToken)

/-- A path in lower case with one slash in front. -/
def lowered (path : String) : String :=
  String.ofList ('/' :: (Text.lower path).toList.dropWhile (· == '/'))

end Path

/-- The label of a path, the first that applies. -/
def Scope.ofPath (path : String) : Scope :=
  let path := Path.lowered path
  let within (directories : List String) : Bool := directories.any (Text.containsText path)
  if Path.hasTestToken path.toList then test
  else if within ["/src/api/", "/src/public/"] then publicApi
  else if within ["/src/internal/", "/src/core/"] then internalCode
  else if within ["/docs/"] then documentation
  else if within ["/example/", "/examples/"] then sample
  else if ["package.json", ".gitignore", "tsconfig.json", "pyproject.toml", "setup.cfg"].contains
      (Path.fileName path) || within ["/config/"] then configuration
  else unknown

end CommitLens
