import CommitLens.Files.Kind
import CommitLens.Python.Surface
import CommitLens.Script.Surface

/-!
# Languages

The extension of a path tells the language of its text.  Only the last
characters of the path count, so a bare `.ts` is a script too.
-/

namespace CommitLens

inductive Language where
  | python
  | script (dialect : Script.Dialect)
  deriving Repr, BEq, DecidableEq

def Language.ofPath? (path : String) : Option Language :=
  let path := Text.lower path
  let ends (extensions : List String) : Bool := extensions.any fun last => path.endsWith last
  if ends [".py"] then some .python
  else if ends [".ts", ".mts", ".cts"] then some (.script .typed)
  else if ends [".tsx"] then some (.script .typedMarkup)
  else if ends [".js", ".jsx", ".mjs", ".cjs"] then some (.script .untyped)
  else none

def isCodePath (path : String) : Bool :=
  (Language.ofPath? path).isSome

/-- The surface of a source text in the language of its path. -/
def parseSource (path content : String) : Except ParseError Surface :=
  match Language.ofPath? path with
  | none => .error ⟨path, "no parser for this file type"⟩
  | some .python =>
      match Python.parseSurface content with
      | .ok surface => .ok surface
      | .error error => .error ⟨path, error.reason⟩
  | some (.script dialect) =>
      match Script.parseSurface dialect content with
      | .ok surface => .ok surface
      | .error line => .error ⟨path, "syntax error near line " ++ toString line⟩

/-- A label for a module by the kinds of its declarations. -/
def describeModule (path : String) (surface : Surface) (content : String) : String :=
  let name := Path.fileName path
  let lowered := Text.lower name
  let hasCode := !surface.classes.isEmpty || !surface.functions.isEmpty
  if Path.isTestName name then "test file"
  else if !surface.interfaces.isEmpty && !hasCode then "interface definition"
  else if !surface.typeAliases.isEmpty && !hasCode then "type definition"
  else if !surface.enums.isEmpty && !hasCode then "enum definition"
  else if !surface.classes.isEmpty then "class module"
  else if !surface.functions.isEmpty then "function module"
  else if (lowered.endsWith ".tsx" || lowered.endsWith ".jsx") &&
      (surface.hasMarkup || Text.containsText content "React") then "React component"
  else "module"

end CommitLens
