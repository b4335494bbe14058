import CommitLens.Files.Path
import CommitLens.Surface

/-!
# Resolving imports

An import names a module; the rules here say which file of the known ones that
is, and which path it is taken for when none of them fits.
-/

namespace CommitLens

namespace Resolve

def scriptExtensions : List String := [".ts", ".tsx", ".js", ".jsx", ".mjs", ".cjs"]

/-- Extensions of importing files whose imports are taken for typed ones. -/
def typedExtensions : List String := [".ts", ".tsx", ".mts", ".cts"]

/-- The first of the candidates that is known. -/
def firstKnown? (known candidates : List String) : Option String :=
  candidates.find? known.contains

/-- What a script path stands for.  Typed sources are imported under the name of
the script they become, and an extension or an index file may be left out. -/
def scriptPath (base importerExtension : String) (known : List String) : String :=
  let (stem, extension) := Path.splitExtension base
  if scriptExtensions.contains extension then
    (firstKnown? known [base, stem ++ ".ts", stem ++ ".tsx"]).getD base
  else
    let candidates := (importerExtension :: scriptExtensions).map (base ++ ·) ++
      [base ++ "/index.ts", base ++ "/index.js"]
    (firstKnown? known candidates).getD
      (base ++ if typedExtensions.contains importerExtension then ".ts" else ".js")

/-- An import of a script: packages keep their names. -/
def scriptImport (source specifier : String) (known : List String) : String :=
  if specifier.startsWith "." then
    scriptPath (Path.normalize (Path.join (Path.directory source) specifier))
      (Path.splitExtension source).2 known
  else specifier

/-- The first known path, in the order of the paths, that is the candidate or
ends with it below some directory. -/
def knownBelow? (known : List String) (candidate : String) : Option String :=
  (known.mergeSort fun a b => a ≤ b).find? fun path =>
    path == candidate || path.endsWith ("/" ++ candidate)

/-- The package that a number of leading dots stands for. -/
def packageAbove (source : String) : Nat → String
  | 0 => Path.directory source
  | levels + 1 => Path.directory (packageAbove source levels)

def modulePath (module : String) : String :=
  module.map fun c => if c == '.' then '/' else c

/-- An import of a module with dotted name; leading dots make it relative to the
package of the importing file. -/
def dottedImport (source : String) (ref : ImportRef) (known : List String) : String :=
  let level := (ref.specifier.toList.takeWhile (· == '.')).length
  let module := String.ofList (ref.specifier.toList.drop level)
  if level == 0 then
    let path := modulePath module
    match knownBelow? known (path ++ ".py") with
    | some found => found
    | none => (knownBelow? known (path ++ "/__init__.py")).getD module
  else
    let package := packageAbove source (level - 1)
    if module.isEmpty then
      (firstKnown? known (ref.symbols.map fun symbol => Path.join package (symbol ++ ".py"))).getD
        (Path.join package "__init__.py")
    else
      let base := Path.join package (modulePath module)
      (firstKnown? known [base ++ ".py", base ++ "/__init__.py"]).getD (base ++ ".py")

end Resolve

/-- The repository path that an import means, or its specifier if it names a
package from elsewhere. -/
def resolveImport (source : String) (ref : ImportRef) (known : List String) : String :=
  if source.endsWith ".py" then Resolve.dottedImport source ref known
  else Resolve.scriptImport source ref.specifier known

end CommitLens
