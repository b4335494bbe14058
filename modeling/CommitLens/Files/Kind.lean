import CommitLens.Files.Path
import CommitLens.Text.LowerCase

/-!
# Kinds of files

What a file is follows from its name: first the naming of tests, then its
extension.
-/

namespace CommitLens

inductive FileKind where
  | script
  | markup
  | style
  | config
  | doc
  | image
  | test
  | unknown
  | other (text : String)
  deriving Repr, BEq, DecidableEq, Inhabited

def FileKind.text : FileKind → String
  | script => "script"
  | markup => "markup"
  | style => "style"
  | config => "config"
  | doc => "doc"
  | image => "image"
  | test => "test"
  | unknown => "unknown"
  | other text => text

def FileKind.ofText : String → FileKind
  | "script" => script
  | "markup" => markup
  | "style" => style
  | "config" => config
  | "doc" => doc
  | "image" => image
  | "test" => test
  | "unknown" => unknown
  | text => other text

namespace Path

/-- The extension of a file name in lower case. -/
def extension (name : String) : String :=
  Text.lower (splitExtension name).2

structure Parts where
  directory : String
  fileName : String
  extension : String
  deriving Repr, BEq, DecidableEq

def parts (path : String) : Parts :=
  let name := fileName path
  ⟨directory path, name, extension name⟩

/-- `….test.x` and `….spec.x`, where `x` has no dot. -/
def hasTestInfix (cs : List Char) : Bool :=
  let (stem, last) := cutAfterLast '.' cs
  !last.isEmpty &&
    (".test.".toList.isSuffixOf stem || ".spec.".toList.isSuffixOf stem)

/-- `test_….py` and `…_test.py`, on one line. -/
def isScriptTest (cs : List Char) : Bool :=
  !cs.contains '\n' &&
    (("test_".toList.isPrefixOf cs && ".py".toList.isSuffixOf cs && 9 ≤ cs.length) ||
      ("_test.py".toList.isSuffixOf cs && 9 ≤ cs.length))

/-- Is the file a test by its name?  A line feed at the end does not count. -/
def isTestName (name : String) : Bool :=
  let cs := name.toList
  hasTestInfix cs || isScriptTest cs ||
    (cs.getLast? == some '\n' && isScriptTest cs.dropLast)

def isBinaryExtension (extension : String) : Bool :=
  [".png", ".jpg", ".jpeg", ".gif", ".ico", ".pdf", ".zip", ".exe"].contains extension

def isBinary (path : String) : Bool :=
  isBinaryExtension (parts path).extension

end Path

def FileKind.ofExtension (extension : String) : FileKind :=
  if [".js", ".ts", ".jsx", ".tsx", ".mjs", ".cjs", ".py"].contains extension then script
  else if [".html", ".vue", ".svelte"].contains extension then markup
  else if [".css", ".scss", ".less", ".sass"].contains extension then style
  else if [".json", ".yaml", ".yml", ".xml", ".toml"].contains extension then config
  else if [".md", ".txt", ".rst"].contains extension then doc
  else if [".png", ".jpg", ".jpeg", ".gif", ".svg", ".ico"].contains extension then image
  else unknown

def FileKind.ofPath (path : String) : FileKind :=
  let parts := Path.parts path
  if Path.isTestName parts.fileName then test else ofExtension parts.extension

end CommitLens
