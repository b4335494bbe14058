import CommitLens.Files.Path
import CommitLens.Text.Utf8

/-!
# File trees

The files and directories below the root `/`, and what it means to look at a
path or to read it.  Paths are made of the names between their slashes.
-/

namespace CommitLens

inductive FileEntry where
  | file (content : List UInt8)
  | directory
  deriving Repr, BEq, DecidableEq, Inhabited

/-- Every file and directory by the names on the way to it. -/
structure FileTree where
  entries : List (List String × FileEntry) := []
  deriving Repr, Inhabited

/-- Why a path cannot be opened. -/
inductive FileFault where
  | missing
  | notADirectory
  | isADirectory
  deriving Repr, BEq, DecidableEq

namespace FileFault

def number : FileFault → Nat
  | missing => 2
  | notADirectory => 20
  | isADirectory => 21

def text : FileFault → String
  | missing => "No such file or directory"
  | notADirectory => "Not a directory"
  | isADirectory => "Is a directory"

/-- The whole message about a path. -/
def message (fault : FileFault) (path : String) : String :=
  "[Errno " ++ toString fault.number ++ "] " ++ fault.text ++ ": " ++ Text.quoted path

end FileFault

/-! ## Texts of paths -/

namespace Path

/-- The names of a path; empty ones and `.` do not count. -/
def names (path : String) : List String :=
  (Text.split '/' path).filter fun name => !name.isEmpty && name != "."

/-- A path without idle parts. -/
def tidy (path : String) : String :=
  let body := Text.join "/" (names path)
  if path.startsWith "/" then
    (if path.startsWith "//" && !path.startsWith "///" then "//" else "/") ++ body
  else if body.isEmpty then "." else body

/-- The absolute path through directories with the given names. -/
def ofNames (names : List String) : String :=
  "/" ++ Text.join "/" names

/-- The last name of a tidy path, nothing for the directory itself. -/
def lastName (path : String) : String :=
  if path == "." then "" else fileName path

/-- The directory that a tidy path lies in. -/
def parent (path : String) : String :=
  let above := directory path
  if above.isEmpty then "." else above

/-- A path below a directory; an absolute one stays as it is. -/
def below (directory path : String) : String :=
  tidy (if path.isEmpty then directory else join directory path)

end Path

namespace FileTree

/-- The entry at names from the root on. -/
def at? (tree : FileTree) (names : List String) : Option FileEntry :=
  if names.isEmpty then some .directory
  else (tree.entries.find? fun entry => entry.1 == names).map (·.2)

/-- Follow names from a directory; `done` is the way to it, last name first. -/
def follow (tree : FileTree) : List String → List String → Except FileFault (List String)
  | done, [] => .ok done.reverse
  | done, name :: rest =>
      match tree.at? done.reverse with
      | none => .error .missing
      | some (.file _) => .error .notADirectory
      | some .directory =>
          if name == ".." then follow tree (done.drop 1) rest
          else follow tree (name :: done) rest

/-- The entry of an absolute path. -/
def look (tree : FileTree) (path : String) : Except FileFault (List String × FileEntry) := do
  let names ← tree.follow [] (Path.names path)
  match tree.at? names with
  | some entry => return (names, entry)
  | none => throw .missing

def isPresent (tree : FileTree) (path : String) : Bool :=
  (tree.look path).isOk

def read (tree : FileTree) (path : String) : Except FileFault (List UInt8) := do
  match ← tree.look path with
  | (_, .file content) => return content
  | (_, .directory) => throw .isADirectory

/-- Write a file, new or not; its directory must be there. -/
def write (tree : FileTree) (path : String) (content : List UInt8) :
    Except FileFault (List String × FileTree) := do
  let names ← tree.follow [] (Path.names path)
  match tree.at? names with
  | some .directory => throw .isADirectory
  | _ =>
      let others := tree.entries.filter fun entry => entry.1 != names
      return (names, ⟨others ++ [(names, .file content)]⟩)

/-- Add a directory with those above it. -/
def addDirectory (tree : FileTree) (names : List String) : FileTree :=
  (List.range (names.length + 1)).foldl (fun tree count =>
    let way := names.take count
    if (tree.at? way).isSome then tree
    else ⟨tree.entries ++ [(way, .directory)]⟩) tree

/-- Add a file with the directories above it. -/
def addFile (tree : FileTree) (names : List String) (content : List UInt8) : FileTree :=
  let tree := tree.addDirectory names.dropLast
  ⟨(tree.entries.filter fun entry => entry.1 != names) ++ [(names, .file content)]⟩

/-- The real way to a path: parts are resolved as far as they exist. -/
def resolve (path : String) : List String :=
  (Path.names path).foldl (fun done name =>
    if name == ".." then done.dropLast else done ++ [name]) []

end FileTree

/-- Why a file is not read as text. -/
inductive ReadFault where
  | file (fault : FileFault) (path : String)
  | text (fault : Text.Utf8Fault)
  deriving Repr, BEq, DecidableEq

def ReadFault.message : ReadFault → String
  | file fault path => fault.message path
  | text fault => fault.message

end CommitLens
