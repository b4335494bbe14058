import CommitLens.Json.Reader
import CommitLens.Session

/-!
# Transcripts

The surroundings of a call as one JSON object: the directory it starts in, the
texts of the files, the directories without files, and the answers of the Git
commands.  A command that is not listed cannot be started.
-/

namespace CommitLens.Transcript

open Json

def textAt (value : Value) (name : String) : String :=
  match value.member? name with
  | some (.text text) => text
  | _ => ""

def itemsAt (value : Value) (name : String) : List Value :=
  match value.member? name with
  | some (.array items) => items
  | _ => []

def texts (values : List Value) : List String :=
  values.filterMap fun
    | .text text => some text
    | _ => none

/-- A command with its exit code, its output and its error output. -/
def readAnswer (value : Value) : List String × CommandOutcome :=
  let code := match value.member? "code" with
    | some (.number (.whole code)) => code
    | _ => 0
  (texts (itemsAt value "arguments"),
    .finished code (textAt value "output") (textAt value "errors"))

def answerOf (answers : List (List String × CommandOutcome)) (arguments : List String) :
    CommandOutcome :=
  match answers.find? fun answer => answer.1 == arguments with
  | some (_, outcome) => outcome
  | none => .notStarted "no such command in the transcript"

def readFiles (value : Value) : FileTree :=
  let tree := (texts (itemsAt value "directories")).foldl
    (fun (tree : FileTree) path => tree.addDirectory (Path.names path)) {}
  match value.member? "files" with
  | some (.object members) => members.foldl (fun tree (path, content) =>
      match content with
      | .text text => tree.addFile (Path.names path) text.toUTF8.toList
      | _ => tree) tree
  | _ => tree

/-- The world of a transcript. -/
def world (value : Value) : World :=
  let answers := (itemsAt value "commands").map readAnswer
  { command := answerOf answers
    files := readFiles value
    directory := textAt value "directory" }

end CommitLens.Transcript
