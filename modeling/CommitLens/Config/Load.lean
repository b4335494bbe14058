import CommitLens.Config.Read
import CommitLens.Session

/-!
# Rules files

Reading a rules file, which may fail, and loading one, which falls back on the
defaults.
-/

namespace CommitLens

def configFileName : String := ".diffsense.yml"

/-- What a new rules file says. -/
def configTemplate : String :=
  Text.join "\n" [
    "# DiffSense rules configuration.",
    "#",
    "# Rules are evaluated in order. Every applying rule id is recorded and the",
    "# last applying rule with a type decides the commit type.",
    "rules:",
    "  - id: default-test",
    "    match: \"**/*.\x7bspec,test\x7d.\x7bts,js\x7d\"",
    "    type: test",
    "  - id: default-docs",
    "    match: \"**/*.md\"",
    "    type: docs",
    "#  - id: api-breaking",
    "#    match_path: src/api/",
    "#    heuristics:",
    "#      - if: containsBreakingChange",
    "#    type: feat",
    "#    reason: Public API changes",
    "",
    "# Globs of paths skipped before analysis, and of the only paths analyzed.",
    "exclude_paths: []",
    "include_only: []",
    "",
    "# Additional commit types rules may use.",
    "commit_types: []",
    "",
    "# Scoring weight overrides, for example:",
    "# scoring:",
    "#   breaking: 10",
    "#   file_type:",
    "#     test: 0.5",
    ""]

/-- The value of a rules file. -/
def readData (path : String) : Session ConfigFailure Yaml.Value := do
  let world ← Session.world
  let fileName := Path.lastName path
  let unreadable : Session ConfigFailure Yaml.Value := do
    Session.log .error "Failed to read or parse configuration file:"
    throw (.rejected (.unreadable fileName))
  if !world.isPresent path then throw (.rejected (.missing path))
  match world.readText path with
  | .error _ => unreadable
  | .ok text =>
      match Yaml.readDocument text with
      | .error .malformed => unreadable
      | .error fault => throw (.scalar fault)
      | .ok .null => throw (.rejected (.empty fileName))
      | .ok data => return data

/-- The configuration in a rules file. -/
def readConfig (path : String) : Session ConfigFailure Config := do
  let data ← readData path
  for notice in configNotices data do
    Session.log .warning notice
  Session.ofExcept (parseConfig data (some path))

/-- The configuration in a rules file, or the defaults if it is rejected. -/
def loadFile (path : String) (explicit : Bool) : Session ConfigFailure Config := do
  match ← Session.attempt (readConfig path) with
  | .ok config => return config
  | .error (.rejected error) =>
      Session.log .warning
        (if explicit then "Falling back to default rules: " ++ error.message
        else "Ignoring invalid " ++ Path.lastName path ++ ", using default rules: " ++
          error.message)
      return { loadError := some error.message }
  | .error failure => throw failure

/-- The configuration of a repository: that of the given file, or that of the
rules file at its root if there is one. -/
def loadConfig (root : String) (path? : Option String) : Session ConfigFailure Config := do
  match path? with
  | some path => loadFile path true
  | none =>
      let path := Path.below root configFileName
      if (← Session.world).isPresent path then loadFile path false
      else return {}

end CommitLens
