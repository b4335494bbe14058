import CommitLens.Config.Basic

/-!
# Reading configurations

From the value of a rules file to a configuration.  The parts of the file are
checked in a fixed order, and the first fault is the one that is reported.
-/

namespace CommitLens

open Yaml (Value)

/-! ## Order of keys -/

namespace Yaml.Value

/-- The word for the kind of a value in messages. -/
def kindWord : Value → String
  | null => "NoneType"
  | bool _ => "bool"
  | number (.whole _) => "int"
  | number (.real _) => "float"
  | text _ => "str"
  | bytes _ => "bytes"
  | date _ => "datetime.date"
  | time _ => "datetime.datetime"
  | list _ => "list"
  | mapping _ => "dict"
  | set _ => "set"
  | pair _ _ => "tuple"

/-- Does a key come before another one?  Not all kinds of keys can be
compared. -/
def before? (a b : Value) : Option Bool :=
  match asNumber? a, asNumber? b with
  | some (.whole m), some (.whole n) => some (m < n)
  | some m, some n => some (m.toReal < n.toReal)
  | _, _ =>
      match a, b with
      | text s, text t => some (s < t)
      | bytes s, bytes t => some (s < t)
      | date d, date e => some (d.shown < e.shown)
      | time s, time t => if s.offset.isSome == t.offset.isSome then some (s.shown < t.shown)
          else none
      | _, _ => none

end Yaml.Value

/-- Two keys in a row that cannot be compared, the later one first. -/
def incomparable? : List Value → Option (Value × Value)
  | a :: b :: rest =>
      if (Value.before? b a).isNone then some (b, a) else incomparable? (b :: rest)
  | _ => none

/-- Keys in their order. -/
def sortKeys (keys : List Value) : Except ConfigFailure (List Value) :=
  match incomparable? keys with
  | some (a, b) => .error (.unordered a.kindWord b.kindWord)
  | none => .ok (keys.mergeSort fun a b => Value.before? b a != some true)

/-- The keys of a mapping that are not among the known ones, in order. -/
def unknownKeys (known : List String) (entries : List (Value × Value)) :
    Except ConfigFailure (List Value) :=
  sortKeys ((entries.map (·.1)).filter fun
    | .text key => !known.contains key
    | _ => true)

/-- A key as it stands in messages.  A whole number is not written if it has too
many digits. -/
def showKey (key : Value) : Except ConfigFailure String :=
  match key with
  | .number (.whole n) =>
      if Nat.pow 10 Yaml.digitLimit ≤ n.natAbs then .error (.scalar .tooLongToWrite)
      else .ok key.shown
  | _ => .ok key.shown

/-! ## Rules -/

def reject {α : Type} (error : ConfigError) : Except ConfigFailure α :=
  .error (.rejected error)

/-- A text that may be missing. -/
def optionalText (entries : List (Value × Value)) (key rule : String) :
    Except ConfigFailure (Option String) :=
  match Yaml.entry? entries key with
  | none | some .null => .ok none
  | some (.text s) => .ok (some s)
  | some _ => reject (.notAText rule key)

/-- The texts of a list, if it has nothing else. -/
def texts? (items : List Value) : Option (List String) :=
  items.mapM fun
    | .text s => some s
    | _ => none

/-- A list of texts, empty if it is missing. -/
def textList (value : Option Value) (key : String) : Except ConfigFailure (List String) :=
  match value with
  | none | some .null => .ok []
  | some (.list items) =>
      match texts? items with
      | some texts => .ok texts
      | none => reject (.notTexts key)
  | some _ => reject (.notTexts key)

/-- A heuristic: a text, or a mapping with a text behind `if`. -/
def readHeuristic (rule : String) : Value → Except ConfigFailure String
  | .text name => .ok name
  | .mapping entries =>
      match Yaml.entry? entries "if" with
      | some (.text name) => .ok name
      | _ => reject (.badHeuristic rule)
  | _ => reject (.badHeuristic rule)

def readHeuristics (value : Option Value) (rule : String) : Except ConfigFailure (List String) :=
  match value with
  | none | some .null => .ok []
  | some (.list items) => items.mapM (readHeuristic rule)
  | some _ => reject (.heuristicsNotAList rule)

def ruleKeys : List String :=
  ["id", "match", "match_path", "match_ast", "type", "reason", "heuristics"]

/-- The identifier of a rule, if it has one that is not blank. -/
def ruleId? (entries : List (Value × Value)) : Option String :=
  match Yaml.entry? entries "id" with
  | some (.text id) => if Text.isAllBlank id then none else some id
  | _ => none

/-- The commit type of a rule must be a known one. -/
def readType (entries : List (Value × Value)) (rule : String) (known : List String) :
    Except ConfigFailure (Option String) := do
  let commitType ← optionalText entries "type" rule
  match commitType with
  | none => return none
  | some name =>
      if known.contains name then return some name else reject (.unknownType rule name known)

/-- The rule in an entry of the list of rules. -/
def readRule (commitTypes : List String) (index : Nat) (entry : Value) :
    Except ConfigFailure Rule :=
  match entry with
  | .mapping entries =>
      match ruleId? entries with
      | none => reject (.ruleWithoutId (index + 1))
      | some id => do
          let unknown ← unknownKeys ruleKeys entries
          let _ ← unknown.mapM showKey
          let commitType ← readType entries id commitTypes
          let pattern ← optionalText entries "match" id
          let pathPart ← optionalText entries "match_path" id
          let deltaPart ← optionalText entries "match_ast" id
          let reason ← optionalText entries "reason" id
          let heuristics ← readHeuristics (Yaml.entry? entries "heuristics") id
          return { id, pattern, pathPart, deltaPart, commitType, reason, heuristics }
  | _ => reject (.ruleNotAMapping (index + 1))

def readRulesFrom (commitTypes : List String) : Nat → List Value → Except ConfigFailure (List Rule)
  | _, [] => .ok []
  | index, entry :: rest => do
      let rule ← readRule commitTypes index entry
      let rules ← readRulesFrom commitTypes (index + 1) rest
      return rule :: rules

/-- The first text that stands in a list twice. -/
def repeated? : List String → List String → Option String
  | _, [] => none
  | seen, item :: rest => if seen.contains item then some item else repeated? (item :: seen) rest

/-- The rules of a configuration; no two rules share an identifier. -/
def readRules (value : Option Value) (commitTypes : List String) :
    Except ConfigFailure (List Rule) :=
  match value with
  | none | some .null => .ok defaultRules
  | some (.list items) => do
      let rules ← readRulesFrom commitTypes 0 items
      match repeated? [] (rules.map (·.id)) with
      | some id => reject (.duplicateRule id)
      | none => return rules
  | some _ => reject .rulesNotAList

/-! ## Weights -/

/-- A number as a weight. -/
def weightOf (n : Number Float) : Except ConfigFailure Float :=
  match n with
  | .real x => .ok x
  | .whole n =>
      match Decimal.floatOfInt? n with
      | some x => .ok x
      | none => .error .tooLarge

/-- The entries of a table, if they map texts to numbers. -/
def tableEntries? (entries : List (Value × Value)) : Option (List (String × Number Float)) :=
  entries.mapM fun
    | (.text key, .number n) => some (key, n)
    | _ => none

def readSetting (key : Value) (value : Value) :
    Except ConfigFailure (WeightSetting Float Float) :=
  let name := key.shown
  match key, WeightName.ofText? name, TableName.ofText? name with
  | .text _, some weight, _ =>
      match value with
      | .number n => do return .weight weight (← weightOf n)
      | _ => reject (.weightNotANumber name)
  | .text _, none, some table =>
      match value with
      | .mapping entries =>
          match tableEntries? entries with
          | some numbers => do
              return .table table (← numbers.mapM fun (key, n) => do return (key, ← weightOf n))
          | none => reject (.tableNotOfNumbers name)
      | _ => reject (.tableNotOfNumbers name)
  | _, _, _ => do reject (.unknownWeight (← showKey key))

def readScoring (value : Option Value) : Except ConfigFailure (List (WeightSetting Float Float)) :=
  match value with
  | none | some .null => .ok []
  | some (.mapping entries) => entries.mapM fun (key, value) => readSetting key value
  | some _ => reject .scoringNotAMapping

/-! ## Configurations -/

def topLevelKeys : List String :=
  ["rules", "exclude_paths", "include_only", "commit_types", "scoring"]

/-- The entries of a configuration; a list stands for its rules. -/
def topLevel : Value → Except ConfigFailure (List (Value × Value))
  | .list items => .ok [(.text "rules", .list items)]
  | .mapping entries => do
      let unknown ← unknownKeys topLevelKeys entries
      if unknown.isEmpty then return entries
      else reject (.unknownKeys (← unknown.mapM showKey))
  | _ => reject .notAConfiguration

/-- The built-in commit types and those that a configuration adds. -/
def readCommitTypes (entries : List (Value × Value)) : Except ConfigFailure (List String) := do
  let extra ← textList (Yaml.entry? entries "commit_types") "commit_types"
  return builtinCommitTypes ++ extra.filter fun name => !builtinCommitTypes.contains name

/-- The configuration in the value of a rules file. -/
def parseConfig (data : Value) (source : Option String := none) : Except ConfigFailure Config := do
  let entries ← topLevel data
  let commitTypes ← readCommitTypes entries
  let rules ← readRules (Yaml.entry? entries "rules") commitTypes
  let excludePaths ← textList (Yaml.entry? entries "exclude_paths") "exclude_paths"
  let includeOnly ← textList (Yaml.entry? entries "include_only") "include_only"
  let scoring ← readScoring (Yaml.entry? entries "scoring")
  return { rules, excludePaths, includeOnly, commitTypes, scoring, source }

/-! ## Keys that are passed over -/

/-- What is said about the unknown keys of a rule. -/
def ruleNotice (entry : Value) : List String :=
  match entry with
  | .mapping entries =>
      match ruleId? entries, unknownKeys ruleKeys entries >>= List.mapM showKey with
      | some id, .ok (key :: keys) =>
          ["Ignoring unknown keys in rule '" ++ id ++ "': " ++ Text.join ", " (key :: keys)]
      | _, _ => []
  | _ => []

/-- The notices on rules up to the first one that is rejected. -/
def ruleNotices (commitTypes : List String) : Nat → List Value → List String
  | _, [] => []
  | index, entry :: rest =>
      ruleNotice entry ++
        match readRule commitTypes index entry with
        | .ok _ => ruleNotices commitTypes (index + 1) rest
        | .error _ => []

/-- What is said about a configuration while it is read. -/
def configNotices (data : Value) : List String :=
  match topLevel data with
  | .error _ => []
  | .ok entries =>
      match readCommitTypes entries, Yaml.entry? entries "rules" with
      | .ok commitTypes, some (.list items) => ruleNotices commitTypes 0 items
      | _, _ => []

end CommitLens
