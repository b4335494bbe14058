import CommitLens.Config.Basic

/-!
# Writing configurations

A configuration in the shape of a rules file.
-/

namespace CommitLens

open Yaml (Value)

def textValues (items : List String) : Value :=
  .list (items.map .text)

/-- An entry for a text that is there. -/
def optionalEntry (key : String) (value : Option String) : List (Value × Value) :=
  match value with
  | some s => [(.text key, .text s)]
  | none => []

namespace Rule

def toValue (rule : Rule) : Value :=
  .mapping ([(.text "id", .text rule.id)] ++
    optionalEntry "match" rule.pattern ++
    optionalEntry "match_path" rule.pathPart ++
    optionalEntry "match_ast" rule.deltaPart ++
    optionalEntry "type" rule.commitType ++
    optionalEntry "reason" rule.reason ++
    if rule.heuristics.isEmpty then []
    else [(.text "heuristics",
      .list (rule.heuristics.map fun name => .mapping [(.text "if", .text name)]))])

end Rule

def weightValue (x : Float) : Value :=
  .number (.real x)

def WeightSetting.toEntry : WeightSetting Float Float → Value × Value
  | .weight name x => (.text name.text, weightValue x)
  | .table name entries =>
      (.text name.text, .mapping (entries.map fun (key, x) => (.text key, weightValue x)))

/-- Every weight by its name. -/
def Weights.toValue (weights : Weights Float (Number Float)) : Value :=
  let table := fun (entries : Multipliers (Number Float)) =>
    Value.mapping (entries.map fun (key, n) => (.text key, .number n))
  .mapping ((WeightName.all.map fun name => (.text name.text, weightValue (weights.get name))) ++
    [(.text TableName.fileKind.text, table weights.fileKind),
      (.text TableName.changeKind.text, table weights.changeKind)])

namespace Config

/-- The configuration with the given section for its weights. -/
def toValueWith (config : Config) (scoring : Value) : Value :=
  .mapping [
    (.text "rules", .list (config.rules.map Rule.toValue)),
    (.text "exclude_paths", textValues config.excludePaths),
    (.text "include_only", textValues config.includeOnly),
    (.text "commit_types", textValues config.commitTypes),
    (.text "scoring", scoring)]

/-- The configuration as the value of a rules file. -/
def toValue (config : Config) : Value :=
  config.toValueWith (.mapping (config.scoring.map WeightSetting.toEntry))

/-- The configuration with all the weights that hold. -/
def toFullValue (config : Config) : Value :=
  config.toValueWith config.weights.toValue

end Config

end CommitLens
