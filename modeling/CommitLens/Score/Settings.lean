import CommitLens.Decimal.Reading
import CommitLens.Json.Value
import CommitLens.Score.Weights
import CommitLens.Text.Quoted

/-!
# Weights from data

A mapping from the names of weights to their values.  A weight is a number or a
text that reads as one; a table is a mapping, or a list of pairs, and its values
are taken as they are.
-/

namespace CommitLens

namespace Json.Value

/-- The word for the kind of a value in messages. -/
def kindWord : Value → String
  | null => "NoneType"
  | bool _ => "bool"
  | number (.whole _) => "int"
  | number (.real _) => "float"
  | text _ => "str"
  | array _ => "list"
  | object _ => "dict"

end Json.Value

/-- Why a mapping is no set of weights. -/
inductive WeightFault where
  | notAMapping (kind : String)
  | unknownName (name : String)
  | notANumber (text : String)
  | noNumber (kind : String)
  | tooLarge
  | noTable (kind : String)
  | noPair (index : Nat)
  | wrongLength (index length : Nat)
  | noFactor (kind : String)
  deriving Repr, BEq, DecidableEq

namespace WeightFault

def message : WeightFault → String
  | notAMapping kind => "'" ++ kind ++ "' object has no attribute 'items'"
  | unknownName name =>
      "ScoringWeights.__init__() got an unexpected keyword argument '" ++ name ++ "'"
  | notANumber text => "could not convert string to float: " ++ Text.quoted text
  | noNumber kind => "float() argument must be a string or a real number, not '" ++ kind ++ "'"
  | tooLarge => "int too large to convert to float"
  | noTable kind => "'" ++ kind ++ "' object is not iterable"
  | noPair index =>
      "cannot convert dictionary update sequence element #" ++ toString index ++ " to a sequence"
  | wrongLength index length =>
      "dictionary update sequence element #" ++ toString index ++ " has length " ++
        toString length ++ "; 2 is required"
  | noFactor kind =>
      if kind == "str" || kind == "list" then
        "can't multiply sequence by non-int of type 'float'"
      else "unsupported operand type(s) for *=: 'float' and '" ++ kind ++ "'"

end WeightFault

namespace Weights

/-- A number, a truth value, or a text that reads as a number. -/
def readWeight : Json.Value → Except WeightFault Float
  | .number (.real x) => .ok x
  | .number (.whole n) =>
      match Decimal.floatOfInt? n with
      | some x => .ok x
      | none => .error .tooLarge
  | .bool b => .ok (if b then 1.0 else 0.0)
  | .text s =>
      match Decimal.readFloat? s with
      | some x => .ok x
      | none => .error (.notANumber s)
  | value => .error (.noNumber value.kindWord)

/-- One entry of a table that is given as a list of pairs. -/
def readPair (index : Nat) : Json.Value → Except WeightFault (String × Json.Value)
  | .array [.text name, value] => .ok (name, value)
  | .array items =>
      .error (if items.length == 2 then .noPair index else .wrongLength index items.length)
  | .text s =>
      match s.toList with
      | [a, b] => .ok (String.singleton a, .text (String.singleton b))
      | cs => .error (.wrongLength index cs.length)
  | .object members =>
      match members with
      | [a, b] => .ok (a.1, .text b.1)
      | _ => .error (.wrongLength index members.length)
  | _ => .error (.noPair index)

/-- Read pair after pair, counting from `index`. -/
def readPairs : Nat → List Json.Value → Except WeightFault (Multipliers Json.Value)
  | _, [] => .ok []
  | index, item :: rest => do
      let pair ← readPair index item
      let more ← readPairs (index + 1) rest
      return pair :: more

def readTable : Json.Value → Except WeightFault (Multipliers Json.Value)
  | .object members => .ok members
  | .array items => readPairs 0 items
  | .text s => readPairs 0 (s.toList.map fun c => .text (String.singleton c))
  | value => .error (.noTable value.kindWord)

/-- The value of one name.  A name that no weight has is only known to be wrong
after all values have been read. -/
def readSetting (name : String) (value : Json.Value) :
    Except WeightFault (Except String (WeightSetting Float Json.Value)) :=
  match TableName.ofText? name with
  | some table => do return .ok (.table table (← readTable value))
  | none => do
      let x ← readWeight value
      return match WeightName.ofText? name with
        | some weight => .ok (.weight weight x)
        | none => .error name

/-- The settings in a mapping. -/
def readSettings (members : List (String × Json.Value)) :
    Except WeightFault (List (WeightSetting Float Json.Value)) := do
  let read ← members.mapM fun (name, value) => readSetting name value
  read.mapM fun
    | .ok setting => .ok setting
    | .error name => .error (.unknownName name)

/-- Is a value as good as none? -/
def isNothing : Json.Value → Bool
  | .null => true
  | .bool b => !b
  | .number (.whole n) => n == 0
  | .number (.real x) => x == 0.0
  | .text s => s.isEmpty
  | .array items => items.isEmpty
  | .object members => members.isEmpty

/-- The weights with the settings of a mapping. -/
def ofData (data : Json.Value) : Except WeightFault (Weights Float Json.Value) := do
  let start := standard Json.Value.real
  if isNothing data then return start
  else match data with
    | .object members => return start.apply (← readSettings members)
    | other => throw (.notAMapping other.kindWord)

/-- A table entry as a factor. -/
def numberOf? : Json.Value → Option (Number Float)
  | .number n => some n
  | .bool b => some (.whole (if b then 1 else 0))
  | _ => none

/-- The first table entry that is no number. -/
def firstNoNumber? (weights : Weights Float Json.Value) : Option String :=
  let values := (weights.fileKind ++ weights.changeKind).map (·.2)
  (values.find? fun value => (numberOf? value).isNone).map Json.Value.kindWord

/-- Weights to compute with. -/
def numeric (weights : Weights Float Json.Value) :
    Except WeightFault (Weights Float (Number Float)) :=
  match weights.mapEntries? numberOf? with
  | some weights => .ok weights
  | none => .error (.noFactor ((firstNoNumber? weights).getD ""))

end Weights

end CommitLens
