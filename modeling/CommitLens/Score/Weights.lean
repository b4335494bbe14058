import CommitLens.Number

/-!
# Weights of the score

One weight for each contribution to a score, and tables of multipliers by the
kind of the file and of the change.  What a table does not list is multiplied by
one.
-/

namespace CommitLens

/-- A table of multipliers in the order in which they were given. -/
abbrev Multipliers (β : Type) := List (String × β)

namespace Multipliers

variable {β : Type}

/-- Give a name its multiplier, in its place if it has one already. -/
def set (name : String) (value : β) : Multipliers β → Multipliers β
  | [] => [(name, value)]
  | (other, old) :: rest =>
      if other == name then (other, value) :: rest else (other, old) :: set name value rest

def merge (table changes : Multipliers β) : Multipliers β :=
  changes.foldl (fun table entry => set entry.1 entry.2 table) table

def find? (table : Multipliers β) (name : String) : Option β :=
  (List.find? (fun entry => entry.1 == name) table).map (·.2)

end Multipliers

structure Weights (α β : Type) where
  breaking : α
  publicApi : α
  feature : α
  fix : α
  fileSize : α
  semanticImpact : α
  fileKind : Multipliers β
  changeKind : Multipliers β
  deriving Repr, BEq, Inhabited

/-- The weights that a configuration can set. -/
inductive WeightName where
  | breaking
  | publicApi
  | feature
  | fix
  | fileSize
  | semanticImpact
  deriving Repr, BEq, DecidableEq

namespace WeightName

def all : List WeightName := [breaking, publicApi, feature, fix, fileSize, semanticImpact]

def text : WeightName → String
  | breaking => "breaking"
  | publicApi => "public_api"
  | feature => "feature"
  | fix => "fix"
  | fileSize => "file_size"
  | semanticImpact => "semantic_impact"

def ofText? (text : String) : Option WeightName :=
  all.find? fun name => name.text == text

end WeightName

/-- The two tables of multipliers. -/
inductive TableName where
  | fileKind
  | changeKind
  deriving Repr, BEq, DecidableEq

namespace TableName

def text : TableName → String
  | fileKind => "file_type"
  | changeKind => "change_kind"

def ofText? (text : String) : Option TableName :=
  [fileKind, changeKind].find? fun name => name.text == text

end TableName

/-- One change to the weights. -/
inductive WeightSetting (α β : Type) where
  | weight (name : WeightName) (value : α)
  | table (name : TableName) (entries : Multipliers β)
  deriving Repr, BEq

namespace Weights

variable {α β γ : Type}

/-- The weights that hold unless they are set. -/
def standard [Scalar α] (entry : α → β) : Weights α β where
  breaking := Scalar.decimal 10 0
  publicApi := Scalar.decimal 8 0
  feature := Scalar.decimal 6 0
  fix := Scalar.decimal 5 0
  fileSize := Scalar.decimal 1 2
  semanticImpact := Scalar.decimal 7 0
  fileKind := [("script", entry (Scalar.decimal 1 0)), ("test", entry (Scalar.decimal 5 1)),
    ("config", entry (Scalar.decimal 7 1)), ("doc", entry (Scalar.decimal 3 1))]
  changeKind := [("added", entry (Scalar.decimal 8 1)), ("modified", entry (Scalar.decimal 1 0)),
    ("deleted", entry (Scalar.decimal 12 1)), ("renamed", entry (Scalar.decimal 5 1))]

def set (weights : Weights α β) : WeightSetting α β → Weights α β
  | .weight .breaking x => { weights with breaking := x }
  | .weight .publicApi x => { weights with publicApi := x }
  | .weight .feature x => { weights with feature := x }
  | .weight .fix x => { weights with fix := x }
  | .weight .fileSize x => { weights with fileSize := x }
  | .weight .semanticImpact x => { weights with semanticImpact := x }
  | .table .fileKind entries => { weights with fileKind := weights.fileKind.merge entries }
  | .table .changeKind entries => { weights with changeKind := weights.changeKind.merge entries }

/-- Apply settings one after the other. -/
def apply (weights : Weights α β) (settings : List (WeightSetting α β)) : Weights α β :=
  settings.foldl set weights

/-- The value of a weight by its name. -/
def get (weights : Weights α β) : WeightName → α
  | .breaking => weights.breaking
  | .publicApi => weights.publicApi
  | .feature => weights.feature
  | .fix => weights.fix
  | .fileSize => weights.fileSize
  | .semanticImpact => weights.semanticImpact

/-- Read the entries of the tables, unless one of them cannot be read. -/
def mapEntries? (read : β → Option γ) (weights : Weights α β) : Option (Weights α γ) := do
  let table := fun (entries : Multipliers β) =>
    entries.mapM fun (name, value) => (read value).map fun found => (name, found)
  let fileKind ← table weights.fileKind
  let changeKind ← table weights.changeKind
  return { weights with fileKind, changeKind }

end Weights

end CommitLens
