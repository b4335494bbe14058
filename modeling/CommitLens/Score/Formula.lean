import CommitLens.Change.Record
import CommitLens.Score.Weights

/-!
# Scores

The score of a change is a sum of weighted contributions, multiplied by what its
file and its kind are worth, and brought into the range from 0 to 10.  Every
contribution is kept as a factor, the two multipliers being the last ones.
-/

namespace CommitLens

structure ScoreFactor (α : Type) where
  name : String
  value : Number α
  weight : Number α
  deriving Repr, BEq, Inhabited

structure ScoredChange (α : Type) extends ClassifiedChange where
  score : α
  factors : List (ScoreFactor α) := []
  deriving Repr, BEq, Inhabited

/-- What a delta of a kind adds to the semantic impact. -/
def DeltaKind.weight : DeltaKind → Nat
  | methodRemoved | parameterRemoved | returnTypeChanged => 10
  | interfaceChanged | accessModifierChanged => 7
  | methodAdded | parameterAdded => 5
  | typeChanged | dependencyAdded | dependencyRemoved => 4
  | implementationChanged => 2
  | _ => 0

def Severity.isSevere : Severity → Bool
  | breaking | high => true
  | _ => false

/-- The semantic impact of deltas: what their kinds add, three more for each
severe one, and 20 at most. -/
def semanticImpact (deltas : List Delta) : Nat :=
  let kinds := (deltas.map fun delta => delta.kind.weight).foldr (· + ·) 0
  let severe := (deltas.filter fun delta => delta.severity.isSevere).length
  min (kinds + 3 * severe) 20

namespace ClassifiedChange

variable {α : Type} [Scalar α]

/-- The number of changed lines. -/
def size (change : ClassifiedChange) : Int :=
  change.metadata.linesAdded + change.metadata.linesRemoved

def factor (name : String) (value : Int) (weight : α) : ScoreFactor α :=
  ⟨name, .whole value, .real weight⟩

/-- The weighted contributions to a score. -/
def contributions {β : Type} (weights : Weights α β) (change : ClassifiedChange) :
    List (ScoreFactor α) :=
  let impact := semanticImpact change.deltas
  (if change.breaking then [factor "breaking_change" 10 weights.breaking] else []) ++
    (if change.scope == .publicApi then [factor "public_api" 8 weights.publicApi] else []) ++
    (if change.commitType == "feat" then [factor "feature_addition" 6 weights.feature] else []) ++
    (if change.commitType == "fix" then [factor "bug_fix" 5 weights.fix] else []) ++
    (if 0 < change.size then [factor "file_size" (min change.size 1000) weights.fileSize]
      else []) ++
    (if 0 < impact then [factor "semantic_impact" impact weights.semanticImpact] else [])

/-- The sum of weighted contributions. -/
def weightedSum (factors : List (ScoreFactor α)) : α :=
  factors.foldl (fun sum factor =>
    Scalar.add sum (Scalar.mul factor.value.toReal factor.weight.toReal)) (Scalar.decimal 0 0)

/-- A multiplier from a table, one if it is not listed. -/
def multiplier (table : Multipliers (Number α)) (name : String) : Number α :=
  (table.find? name).getD (.real (Scalar.decimal 1 0))

/-- Bring a number into the range from 0 to 10. -/
def clamp (x : α) : α :=
  Scalar.min (Scalar.max x (Scalar.decimal 0 0)) (Scalar.decimal 10 0)

def score (weights : Weights α (Number α)) (change : ClassifiedChange) : ScoredChange α :=
  let contributions := change.contributions weights
  let fileKind := multiplier weights.fileKind change.metadata.fileKind.text
  let changeKind := multiplier weights.changeKind change.kind.text
  let raw := Scalar.mul (Scalar.mul (weightedSum contributions) fileKind.toReal) changeKind.toReal
  { change with
    score := clamp (Scalar.div raw (Scalar.decimal 10 0))
    factors := contributions ++
      [⟨"file_type", .whole 1, fileKind⟩, ⟨"change_kind", .whole 1, changeKind⟩] }

end ClassifiedChange

end CommitLens
