import CommitLens.Decimal.Layout
import CommitLens.Number
import CommitLens.Text.Quoted

/-!
# YAML values

What a document says: scalars of the types that need no tag of their own, lists
and mappings.  Dates and times are kept to tell them from texts.
-/

namespace CommitLens.Yaml

structure Date where
  year : Nat
  month : Nat
  day : Nat
  deriving Repr, BEq, DecidableEq, Inhabited

structure Time where
  date : Date
  hour : Nat
  minute : Nat
  second : Nat
  microsecond : Nat
  /-- Minutes ahead of universal time, if that is known. -/
  offset : Option Int
  deriving Repr, BEq, DecidableEq, Inhabited

inductive Value where
  | null
  | bool (b : Bool)
  | number (n : Number Float)
  | text (s : String)
  | bytes (data : List Nat)
  | date (d : Date)
  | time (t : Time)
  | list (items : List Value)
  | mapping (entries : List (Value × Value))
  | set (items : List Value)
  | pair (first second : Value)
  deriving Inhabited

/-- A number with at least `width` digits. -/
def padded (width n : Nat) : String :=
  let digits := toString n
  String.ofList (List.replicate (width - digits.length) '0') ++ digits

def Date.shown (d : Date) : String :=
  padded 4 d.year ++ "-" ++ padded 2 d.month ++ "-" ++ padded 2 d.day

def Time.shown (t : Time) : String :=
  let clock := padded 2 t.hour ++ ":" ++ padded 2 t.minute ++ ":" ++ padded 2 t.second
  let fraction := if t.microsecond == 0 then "" else "." ++ padded 6 t.microsecond
  let offset := match t.offset with
    | none => ""
    | some minutes =>
        (if minutes < 0 then "-" else "+") ++ padded 2 (minutes.natAbs / 60) ++ ":" ++
          padded 2 (minutes.natAbs % 60)
  t.date.shown ++ " " ++ clock ++ fraction ++ offset

namespace Value

/-- A scalar as it stands in messages. -/
def shown : Value → String
  | null => "None"
  | bool b => if b then "True" else "False"
  | number (.whole n) => toString n
  | number (.real x) => Decimal.shortestText .record x
  | text s => s
  | bytes data => Text.quotedBytes data
  | date d => d.shown
  | time t => t.shown
  | list _ => "[...]"
  | mapping _ => "\x7b...\x7d"
  | set _ => "\x7b...\x7d"
  | pair _ _ => "(...)"

/-- Truth values count as the numbers one and zero where keys are compared. -/
def asNumber? : Value → Option (Number Float)
  | bool b => some (.whole (if b then 1 else 0))
  | number n => some n
  | _ => none

/-- Do two keys name the same entry? -/
def sameKey (a b : Value) : Bool :=
  match asNumber? a, asNumber? b with
  | some (.whole m), some (.whole n) => m == n
  | some m, some n => m.toReal == n.toReal
  | none, none =>
      match a, b with
      | null, null => true
      | text s, text t => s == t
      | bytes s, bytes t => s == t
      | date d, date e => d == e
      | time s, time t => s == t
      | _, _ => false
  | _, _ => false

/-- Can the value be the key of an entry? -/
def isKey : Value → Bool
  | list _ | mapping _ | set _ => false
  | _ => true

end Value

/-- Give a key its value; a key that is there already keeps its place. -/
def insertEntry (key value : Value) : List (Value × Value) → List (Value × Value)
  | [] => [(key, value)]
  | (other, old) :: rest =>
      if other.sameKey key then (other, value) :: rest
      else (other, old) :: insertEntry key value rest

/-- The value of a text key in a mapping. -/
def entry? (entries : List (Value × Value)) (key : String) : Option Value :=
  (entries.find? fun entry => entry.1.sameKey (.text key)).map (·.2)

end CommitLens.Yaml
