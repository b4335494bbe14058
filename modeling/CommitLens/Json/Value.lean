import CommitLens.Number

/-!
# JSON values

Objects keep their members in the order in which they were written.
-/

namespace CommitLens.Json

inductive Value where
  | null
  | bool (b : Bool)
  | number (n : Number Float)
  | text (s : String)
  | array (items : List Value)
  | object (members : List (String × Value))
  deriving Inhabited

namespace Value

def whole (n : Int) : Value :=
  .number (.whole n)

def real (x : Float) : Value :=
  .number (.real x)

def texts (items : List String) : Value :=
  .array (items.map .text)

def optionalText : Option String → Value
  | some s => .text s
  | none => .null

/-- The last member of that name, if the value is an object that has one. -/
def member? (value : Value) (name : String) : Option Value :=
  match value with
  | .object members => (members.reverse.find? fun entry => entry.1 == name).map (·.2)
  | _ => none

end Value

end CommitLens.Json
