import CommitLens.Yaml.Node
import CommitLens.Yaml.Scalar

/-!
# Values of documents

From the tree of a document to its value.  Entries of `<<` are merged into their
mapping, whose own entries win.  An alias stands for the value of its node; a
node that is not complete yet, since it has an alias of itself inside, is
unfolded a few times.
-/

namespace CommitLens.Yaml

namespace Fault

def message : Fault → String
  | malformed => "malformed"
  | noCharacter code =>
      if code < Nat.pow 2 31 then "chr() arg not in range(0x110000)"
      else "Python int too large to convert to C int"
  | emptyNumber => "string index out of range"
  | noInteger base text =>
      "invalid literal for int() with base " ++ toString base ++ ": " ++ Text.quoted text
  | tooManyDigits count =>
      "Exceeds the limit (" ++ toString digitLimit ++
        " digits) for integer string conversion: value has " ++ toString count ++
        " digits; use sys.set_int_max_str_digits() to increase the limit"
  | noDecimal text => "could not convert string to float: " ++ Text.quoted text
  | noTruthValue text => Text.quoted text
  | noTimestamp => "'NoneType' object has no attribute 'groupdict'"
  | badDate reason => reason
  | tooLongToWrite =>
      "Exceeds the limit (" ++ toString digitLimit ++
        " digits) for integer string conversion; use sys.set_int_max_str_digits() to increase" ++
        " the limit"

end Fault

namespace Node

def anchor? : Node → Option String
  | scalar anchor .. => anchor
  | sequence anchor .. => anchor
  | mapping anchor .. => anchor
  | reference _ => none

/-- The kind of a scalar. -/
def scalarKind (tag : Tag) (plain : Bool) (text : String) : Kind :=
  match tag with
  | some tag => .ofTag tag
  | none => if plain then .ofPlain text else .text

/-- Is the node the key of merged entries? -/
def isMergeKey : Node → Bool
  | scalar _ tag plain text => scalarKind tag plain text == .merge
  | _ => false

/-- Is the node the key of a default value? -/
def isDefaultKey : Node → Bool
  | scalar _ tag plain text => scalarKind tag plain text == .defaultValue
  | _ => false

end Node

/-- The values of the nodes that have names, the latest first; a node whose
value is not known yet is open. -/
structure Known where
  values : List (String × Value) := []
  opened : List (String × Node) := []
  deriving Inhabited

abbrev Build (α : Type) := StateT Known (Except Fault) α

namespace Build

/-- Give a name its value. -/
def record (anchor : Option String) (value : Value) : Build Unit :=
  match anchor with
  | none => return
  | some name => modify fun known => { known with
      values := (name, value) :: known.values
      opened := known.opened.filter fun entry => entry.1 != name }

def enter (node : Node) : Build Unit :=
  match node.anchor? with
  | none => return
  | some name => modify fun known => { known with opened := (name, node) :: known.opened }

/-- Keys and values of a mapping, the last value of a key in the place of its
first one. -/
def gather (entries : List (Value × Value)) : Except Fault (List (Value × Value)) :=
  if entries.all fun entry => entry.1.isKey then
    .ok (entries.foldl (fun found entry => insertEntry entry.1 entry.2 found) [])
  else .error .malformed

/-- The entries that a value merges into a mapping; of several mappings, the
first one wins. -/
def merged : Value → Except Fault (List (Value × Value))
  | .mapping entries => .ok entries
  | .set items => .ok (items.map fun item => (item, .null))
  | .list items =>
      items.reverse.foldlM (fun found item => match item with
        | .mapping entries => .ok (found ++ entries)
        | _ => .error .malformed) []
  | _ => .error .malformed

/-- The elements of an ordered map: mappings of one entry. -/
def orderedPairs (items : List Value) : Except Fault (List Value) :=
  items.mapM fun
    | .mapping [(key, value)] => .ok (.pair key value)
    | _ => .error .malformed

/-- A sequence of a kind. -/
def sequenceValue (tag : Tag) (items : List Value) : Except Fault Value :=
  match (tag.map Kind.ofTag).getD .list with
  | .list => .ok (.list items)
  | .orderedMap | .pairs => (orderedPairs items).map .list
  | _ => .error .malformed

mutual

/-- The value of a node.  `depth` bounds how often nodes are unfolded inside of
themselves. -/
def value (depth : Nat) (node : Node) : Build Value :=
  match node with
  | .reference name => do
      let known ← get
      match known.values.find? fun entry => entry.1 == name with
      | some (_, found) => return found
      | none =>
          match depth, known.opened.find? fun entry => entry.1 == name with
          | depth + 1, some (_, inner) => do
              let found ← value depth inner
              set known
              return found
          | _, _ => return .null
  | .scalar anchor tag plain text => do
      let found ← scalarValue (Node.scalarKind tag plain text) text
      record anchor found
      return found
  | .sequence anchor tag items => do
      enter (.sequence anchor tag items)
      let found ← sequenceValue tag (← values depth items)
      record anchor found
      return found
  | .mapping anchor tag entries => do
      enter (.mapping anchor tag entries)
      let (own, inherited) ← entryValues depth entries
      let found ← match (tag.map Kind.ofTag).getD .mapping with
        | .mapping => do pure (Value.mapping (← gather (inherited ++ own)))
        | .set => do pure (Value.set ((← gather (inherited ++ own)).map (·.1)))
        | _ => throw .malformed
      record anchor found
      return found
termination_by (depth, sizeOf node)

def values (depth : Nat) (items : List Node) : Build (List Value) :=
  match items with
  | [] => return []
  | item :: rest => do
      let found ← value depth item
      return found :: (← values depth rest)
termination_by (depth, sizeOf items)

/-- The entries of a mapping, its own ones and those that are merged into it. -/
def entryValues (depth : Nat) (entries : List (Node × Node)) :
    Build (List (Value × Value) × List (Value × Value)) :=
  match entries with
  | [] => return ([], [])
  | (key, item) :: rest => do
      if key.isMergeKey then
        let found ← merged (← value depth item)
        let (own, inherited) ← entryValues depth rest
        return (own, found ++ inherited)
      else
        let name ← if key.isDefaultKey then pure (Value.text "=") else value depth key
        if !name.isKey then throw .malformed
        let found ← value depth item
        let (own, inherited) ← entryValues depth rest
        return ((name, found) :: own, inherited)
termination_by (depth, sizeOf entries)

end

end Build

/-- How often a node is unfolded inside of itself. -/
def unfoldings : Nat := 6

/-- The value of the only document of a text.  A text without document says
nothing. -/
def readDocument (text : String) : Except Fault Value := do
  match ← Node.ofText text with
  | none => return .null
  | some node =>
      let (found, _) ← (Build.value unfoldings node).run {}
      return found

end CommitLens.Yaml
