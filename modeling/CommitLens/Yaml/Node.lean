import CommitLens.Yaml.Token

/-!
# YAML nodes

The tree that the tokens of a document stand for.  An alias keeps the name of
the node it means; that node has been named before, be it complete or not.
-/

namespace CommitLens.Yaml

/-- A tag that is written out; without one, the content tells the type. -/
abbrev Tag := Option String

inductive Node where
  /-- `plain` scalars without tag get their type from their text. -/
  | scalar (anchor : Option String) (tag : Tag) (plain : Bool) (text : String)
  | sequence (anchor : Option String) (tag : Tag) (items : List Node)
  | mapping (anchor : Option String) (tag : Tag) (entries : List (Node × Node))
  | reference (name : String)
  deriving Inhabited

/-- Nothing where a node could be. -/
def Node.empty : Node :=
  .scalar none none true ""

namespace Compose

structure State where
  tokens : List Token
  /-- The names given so far. -/
  anchors : List String := []
  handles : List (String × String) := []

abbrev Composer (α : Type) := StateT State (Except Fault) α

def fail {α : Type} : Composer α :=
  throw .malformed

def peek : Composer Token :=
  return ((← get).tokens.head?).getD .streamEnd

def skip : Composer Unit :=
  modify fun s => { s with tokens := s.tokens.drop 1 }

/-- Take a token if it comes next. -/
def accept (token : Token) : Composer Bool := do
  if (← peek) == token then
    skip
    return true
  else return false

def expect (token : Token) : Composer Unit := do
  if !(← accept token) then fail

def nextIsOneOf (tokens : List Token) : Composer Bool :=
  return tokens.contains (← peek)

/-- Handles that need no directive. -/
def standardHandles : List (String × String) :=
  [("!", "!"), ("!!", "tag:yaml.org,2002:")]

/-! ## Properties of nodes -/

/-- The full form of a tag. -/
def fullTag (handle : Option String) (rest : String) : Composer String := do
  match handle with
  | none => return rest
  | some handle =>
      match (← get).handles.find? fun entry => entry.1 == handle with
      | some (_, meaning) => return meaning ++ rest
      | none => fail

def anchor? : Composer (Option String) := do
  match ← peek with
  | .anchor name => skip; return some name
  | _ => return none

def tag? : Composer (Option String) := do
  match ← peek with
  | .tag handle rest => skip; return some (← fullTag handle rest)
  | _ => return none

/-- An anchor and a tag, in either order. -/
def properties : Composer (Option String × Option String) := do
  match ← anchor? with
  | some name => return (some name, ← tag?)
  | none =>
      match ← tag? with
      | some tag => return (← anchor?, some tag)
      | none => return (none, none)

/-- A name can be given only once. -/
def nameNode (anchor : Option String) : Composer Unit := do
  match anchor with
  | none => return
  | some name =>
      let s ← get
      if s.anchors.contains name then fail
      set { s with anchors := name :: s.anchors }

/-! ## Nodes -/

/-- The tag `!` only says that the content tells the type. -/
def givenTag (tag : Option String) : Tag :=
  if tag == some "!" then none else tag

/-- The end of a block entry, where an empty node stands. -/
def blockEnds : List Token := [.key, .value, .blockEnd]

mutual

/-- A node.  Blocks are not allowed inside of brackets; a sequence may stand in
the column of the key that it belongs to. -/
def node (block indentless : Bool) : Nat → Composer Node
  | 0 => fail
  | fuel + 1 => do
      match ← peek with
      | .reference name =>
          skip
          if (← get).anchors.contains name then return .reference name else fail
      | _ => do
          let (anchor, written) ← properties
          let tag := givenTag written
          match ← peek with
          | .blockEntry =>
              if indentless then
                nameNode anchor
                return .sequence anchor tag (← indentlessItems fuel)
              else emptyNode anchor written
          | .scalar text plain =>
              skip
              nameNode anchor
              return .scalar anchor tag ((plain && written.isNone) || written == some "!") text
          | .flowSequenceStart =>
              skip
              nameNode anchor
              return .sequence anchor tag (← flowItems true fuel)
          | .flowMappingStart =>
              skip
              nameNode anchor
              return .mapping anchor tag (← flowEntries true fuel)
          | .blockSequenceStart =>
              if !block then return ← emptyNode anchor written
              skip
              nameNode anchor
              return .sequence anchor tag (← blockItems fuel)
          | .blockMappingStart =>
              if !block then return ← emptyNode anchor written
              skip
              nameNode anchor
              return .mapping anchor tag (← blockEntries fuel)
          | _ => emptyNode anchor written

/-- A node without content needs an anchor or a tag. -/
def emptyNode (anchor written : Option String) : Composer Node := do
  if anchor.isNone && written.isNone then fail
  nameNode anchor
  return .scalar anchor (givenTag written) (written.isNone || written == some "!") ""

def blockItems : Nat → Composer (List Node)
  | 0 => fail
  | fuel + 1 => do
      if ← accept .blockEntry then
        let item ← if ← nextIsOneOf [.blockEntry, .blockEnd] then pure Node.empty
          else node true false fuel
        return item :: (← blockItems fuel)
      else
        expect .blockEnd
        return []

def indentlessItems : Nat → Composer (List Node)
  | 0 => fail
  | fuel + 1 => do
      if ← accept .blockEntry then
        let item ← if ← nextIsOneOf (.blockEntry :: blockEnds) then pure Node.empty
          else node true false fuel
        return item :: (← indentlessItems fuel)
      else return []

def blockEntries : Nat → Composer (List (Node × Node))
  | 0 => fail
  | fuel + 1 => do
      if ← accept .key then
        let key ← if ← nextIsOneOf blockEnds then pure Node.empty else node true true fuel
        let value ←
          if ← accept .value then
            if ← nextIsOneOf blockEnds then pure Node.empty else node true true fuel
          else pure Node.empty
        return (key, value) :: (← blockEntries fuel)
      else
        expect .blockEnd
        return []

/-- The part of an entry behind a mark, empty before one of the given tokens. -/
def flowPart (ends : List Token) : Nat → Composer Node
  | 0 => fail
  | fuel + 1 => do
      if ← nextIsOneOf ends then pure Node.empty else node false false fuel

def flowItems (first : Bool) : Nat → Composer (List Node)
  | 0 => fail
  | fuel + 1 => do
      let ends := [Token.flowEntry, .flowSequenceEnd]
      if ← accept .flowSequenceEnd then return []
      if !first then expect .flowEntry
      if ← accept .key then
        let key ← flowPart (.value :: ends) fuel
        let value ← if ← accept .value then flowPart ends fuel else pure Node.empty
        return .mapping none none [(key, value)] :: (← flowItems false fuel)
      else if ← accept .flowSequenceEnd then return []
      else
        let item ← node false false fuel
        return item :: (← flowItems false fuel)

def flowEntries (first : Bool) : Nat → Composer (List (Node × Node))
  | 0 => fail
  | fuel + 1 => do
      let ends := [Token.flowEntry, .flowMappingEnd]
      if ← accept .flowMappingEnd then return []
      if !first then expect .flowEntry
      if ← accept .key then
        let key ← flowPart (.value :: ends) fuel
        let value ← if ← accept .value then flowPart ends fuel else pure Node.empty
        return (key, value) :: (← flowEntries false fuel)
      else if ← accept .flowMappingEnd then return []
      else
        let key ← node false false fuel
        return (key, .empty) :: (← flowEntries false fuel)

end

/-! ## Documents -/

/-- The directives of a document: one version, and every handle once. -/
def directives : Nat → Bool → List (String × String) → Composer (List (String × String))
  | 0, _, handles => return handles
  | fuel + 1, versioned, handles => do
      match ← peek with
      | .version major =>
          if versioned || major != 1 then fail
          skip
          directives fuel true handles
      | .handle name meaning =>
          if handles.any fun entry => entry.1 == name then fail
          skip
          directives fuel versioned (handles ++ [(name, meaning)])
      | .otherDirective =>
          skip
          directives fuel versioned handles
      | _ => return handles

/-- Skip marks of the end of a document. -/
def skipEnds : Nat → Composer Unit
  | 0 => return
  | fuel + 1 => do
      if ← accept .documentEnd then skipEnds fuel

def isDirective : Token → Bool
  | .version _ | .handle _ _ | .otherDirective => true
  | _ => false

/-- The only document of a text, if there is one. -/
def document (fuel : Nat) : Composer (Option Node) := do
  let first ← peek
  if first == .streamEnd then return none
  let found ←
    if isDirective first || first == .documentStart then do
      let handles ← directives fuel false []
      modify fun s => { s with handles := handles ++ standardHandles }
      expect .documentStart
      let next ← peek
      if isDirective next || [Token.documentStart, .documentEnd, .streamEnd].contains next then
        pure Node.empty
      else node true false fuel
    else do
      modify fun s => { s with handles := standardHandles }
      node true false fuel
  skipEnds fuel
  expect .streamEnd
  return some found

end Compose

/-- The tree of the only document of a text, if there is one. -/
def Node.ofText (text : String) : Except Fault (Option Node) := do
  let tokens ← Yaml.tokens text
  let (found, _) ← (Compose.document (4 * tokens.length + 16)).run { tokens }
  return found

end CommitLens.Yaml
