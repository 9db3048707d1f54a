import RowGuard.Yaml.Tag
import RowGuard.Yaml.Token

/-!
# Nodes of a YAML document

`Document.ofTokens` finds the nodes that tokens describe: scalars with their tags, lists and maps. A node
that is given a name is kept under it, and the name stands where the node and its aliases stand, so a
node that is used often is kept once, and one may stand inside itself. The fuel of the reader is enough
because every few calls take a token.
-/

namespace RowGuard.Yaml

/-- A node; `named` stands for the node with that name. -/
inductive Node where
  | scalar (tag : Tag) (text : String)
  | list (tag : Tag) (items : List Node)
  | map (tag : Tag) (entries : List (Node × Node))
  | named (name : String)
deriving Inhabited

/-- A node where nothing is written. -/
def Node.empty : Node := .scalar .null ""

/-- A document: the node at its top, and the nodes with names in the order in which they end. -/
structure Document where
  top : Node
  anchors : List (String × Node) := []

/-- What is left of the tokens, the nodes that have been given a name, the newest first, of which those
that are still being read have no node yet, and the texts that the handles of tags stand for. -/
structure NodeState where
  tokens : List Token
  anchors : List (String × Option Node) := []
  handles : List (String × String) := []

/-- Finds nodes in tokens. -/
abbrev NodeReader := StateT NodeState (Except Fault)

namespace NodeReader

/-- The next token. -/
def peek : NodeReader (Option Token) := do
  match (← get).tokens.head? with
  | some (.fault f) => throw f
  | t => return t

/-- Takes the next token. -/
def take : NodeReader Unit := modify fun s => { s with tokens := s.tokens.drop 1 }

/-- Whether the next token is one of some. -/
def nextIsOneOf (ts : List Token) : NodeReader Bool := do
  return (← peek).any ts.contains

/-- Takes a token if it is the next one; the answer says whether it was. -/
def takeIf (t : Token) : NodeReader Bool := do
  if ← nextIsOneOf [t] then
    take
    return true
  else return false

/-- Takes a token that has to be the next one. -/
def expect (t : Token) : NodeReader Unit := do
  if !(← takeIf t) then throw malformed

/-- Takes the names and tags before a node, in either order and each at most once. -/
def properties : NodeReader (Option String × Option (Option String × String)) := do
  match ← peek with
  | some (.anchor name) =>
    take
    match ← peek with
    | some (.tag handle suffix) =>
      take
      return (some name, some (handle, suffix))
    | _ => return (some name, none)
  | some (.tag handle suffix) =>
    take
    match ← peek with
    | some (.anchor name) =>
      take
      return (some name, some (handle, suffix))
    | _ => return (none, some (handle, suffix))
  | _ => return (none, none)

/-- The full name of a tag. A lone exclamation mark says only that there is none. -/
def uriOf : Option (Option String × String) → NodeReader (Option String)
  | none => return none
  | some (none, suffix) => return if suffix == "!" then none else some suffix
  | some (some handle, suffix) => do
    match (← get).handles.lookup handle with
    | some start => return if start ++ suffix == "!" then none else some (start ++ suffix)
    | none => throw malformed

/-- Begins a node that is given a name, which has to be new. -/
def beginNamed (name : String) : NodeReader Unit := do
  let s ← get
  if (s.anchors.lookup name).isSome then throw malformed
  set { s with anchors := (name, none) :: s.anchors }

/-- Keeps a node that has been read under its name. -/
def endNamed (name : String) (n : Node) : NodeReader Node := do
  modify fun s => { s with anchors := (name, some n) :: s.anchors }
  return .named name

/-- Reads a node, which may have been given a name. -/
def naming (name : Option String) (body : NodeReader Node) : NodeReader Node := do
  match name with
  | none => body
  | some a =>
    beginNamed a
    endNamed a (← body)

/-- An alias, whose name has to have been given. -/
def referenced (name : String) : NodeReader Node := do
  if ((← get).anchors.lookup name).isNone then throw malformed
  return .named name

mutual

/-- A node. Block collections are read where `block` holds, and the items of a list without a
collection of their own where `bare` does. -/
def node : Nat → (block bare : Bool) → NodeReader Node
  | 0, _, _ => throw malformed
  | fuel + 1, block, bare => do
    if let some (.alias name) := ← peek then
      take
      return ← referenced name
    let (name, written) ← properties
    let uri ← uriOf written
    let collection (standard : Tag) : Tag := (uri.map Tag.ofUri).getD standard
    match ← peek with
    | some (.scalar text plain) =>
      take
      let tag :=
        match uri with
        | some u => Tag.ofUri u
        | none => if plain || written.isSome then Tag.ofPlain text else .text
      naming name (return .scalar tag text)
    | some .openList =>
      naming name do
        take
        return .list (collection .list) (← flowItems fuel true)
    | some .openMap =>
      naming name do
        take
        return .map (collection .map) (← flowEntries fuel true)
    | some .blockSequence =>
      if block then
        naming name do
          take
          return .list (collection .list) (← blockItems fuel)
      else absent name uri written
    | some .blockMapping =>
      if block then
        naming name do
          take
          return .map (collection .map) (← blockEntries fuel)
      else absent name uri written
    | some .item =>
      if bare then naming name do return .list (collection .list) (← bareItems fuel)
      else absent name uri written
    | _ => absent name uri written

/-- A node of which only the name or the tag is written. -/
def absent (name : Option String) (uri : Option String)
    (written : Option (Option String × String)) : NodeReader Node := do
  if name.isNone && written.isNone then throw malformed
  naming name (return .scalar ((uri.map Tag.ofUri).getD .null) "")

/-- A node of a block collection, or nothing before one of some tokens. -/
def blockValue : Nat → (bare : Bool) → List Token → NodeReader Node
  | 0, _, _ => throw malformed
  | fuel + 1, bare, ends => do
    if ← nextIsOneOf ends then return .empty
    node fuel true bare

/-- The items of a block list up to its end. -/
def blockItems : Nat → NodeReader (List Node)
  | 0 => throw malformed
  | fuel + 1 => do
    if ← takeIf .item then
      let n ← blockValue fuel false [.item, .blockEnd]
      return n :: (← blockItems fuel)
    expect .blockEnd
    return []

/-- The items of a list that stands at the column of the map around it. -/
def bareItems : Nat → NodeReader (List Node)
  | 0 => throw malformed
  | fuel + 1 => do
    if ← takeIf .item then
      let n ← blockValue fuel false [.item, .key, .value, .blockEnd]
      return n :: (← bareItems fuel)
    return []

/-- The entries of a block map up to its end. -/
def blockEntries : Nat → NodeReader (List (Node × Node))
  | 0 => throw malformed
  | fuel + 1 => do
    if ← takeIf .key then
      let ends := [Token.key, .value, .blockEnd]
      let k ← blockValue fuel true ends
      let v ← if ← takeIf .value then blockValue fuel true ends else pure .empty
      return (k, v) :: (← blockEntries fuel)
    expect .blockEnd
    return []

/-- A node inside brackets, or nothing before one of some tokens. -/
def flowValue : Nat → List Token → NodeReader Node
  | 0, _ => throw malformed
  | fuel + 1, ends => do
    if ← nextIsOneOf ends then return .empty
    node fuel false false

/-- The items of a list in brackets up to its end. -/
def flowItems : Nat → (first : Bool) → NodeReader (List Node)
  | 0, _ => throw malformed
  | fuel + 1, first => do
    if ← takeIf .closeList then return []
    if !first then expect .entry
    if ← takeIf .key then
      let k ← flowValue fuel [.value, .entry, .closeList]
      let v ← if ← takeIf .value then flowValue fuel [.entry, .closeList] else pure .empty
      return .map .map [(k, v)] :: (← flowItems fuel false)
    if ← takeIf .closeList then return []
    let n ← node fuel false false
    return n :: (← flowItems fuel false)

/-- The entries of a map in brackets up to its end. -/
def flowEntries : Nat → (first : Bool) → NodeReader (List (Node × Node))
  | 0, _ => throw malformed
  | fuel + 1, first => do
    if ← takeIf .closeMap then return []
    if !first then expect .entry
    if ← takeIf .key then
      let k ← flowValue fuel [.value, .entry, .closeMap]
      let v ← if ← takeIf .value then flowValue fuel [.entry, .closeMap] else pure .empty
      return (k, v) :: (← flowEntries fuel false)
    if ← takeIf .closeMap then return []
    let k ← node fuel false false
    return (k, .empty) :: (← flowEntries fuel false)

end

/-! ## Documents -/

/-- The handles of tags that need no directive. -/
def standardHandles : List (String × String) := [("!", "!"), ("!!", Tag.coreUri)]

/-- The directives before a document. There is at most one version, which is 1, and one meaning for
each handle. -/
def directives (versioned : Bool) : Nat → NodeReader Unit
  | 0 => throw malformed
  | fuel + 1 => do
    match ← peek with
    | some (.directive version handle) =>
      take
      if let some (major, _) := version then
        if versioned || major != 1 then throw malformed
      if let some (h, start) := handle then
        let s ← get
        if (s.handles.lookup h).isSome then throw malformed
        set { s with handles := (h, start) :: s.handles }
      directives (versioned || version.isSome) fuel
    | _ => modify fun s => { s with handles := s.handles ++ standardHandles }

/-- Takes the marks of a document's end. -/
def documentEnds : Nat → NodeReader Unit
  | 0 => throw malformed
  | fuel + 1 => do
    if ← takeIf .documentEnd then documentEnds fuel

/-- Whether a document's content cannot begin with a token. -/
def isOutside : Option Token → Bool
  | none | some (.directive _ _) | some .documentStart | some .documentEnd => true
  | _ => false

/-- The node of the only document; there may be none at all. -/
def document (fuel : Nat) : NodeReader (Option Node) := do
  let content : NodeReader (Option Node) := do
    match ← peek with
    | none => return none
    | some (.directive _ _) | some .documentStart =>
      directives false fuel
      expect .documentStart
      if isOutside (← peek) then return some .empty
      some <$> node fuel true false
    | _ =>
      modify fun s => { s with handles := standardHandles }
      some <$> node fuel true false
  let n ← content
  documentEnds fuel
  if (← peek).isSome then throw malformed
  return n

end NodeReader

/-- The document that tokens describe, if there is one. -/
def Document.ofTokens (tokens : List Token) : Except Fault (Option Document) := do
  let (top, s) ← (NodeReader.document (4 * tokens.length + 8)).run { tokens }
  let anchors := s.anchors.reverse.filterMap fun (name, n) => n.map fun n => (name, n)
  return top.map fun top => { top, anchors }

end RowGuard.Yaml
