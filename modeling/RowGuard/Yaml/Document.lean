import RowGuard.Data
import RowGuard.Yaml.Node
import RowGuard.Yaml.Scalar

/-!
# The data of a YAML document

`Yaml.parse` reads a text as one document. A node's tag says whether its items become a list, a map, a
set or pairs. The merge key `<<` of a map offers the entries of other maps, which come first and which
its own entries replace. Of several faults the first one counts: those of collections are found level by
level, for a collection is begun before its items are looked at. The value of a node with a name is made
once; inside of that node the name stands for all of it again, which is followed a few levels down.
-/

namespace RowGuard.Yaml

/-- The tag of a node without a name. -/
def Node.tag : Node → Tag
  | scalar t _ | list t _ | map t _ => t
  | named _ => .null

/-- Whether a node stands for one of some names. -/
def Node.isAmong (names : List String) : Node → Bool
  | named name => names.contains name
  | _ => false

/-- Whether a tag is that of a collection. -/
def Tag.isCollection (t : Tag) : Bool :=
  t == .list || t == .map || t == .set || t == .pairs

namespace Document

/-- The node that a node with a name is. -/
def resolve (d : Document) : Node → Node
  | .named name => (d.anchors.lookup name).getD .empty
  | n => n

/-! ## Merged entries -/

/-- Whether a map's entry offers the entries of other maps. -/
def isMerge (d : Document) (entry : Node × Node) : Bool := (d.resolve entry.1).tag == .merge

/-- A key as it is read: the mark of a value is a text where it is a key. -/
def asKey (d : Document) (key : Node) : Node :=
  match d.resolve key with
  | .scalar .value s => .scalar .text s
  | _ => key

/-- The names that are followed once a node is. -/
def following (names : List String) : Node → List String
  | .named name => name :: names
  | _ => names

/-- The entries of a map with those of the maps that it merges in before them. The maps of a list are
taken from the last one on, so that the first one counts most. A map that merges itself in, maybe by way
of others, gains nothing from that: a name that is being followed offers no entries. -/
def flattened (d : Document) (names : List String) :
    Nat → List (Node × Node) → Except Fault (List (Node × Node))
  | 0, _ => .error malformed
  | fuel + 1, entries => do
    let offers := entries.filter fun entry => d.isMerge entry && !entry.2.isAmong names
    let merged ← offers.mapM fun entry =>
      let names := following names entry.2
      match d.resolve entry.2 with
      | .map _ more => flattened d names fuel more
      | .list _ items => do
        let maps ← (items.filter fun item => !item.isAmong names).mapM fun item =>
          match d.resolve item with
          | .map _ more => flattened d (following names item) fuel more
          | _ => .error malformed
        return maps.reverse.flatten
      | _ => .error malformed
    let own := (entries.filter fun entry => !d.isMerge entry).map fun entry =>
      (d.asKey entry.1, entry.2)
    return merged.flatten ++ own

/-- The text of a node whose tag is that of a scalar. A map stands for the value under its value
mark. -/
def textOf (d : Document) : Nat → Node → Except Fault String
  | 0, _ => .error malformed
  | fuel + 1, n =>
    match d.resolve n with
    | .scalar _ s => .ok s
    | .map _ entries =>
      match entries.find? fun entry => (d.resolve entry.1).tag == .value with
      | some entry => textOf d fuel entry.2
      | none => .error malformed
    | _ => .error malformed

/-! ## Faults -/

/-- The value of a node that is no collection; a collection is only begun and has none yet. -/
def atom (d : Document) (fuel : Nat) (n : Node) : Except Fault (Option Scalar) := do
  let tag := (d.resolve n).tag
  if tag.isCollection then return none
  if tag == .merge || tag == .value || tag == .other then throw malformed
  return some (← scalarValue tag (← d.textOf fuel n))

/-- Looks for faults, with the names of the nodes that have been looked at. -/
abbrev Checker := StateT (List String) (Except Fault)

/-- The collection at a node, if it is one that has not been begun before. -/
def pending (d : Document) (fuel : Nat) (n : Node) : Checker (List Node) := do
  if let .named name := n then
    if (← get).contains name then return []
    modify (name :: ·)
  return if (← d.atom fuel n).isSome then [] else [d.resolve n]

/-- The collections among the items of a collection. -/
def begun (d : Document) (fuel : Nat) (n : Node) : Checker (List Node) :=
  match n.tag, n with
  | .list, .list _ items => do return (← items.mapM (d.pending fuel)).flatten
  | .map, .map _ entries | .set, .map _ entries => do
    let parts ← (← d.flattened [] fuel entries).mapM fun (k, v) => do
      -- a collection cannot be a key
      if (← d.atom fuel k).isNone then throw malformed
      d.pending fuel v
    return parts.flatten
  | .pairs, .list _ items => do
    let parts ← items.mapM fun item =>
      match d.resolve item with
      | .map _ [(k, v)] => do return (← d.pending fuel k) ++ (← d.pending fuel v)
      | _ => throw malformed
    return parts.flatten
  | _, _ => throw malformed

/-- Looks for the first fault level by level. -/
def check (d : Document) (fuel : Nat) : Nat → List Node → Checker Unit
  | 0, _ => return
  | depth + 1, level => do
    let next ← level.mapM (d.begun fuel)
    if !next.flatten.isEmpty then check d fuel depth next.flatten

/-! ## Values -/

/-- The values of nodes with names. -/
abbrev Values := List (String × Data)

/-- The value of a node without faults, with the values that names stand for. -/
def value (d : Document) (known : String → Data) : Nat → Node → Data
  | 0, _ => .null
  | fuel + 1, n =>
    match n.tag, n with
    | _, .named name => known name
    | .list, .list _ items => .list (items.map (value d known fuel))
    | .map, .map _ entries =>
      let entries := (d.flattened [] fuel entries).toOption.getD []
      .map (entries.foldl
        (fun m e => Data.insert (value d known fuel e.1) (value d known fuel e.2) m) [])
    | .set, .map _ entries =>
      let entries := (d.flattened [] fuel entries).toOption.getD []
      .set (entries.foldl (fun s e => Data.insertItem (value d known fuel e.1) s) [])
    | .pairs, .list _ items =>
      .list (items.map fun item =>
        match d.resolve item with
        | .map _ ((k, v) :: _) => .tuple [value d known fuel k, value d known fuel v]
        | _ => .null)
    | _, n =>
      match d.atom fuel n with
      | .ok (some s) => .scalar s
      | _ => .null

/-- The value of a collection that has only been begun. -/
def begunValue (n : Node) : Data :=
  match n.tag with
  | .list | .pairs => .list []
  | .map => .map []
  | .set => .set []
  | _ => .null

/-- The value of a name among some values. -/
def Values.at (vs : Values) (name : String) : Data := (vs.lookup name).getD .null

/-- The values of all names. A node that is used inside of itself has the outer value there. -/
def valuesIn (d : Document) (fuel : Nat) (outer : Values) : Values :=
  d.anchors.foldl (fun vs anchor =>
    (anchor.1, d.value (fun name => (vs.lookup name).getD (outer.at name)) fuel anchor.2) :: vs) []

/-- The values of all names, with nodes inside of themselves to the given depth. -/
def valuesTo (d : Document) (fuel : Nat) : (depth : Nat) → Values
  | 0 => d.anchors.map fun anchor => (anchor.1, begunValue anchor.2)
  | depth + 1 => d.valuesIn fuel (valuesTo d fuel depth)

/-- How deep a node that stands inside itself is followed. -/
def followedDepth : Nat := 3

/-! ## Levels -/

mutual

/-- The number of levels in a node, with the levels that names stand for. -/
def height (known : String → Nat) : Node → Nat
  | .scalar _ _ => 1
  | .list _ items => heightOf known items + 1
  | .map _ entries => heightOfEntries known entries + 1
  | .named name => known name

/-- The greatest height among nodes. -/
def heightOf (known : String → Nat) : List Node → Nat
  | [] => 0
  | n :: rest => max (height known n) (heightOf known rest)

/-- The greatest height among the nodes of entries. -/
def heightOfEntries (known : String → Nat) : List (Node × Node) → Nat
  | [] => 0
  | (k, v) :: rest => max (max (height known k) (height known v)) (heightOfEntries known rest)

end

/-- How many levels of nodes a document has. -/
def levels (d : Document) : Nat :=
  let heights := d.anchors.foldl (fun known anchor =>
    (anchor.1, height (fun name => (known.lookup name).getD 1) anchor.2) :: known) []
  height (fun name => (heights.lookup name).getD 1) d.top

/-- How many levels of nodes a document may have. -/
def maxLevels : Nat := 485

/-- The data that the document holds, which is made of no more than so many tokens. -/
def toData (d : Document) (tokens : Nat) : Except Fault Data := do
  if d.levels > maxLevels then throw (.shape .tooDeep)
  let look : Checker Unit := do d.check tokens tokens (← d.pending tokens d.top)
  let _ ← look.run []
  return d.value (d.valuesTo tokens followedDepth).at tokens d.top

end Document

/-- Whether a document may hold a character. -/
def isAllowed (c : Char) : Bool :=
  let n := c.toNat
  n == 0x09 || n == 0x0A || n == 0x0D || (0x20 ≤ n && n ≤ 0x7E) || n == 0x85 ||
    (0xA0 ≤ n && n ≤ 0xD7FF) || (0xE000 ≤ n && n ≤ 0xFFFD) || 0x10000 ≤ n

/-- Reads a text as one YAML document; a text without one is null. -/
def parse (text : String) : Except Fault Data := do
  let cs := text.toList
  if !cs.all isAllowed then throw malformed
  let tokens := Token.scan cs
  match ← Document.ofTokens tokens with
  | some d => d.toData (tokens.length + 2)
  | none => return .null

end RowGuard.Yaml
