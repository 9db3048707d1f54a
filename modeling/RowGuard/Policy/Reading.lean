import RowGuard.Policy.Basic

/-!
# Reading a policy document

A policy document is a map with `resources`, a map from type names to bodies, and an optional
`actor`. A body has `roles`, `permissions`, `relations` and `rules`. `Policy.ofData` reads it; a
rule of the wrong shape is reported with the resource it stands in, and the other fields of a body
have to be lists and maps of their own accord.
-/

namespace RowGuard

namespace Data

/-- The value as entries, if it is a map or offers pairs one by one. -/
def pairs? (d : Data) : Except ShapeFault (List (Data × Data)) :=
  match d with
  | map entries => .ok entries
  | _ =>
    match d.items? with
    | none => .error .wrongType
    | some items => items.foldlM addPair []
where
  /-- Adds an item that offers exactly two values, a key and its value. -/
  addPair (entries : List (Data × Data)) (item : Data) : Except ShapeFault (List (Data × Data)) :=
    match item.items? with
    | none => .error .wrongType
    | some [key, value] => if key.isKey then .ok (insert key value entries) else .error .wrongType
    | some _ => .error .badValue

end Data

namespace Policy

/-- The fields of a rule, in the order they are written. -/
def ruleFieldNames : List String := ["grant", "role", "on", "global_role", "attribute"]

/-- The name under which a rule itself goes, which no field of it can have. -/
def ruleOwnName : String := "self"

/-- What is wrong with a field of the given name, if anything is. -/
def ruleFieldFault? (name : String) : Option RuleFault :=
  if name == ruleOwnName then some (.ownField name)
  else if ruleFieldNames.contains name then none
  else some (.unknownField name)

/-- The name a key stands for: a bare `on` is read from YAML as a truth value. -/
def fieldKey (key : Data) : Data :=
  if key = .bool true then .text "on" else key

/-- The entries of a rule under the names their keys stand for; a later entry counts. -/
def ruleFields (entries : List (Data × Data)) : List (Data × Data) :=
  entries.foldl (fun fields entry => Data.insert (fieldKey entry.1) entry.2 fields) []

/-- An entry's value as an optional field: null is no value. -/
def fieldValue? (name : String) (fields : List (Data × Data)) : Option Data :=
  (Data.lookup name fields).filter fun value => decide (value ≠ .null)

/-- Reads one rule of a resource. -/
def readRule (resource raw : Data) : Except PolicyFault (Rule Data) :=
  match raw with
  | .map entries =>
    let fields := ruleFields entries
    match fields.mapM fun field => field.1.text? with
    | none => .error (.invalidRule resource .fieldNotText)
    | some names =>
      match names.findSome? ruleFieldFault? with
      | some fault => .error (.invalidRule resource fault)
      | none =>
        match Data.lookup "grant" fields with
        | none => .error (.invalidRule resource .noGrant)
        | some grant =>
          Rule.ofFields grant (fieldValue? "role" fields) (fieldValue? "on" fields)
            (fieldValue? "global_role" fields) (fieldValue? "attribute" fields)
  | _ => .error (.invalidRule resource (.notFields raw.kind))

/-- Reads a rule on its own, outside of any resource. -/
def ruleOfFields (fields : List (Data × Data)) : Except Fault (Rule Data) :=
  match readRule .null (.map fields) with
  | .ok r => .ok r
  | .error (.invalidRule _ _) => .error (.shape .wrongType)
  | .error other => .error (.policy other)

/-- The items of a body's field; an absent field has none. -/
def bodyItems (field : String) (body : List (Data × Data)) : Except Fault (List Data) :=
  match Data.lookup field body with
  | none => .ok []
  | some value => (value.items?.elim (.error (.shape .wrongType)) .ok)

/-- Reads the body of one resource. -/
def readBlock (resource body : Data) : Except Fault (Block Data) :=
  match if body.truthy then body else .map [] with
  | .map entries => do
    let rules ←
      match Data.lookup "rules" entries with
      | none => pure []
      | some value =>
        match value.items? with
        | none => throw (.policy (.invalidRule resource (.rulesNotList value.kind)))
        | some items => (items.mapM (readRule resource)).mapError .policy
    let roles ← bodyItems "roles" entries
    let permissions ← bodyItems "permissions" entries
    let relations ←
      match Data.lookup "relations" entries with
      | none => pure []
      | some value => value.pairs?.mapError .shape
    return { name := resource, roles, permissions, relations, rules }
  | other => .error (.policy (.invalidRule resource (.bodyNotMap other.kind)))

/-- Reads a policy from data, which only a map has the fields for. -/
def ofData : Data → Except Fault (Policy Data)
  | .map entries =>
    match Data.lookup "resources" entries with
    | some (.map resources) => do
      let blocks ← resources.mapM fun entry => readBlock entry.1 entry.2
      (ofBlocks blocks ((Data.lookup "actor" entries).getD (.text "User"))).mapError .policy
    | _ => .error (.policy .noResources)
  | _ => .error (.shape .noSuchField)

/-- Reads a policy from the data of a document, which has to be a map. -/
def ofDocument (d : Data) : Except Fault (Policy Data) :=
  match d with
  | .map _ => ofData d
  | _ => .error (.policy .policyNotMap)

end Policy

end RowGuard
