import RowGuard.Database.Schema
import RowGuard.Fault

/-!
# Registries

A registry says in which table the resources of a type are stored and which column identifies them. A
type is registered once; registering it again in the same way changes nothing.
-/

namespace RowGuard

/-- Where the resources of one type are stored. -/
structure Mapping where
  type : Data
  table : Schema
  identity : Column
deriving DecidableEq

/-- The column that conditions on the resources are compiled for. -/
def Mapping.columnRef (m : Mapping) : String :=
  m.table.name ++ "." ++ m.identity.name

/-- The registered resource types. -/
structure Registry where
  mappings : List Mapping := []
deriving DecidableEq, Inhabited

namespace Registry

/-- The registration of a type, if there is one. -/
def get? (r : Registry) (type : Data) : Option Mapping :=
  r.mappings.find? fun m => m.type == type

/-- The registration of a type. -/
def lookup (r : Registry) (type : Data) : Except Fault Mapping := do
  type.requireKey
  match r.get? type with
  | some m => return m
  | none => throw (.policy (.unregisteredType type))

/-- Whether a type is registered. -/
def has (r : Registry) (type : Data) : Except Fault Bool := do
  type.requireKey
  return (r.get? type).isSome

/-- Registers a type as stored in a table under a column, which is given with the table it belongs
to. -/
def register (r : Registry) (type : Data) (table : Schema) (owner : Schema) (identity : Column) :
    Except Fault Registry :=
  if owner ≠ table ∨ identity ∉ table.columns then
    .error (.argument (.foreignIdentity (identity.describe owner.name) table.name))
  else if !type.isKey then .error (.shape .wrongType)
  else
    match r.get? type with
    | some m =>
      if m.table = table ∧ m.identity = identity then .ok r
      else .error (.argument (.registeredTwice type))
    | none => .ok ⟨r.mappings ++ [⟨type, table, identity⟩]⟩

/-- The registered types in order, if they have one. -/
def types (r : Registry) : Except Fault (List Data) :=
  (Data.sorted? (r.mappings.map (·.type))).elim (.error (.shape .wrongType)) .ok

/-- Registers again, in an empty registry and in order of their types, what a registry held. -/
def replay (r : Registry) : Except Fault Registry := do
  ((← r.types).filterMap r.get?).foldlM
    (fun fresh m => fresh.register m.type m.table m.table m.identity) {}

end Registry

end RowGuard
