import RowGuard.Policy.Coverage
import RowGuard.Policy.Validation

/-!
# Names of any kind

A document may hold any value where a name belongs. A list or a map cannot be looked up, and names of
different kinds have no order, so some questions about such a policy cannot be answered. Each question is
asked here in the form that says so.
-/

namespace RowGuard

variable {ν : Type} [BEq ν] [Name ν]

namespace Name

omit [BEq ν] in
/-- Refuses names that cannot be looked up. -/
def requireKeys (names : List ν) : Except Fault Unit :=
  if names.all isKey then .ok () else .error (.shape .wrongType)

omit [BEq ν] in
/-- The names in ascending order. -/
def inOrder (names : List ν) : Except Fault (List ν) :=
  (sorted? names).elim (.error (.shape .wrongType)) .ok

omit [BEq ν] in
/-- The names as texts in ascending order. -/
def textsInOrder (names : List ν) : Except Fault (List String) :=
  (sortedTexts? names).elim (.error (.shape .wrongType)) .ok

end Name

namespace Policy

/-- A policy of the given blocks, whose names are looked up one after the other. -/
def ofNamedBlocks (blocks : List (Block ν)) (actorType : Data) : Except Fault (Policy ν) := do
  let named := blocks.takeWhile fun b => Name.isKey b.name
  let p ← (ofBlocks named actorType).mapError .policy
  if named.length = blocks.length then return p else throw (.shape .wrongType)

/-- The block of a resource type. -/
def blockNamed (p : Policy ν) (type : ν) : Except Fault (Block ν) := do
  Name.requireKeys [type]
  (p.block type).mapError .policy

/-- Whether a name is a role or permission of a resource type. -/
def declaresNamed (p : Policy ν) (type name : ν) : Except Fault Bool := do
  Name.requireKeys [type]
  return p.declares type name

/-- The roles of a resource type; none if it is not declared. -/
def rolesOfNamed (p : Policy ν) (type : ν) : Except Fault (List ν) := do
  Name.requireKeys [type]
  return p.rolesOf type

/-! ## Derivation and coverage -/

/-- Every way to obtain one of the grants on a block's resources. The names that a derivation collects
have to be such as can be members of a set. -/
def derivation (b : Block ν) (grants : List ν) : Except Fault (Derivation ν) := do
  Name.requireKeys grants
  let d := b.derive grants
  Name.requireKeys (d.rules.flatMap fun r => r.requires.names)
  return d

/-- Every way to obtain one of the grants on the resources of a type, with each set of names in
order. -/
def deriveInOrder (p : Policy ν) (type : ν) (grants : List ν) : Except Fault (Derivation ν) := do
  let d ← derivation (← p.blockNamed type) grants
  return { d with
    resourceType := type
    localRoles := ← Name.inOrder d.localRoles
    related := ← d.related.mapM fun r => do return (r.1, ← Name.inOrder r.2)
    globalRoles := ← Name.inOrder d.globalRoles
    attributes := ← Name.inOrder d.attributes }

/-- Whether a value can be put into a cell of a table: a text, a number or a date can. -/
def isCell (name : ν) : Bool :=
  match Name.toData name with
  | .null | .scalar (.bytes _) => false
  | d => d.scalar?.isSome

/-- Refuses a policy whose coverage cannot be put into a table: its types need an order, and so do the
permissions of each type. -/
def requireTabular (p : Policy ν) : Except Fault Unit := do
  let _ ← Name.inOrder (p.blocks.map (·.name))
  for b in p.blocks do
    for permission in b.permissions do
      let _ ← derivation b [permission]
  for b in p.blocks do
    let _ ← Name.inOrder b.permissions
    if !b.permissions.isEmpty && !(b.name :: b.permissions).all isCell then
      throw (.shape .wrongType)

end Policy

end RowGuard
