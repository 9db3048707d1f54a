import RowGuard.Policy.Derivation

/-!
# Coverage

Which declared permissions some rule can grant. A permission that no rule reaches is denied to
everyone, which is usually a mistake in the policy.
-/

namespace RowGuard.Policy

variable {ν : Type} [BEq ν] [Name ν]

/-- The rules that reach one permission of one resource type. -/
structure Coverage (ν : Type := String) where
  resourceType : ν
  permission : ν
  rules : List (Rule ν)
deriving DecidableEq

/-- The blocks in the order of their names. -/
def blocksByName (p : Policy ν) : List (Block ν) :=
  p.blocks.mergeSort fun a b => Name.atMost a.name b.name

/-- The coverage of every declared permission: types by name, permissions as declared. -/
def coverage (p : Policy ν) : List (Coverage ν) :=
  p.blocksByName.flatMap fun b =>
    b.permissions.map fun permission => ⟨b.name, permission, (b.derive [permission]).rules⟩

/-- The permissions that no rule can grant. -/
def uncovered (p : Policy ν) : List (Coverage ν) :=
  p.coverage.filter fun c => c.rules.isEmpty

/-- How a value is aligned in a cell of a table: on the left, in fifteen characters. -/
def cellFormat : String := "<15"

/-- A name in a table, where a truth value counts as a number, filled up with blanks to fifteen
characters. A date takes what is said of the alignment for a format of its own. -/
def cell (name : ν) : String :=
  match Name.toData name with
  | .scalar (.date _) | .scalar (.moment _) => cellFormat
  | .bool b => filled (if b then "1" else "0")
  | d => filled d.plain
where
  /-- A text with blanks after it. -/
  filled (text : String) : String :=
    text ++ String.ofList (List.replicate (15 - text.length) ' ')

/-- The coverage as a table, by type and permission. -/
def coverageTable (p : Policy ν) : String :=
  let rows := p.coverage.mergeSort fun a b =>
    if a.resourceType == b.resourceType then Name.atMost a.permission b.permission
    else Name.atMost a.resourceType b.resourceType
  "\n".intercalate <|
    ["Resource        | Permission      | Rules", String.ofList (List.replicate 60 '-')] ++
      rows.map fun c =>
        cell c.resourceType ++ " | " ++ cell c.permission ++ " | " ++ toString c.rules.length

end RowGuard.Policy
