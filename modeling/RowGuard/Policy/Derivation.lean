import RowGuard.Policy.Basic
import RowGuard.Text.Sorted

/-!
# Derivation of grants

A grant can be obtained on the resource itself, or through a relation, a global role or an attribute.
`Policy.derive` follows the rules that stay on the resource until no new name is reached and
collects the rules that leave it. Each rule is used at most once, because a rule is put aside when
the name it grants is reached; that is also why the search ends.
-/

namespace RowGuard

/-- Every way an actor can obtain a set of grants on one resource type. -/
structure Derivation (ν : Type := String) where
  resourceType : ν
  localRoles : List ν
  related : List (ν × List ν)
  globalRoles : List ν
  attributes : List ν
  rules : List (Rule ν)
deriving DecidableEq

namespace Derivation

variable {ν : Type} [BEq ν] [Name ν]

/-- A derivation with no way to obtain anything. -/
def none (type : ν) : Derivation ν := ⟨type, [], [], [], [], []⟩

/-- Whether there is no way to obtain the grants. -/
def isEmpty (d : Derivation ν) : Bool :=
  d.localRoles.isEmpty && d.related.isEmpty && d.globalRoles.isEmpty && d.attributes.isEmpty

/-- The name that a rule without relation passes the grant on to. -/
def impliedBy (r : Rule ν) : Option ν :=
  match r.requires with
  | .role m => some m
  | _ => .none

/-- The rules that grant a name. -/
def granting (name : ν) (rules : List (Rule ν)) : List (Rule ν) :=
  rules.filter fun r => r.grant == name

/-- The rules that grant other names. -/
def grantingOthers (name : ν) (rules : List (Rule ν)) : List (Rule ν) :=
  rules.filter fun r => !(r.grant == name)

/-- The names that the rules granting a name require on the same resource, the last one first. -/
def requiredHere (name : ν) (rules : List (Rule ν)) : List ν :=
  ((granting name rules).filterMap impliedBy).reverse

omit [Name ν] in
/-- A rule that grants a name requires at most one name on the same resource, and is put aside. -/
theorem length_requiredHere_add_le (name : ν) (rules : List (Rule ν)) :
    (requiredHere name rules).length + (grantingOthers name rules).length ≤ rules.length := by
  have hsplit : rules.length = (granting name rules).length + (grantingOthers name rules).length := by
    rw [List.length_eq_countP_add_countP (fun r : Rule ν => r.grant == name), List.countP_eq_length_filter,
      List.countP_eq_length_filter]
    simp only [granting, grantingOthers, Bool.not_eq_true, Bool.decide_eq_false]
  have hrequired : (requiredHere name rules).length ≤ (granting name rules).length := by
    unfold requiredHere
    rw [List.length_reverse]
    exact List.length_filterMap_le _ _
  omega

/-- Works through the names on a stack. A name's rules are those not used before that grant it; the
names they require on the same resource go on top of the stack, the last one first. The answer is the
names reached and the rules used, both in the order of discovery. -/
def close (unused : List (Rule ν)) (stack : List ν) : List ν × List (Rule ν) :=
  match stack with
  | [] => ([], [])
  | name :: rest =>
    let reached := close (grantingOthers name unused) (requiredHere name unused ++ rest)
    (name :: reached.1, granting name unused ++ reached.2)
termination_by unused.length + stack.length
decreasing_by
  have hshorter := length_requiredHere_add_le name unused
  simp only [List.length_append, List.length_cons]
  omega

/-- The roles required on each relation, relations in the order of discovery. -/
def relatedOf (rules : List (Rule ν)) : List (ν × List ν) :=
  let pairs := rules.filterMap fun r =>
    match r.requires with
    | .roleOn m rel => some (rel, m)
    | _ => .none
  (pairs.map (·.1)).eraseDups.map fun rel =>
    (rel, ((pairs.filter fun pair => pair.1 == rel).map (·.2)).eraseDups)

/-- The global roles that rules require. -/
def globalRolesOf (rules : List (Rule ν)) : List ν :=
  (rules.filterMap Rule.globalRoleField).eraseDups

/-- The attributes that rules require. -/
def attributesOf (rules : List (Rule ν)) : List ν :=
  (rules.filterMap Rule.attributeField).eraseDups

end Derivation

/-- Every way to obtain one of the grants on a block's resources. -/
def Block.derive {ν : Type} [BEq ν] [Name ν] (b : Block ν) (grants : List ν) :
    Derivation ν :=
  let (reached, rules) := Derivation.close b.rules grants.reverse
  { resourceType := b.name
    localRoles := (reached.filter b.roles.contains).eraseDups
    related := Derivation.relatedOf rules
    globalRoles := Derivation.globalRolesOf rules
    attributes := Derivation.attributesOf rules
    rules := rules }

/-- A name that requires no other on the same resource is obtained by what its own rules require. -/
theorem Block.derive_of_requiredHere {ν : Type} [BEq ν] [Name ν] {b : Block ν} {name : ν}
    (h : Derivation.requiredHere name b.rules = []) :
    b.derive [name] = {
      resourceType := b.name
      localRoles := ([name].filter b.roles.contains).eraseDups
      related := Derivation.relatedOf (Derivation.granting name b.rules)
      globalRoles := Derivation.globalRolesOf (Derivation.granting name b.rules)
      attributes := Derivation.attributesOf (Derivation.granting name b.rules)
      rules := Derivation.granting name b.rules } := by
  have hclose : Derivation.close b.rules [name] = ([name], Derivation.granting name b.rules) := by
    rw [Derivation.close, h, List.append_nil, Derivation.close, List.append_nil]
  rw [Block.derive, List.reverse_singleton, hclose]

/-- Every way to obtain one of the grants on the resources of a type. -/
def Policy.derive {ν : Type} [BEq ν] [Name ν] (p : Policy ν) (type : ν) (grants : List ν) :
    Except PolicyFault (Derivation ν) :=
  (p.block type).map (·.derive grants)

end RowGuard
