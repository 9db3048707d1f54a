import RowGuard.Facts.Book
import RowGuard.Policy.Basic

/-!
# Validation of policies

A policy is consistent when every rule grants a declared name and every condition refers to declared
roles and relations; with a fact book, every role assignment, relation and attribute the policy relies
on needs a query. `Policy.validate` reports every inconsistency at once, in the order of the blocks. A name
that cannot be looked up, such as a list, makes that impossible; where all names are texts there is none:
`looksUpKeys_string`.
-/

namespace RowGuard.Policy

variable {ν : Type} [BEq ν] [Name ν]

/-- What is wrong with a rule of a block. -/
def ruleProblems (p : Policy ν) (b : Block ν) (r : Rule ν) : List Inconsistency :=
  let named := Name.toData b.name
  (if b.declares r.grant then [] else [.undeclaredGrant named (Name.toData r.grant)]) ++
    match r.requires with
    | .globalRole g =>
      if ((p.globalBlock?.map (·.roles)).getD []).contains g then []
      else [.undeclaredGlobalRole named (Name.toData g)]
    | .role m =>
      if b.roles.contains m then [] else [.undeclaredRole named (Name.toData m)]
    | .roleOn m rel =>
      match b.related? rel with
      | none => [.undeclaredRelation named (Name.toData rel)]
      | some type =>
        if (p.rolesOf type).contains m then []
        else [.roleNotOnRelated named (Name.toData m) (Name.toData type)]
    | .hasAttribute _ => []

/-- What is wrong with a block. -/
def blockProblems (p : Policy ν) (b : Block ν) : List Inconsistency :=
  (b.relations.filterMap fun rel =>
    if p.blocks.any fun other => other.name == rel.2 then none
    else some (.undeclaredRelated (Name.toData b.name) (Name.toData rel.2))) ++
  b.rules.flatMap (p.ruleProblems b)

/-- Whether a fact book has the role assignments of a type. -/
def hasRoleFact (facts : FactBook) (type : ν) : Bool :=
  (facts.roles.lookup (Name.toData type)).isSome

/-- Whether a fact book has the pairs of a relation. -/
def hasRelationFact (facts : FactBook) (type rel related : ν) : Bool :=
  (facts.relations.lookup (Name.toData type, Name.toData rel, Name.toData related)).isSome

/-- Whether a fact book has the resources with an attribute. -/
def hasAttributeFact (facts : FactBook) (attr type : ν) : Bool :=
  (facts.attributes.lookup (Name.toData attr, Name.toData type)).isSome

/-- The facts a rule needs and the book lacks. -/
def ruleFactProblems (facts : FactBook) (b : Block ν) (r : Rule ν) : List Inconsistency :=
  match r.requires with
  | .roleOn _ rel =>
    match b.related? rel with
    | none => []
    | some type =>
      if hasRelationFact facts b.name rel type then []
      else [.noRelationFact (Name.toData b.name) (Name.toData rel) (Name.toData type)]
  | .hasAttribute a =>
    if hasAttributeFact facts a b.name then []
    else [.noAttributeFact (Name.toData b.name) (Name.toData a)]
  | _ => []

/-- The facts a block needs and the book lacks. The global block needs only its role assignments. -/
def blockFactProblems (facts : FactBook) (b : Block ν) : List Inconsistency :=
  if b.isGlobal then
    if !b.roles.isEmpty && facts.globalRoles.isNone then [.noGlobalRoleFact] else []
  else
    (if !b.roles.isEmpty && !hasRoleFact facts b.name then [.noRoleFact (Name.toData b.name)]
      else []) ++
    b.rules.flatMap (ruleFactProblems facts b)

/-- Every inconsistency of a policy, and of the policy with a fact book if one is given. -/
def problems (p : Policy ν) (facts : Option FactBook) : List Inconsistency :=
  p.blocks.flatMap p.blockProblems ++
    match facts with
    | none => []
    | some book => p.blocks.flatMap (blockFactProblems book)

/-- The names of a block that validation looks up; attributes only among the facts of a resource. -/
def lookups (withFacts : Bool) (b : Block ν) : List ν :=
  b.relations.map (·.2) ++ b.rules.filterMap Rule.relationField ++
    if withFacts && !b.isGlobal then b.rules.filterMap Rule.attributeField else []

/-- Whether every name that validation looks up can be. -/
def looksUpKeys (p : Policy ν) (withFacts : Bool) : Bool :=
  p.blocks.all fun b => (lookups withFacts b).all Name.isKey

/-- Refuses an inconsistent policy, naming every problem. -/
def validate (p : Policy ν) (facts : Option FactBook) : Except Fault Unit :=
  if !p.looksUpKeys facts.isSome then .error (.shape .wrongType)
  else if (p.problems facts).isEmpty then .ok ()
  else .error (.policy (.invalidPolicy (p.problems facts)))

theorem validate_eq_ok_iff (p : Policy ν) (facts : Option FactBook) :
    p.validate facts = .ok () ↔ p.looksUpKeys facts.isSome = true ∧ p.problems facts = [] := by
  unfold validate
  cases p.looksUpKeys facts.isSome <;> simp

/-- A policy whose names are texts has no name that cannot be looked up. -/
theorem looksUpKeys_string (p : Policy) (withFacts : Bool) : p.looksUpKeys withFacts = true := by
  simp [looksUpKeys]

end RowGuard.Policy
