import RowGuard.Condition.Basic
import RowGuard.Condition.Goal
import RowGuard.Policy.Naming

/-!
# Compiling a policy

`Policy.condition` turns a policy and a fact book into the condition under which a subject holds one of
some grants on a resource of a type. The clauses come in a fixed order: roles on the resource, global
roles, relations by name, attributes by name. A goal that is met again on the way to itself adds no
clauses, and a relation whose related resource offers no way at all is left out. Roles that a condition
speaks of have to be texts.
-/

namespace RowGuard.Policy

variable {ν : Type} [BEq ν] [Name ν]

/-- Names in one line. -/
def listed (names : List String) : String := ", ".intercalate names

/-- The literal of a subject, who has to be an actor of the policy. -/
def subjectLiteral (p : Policy ν) (facts : FactBook) (s : Subject) : Except Fault Literal :=
  if p.isActor s then .ok ⟨s.id, facts.idType p.actorType⟩
  else .error (.policy (.wrongActor p.actorType s.type))

/-- The way of holding one of some global roles. -/
def globalWay (p : Policy ν) (facts : FactBook) (s : Subject) (roles : List String) :
    Except Fault Way := do
  let fact ← facts.globalRole p.actorType
  let subject ← p.subjectLiteral facts s
  return ⟨"global role " ++ listed roles, .globalRole fact subject roles⟩

/-- The way of holding one of some global roles; there is none without roles. -/
def globalWays (p : Policy ν) (facts : FactBook) (s : Subject) (roles : List ν) :
    Except Fault (List Way) :=
  if roles.isEmpty then .ok []
  else do return [← p.globalWay facts s (← Name.textsInOrder roles)]

/-- The way of holding one of some roles on the resource itself. -/
def localWays (p : Policy ν) (facts : FactBook) (s : Subject) (type : ν) (roles : List ν) :
    Except Fault (List Way) :=
  if roles.isEmpty then .ok []
  else if Name.isText type globalType then p.globalWays facts s roles
  else do
    let names ← Name.textsInOrder roles
    let fact ← facts.role p.actorType (Name.toData type)
    let subject ← p.subjectLiteral facts s
    return [⟨"role " ++ listed names ++ " on " ++ Name.plain type, .role fact subject names⟩]

/-- The way of being related to a resource that meets a condition, unless nothing meets it. -/
def relatedWays (roles : List ν) (relation : ν) (fact : Subquery) (inner : List Way) :
    Except Fault (List Way) :=
  if inner.isEmpty then .ok []
  else do
    let names ← Name.textsInOrder roles
    return [⟨"role " ++ listed names ++ " on " ++ Name.plain relation,
      .related fact (Condition.ofWays inner)⟩]

/-- The way of having an attribute. -/
def attributeWay (facts : FactBook) (type name : ν) : Except Fault Way := do
  return ⟨"is_" ++ Name.plain name,
    .hasAttribute (← facts.attr (Name.toData name) (Name.toData type))⟩

/-- The relations of a derivation by name, each with its roles. -/
def relatedInOrder (d : Derivation ν) : Except Fault (List (ν × List ν)) := do
  return (← Name.inOrder (d.related.map (·.1))).map fun rel =>
    (rel, (d.related.lookup rel).getD [])

/-- Every way of reaching a goal that is not on the path already. -/
def waysTo [ReflBEq ν] (p : Policy ν) (facts : FactBook) (s : Subject) (start : Goal ν)
    (path : List (Goal ν)) (goal : Goal ν) (_hgoal : goal ∈ p.goals start) :
    Except Fault (List Way) :=
  -- the search that is under way for the same goal finds all that this one could
  if _hpath : path.any goal.same = true then .ok []
  else
    match hblock : p.block? goal.type with
    | none => .error (.policy (.undeclaredType (Name.toData goal.type)))
    | some block => do
      let d ← derivation block goal.grants
      let locals ← p.localWays facts s goal.type d.localRoles
      let globals ← p.globalWays facts s d.globalRoles
      let related ← (← relatedInOrder d).mapM fun (relation, roles) => do
        match hrelated : block.related? relation with
        | none =>
          throw (.policy (.undeclaredRelation (Name.toData relation) (Name.toData goal.type)))
        | some type =>
          let fact ← facts.relation (Name.toData goal.type) (Name.toData relation) (Name.toData type)
          let inner ← waysTo p facts s start (goal :: path) (p.relatedGoal type roles)
            (relatedGoal_mem_goals (mem_relatedTypes (mem_of_block? hblock) hrelated) roles start)
          relatedWays roles relation fact inner
      let attributes ← (← Name.inOrder d.attributes).mapM (attributeWay facts goal.type)
      return locals ++ globals ++ related.flatten ++ attributes
termination_by (p.unvisited start path).length
decreasing_by exact length_unvisited_lt ‹goal ∈ p.goals start› (by simpa using ‹¬path.any goal.same = true›)

/-- Every way for a subject to hold one of some grants on a resource of a type. -/
def ways [ReflBEq ν] (p : Policy ν) (facts : FactBook) (s : Subject) (type : ν) (grants : List ν) :
    Except Fault (List Way) := do
  Name.requireKeys (grants ++ [type])
  p.waysTo facts s ⟨type, grants.eraseDups⟩ [] ⟨type, grants.eraseDups⟩ (start_mem_goals p _)

/-- The condition under which a subject holds one of some grants on a resource of a type. -/
def condition [ReflBEq ν] (p : Policy ν) (facts : FactBook) (s : Subject) (type : ν)
    (grants : List ν) : Except Fault Condition := do
  return Condition.ofWays (← p.ways facts s type grants)

end RowGuard.Policy
