import RowGuard.Evaluator.Local

/-!
# Explanations

How a subject could hold a permission on the rows of a type, and why it can or cannot do something to
one resource. Each way of obtaining the grant is shown with its own condition; for one resource it is
also tested on its own.
-/

namespace RowGuard

/-- One way of obtaining a permission, and whether it holds if that was tested. -/
structure GrantPath where
  description : String
  sql : String
  isMatch : Option Bool := none
deriving DecidableEq

/-- How a permission on a resource type can be obtained. -/
structure PermissionExplanation where
  subject : Subject
  action : Data
  type : Data
  localRoles : List Data
  related : List (Data × List Data)
  globalRoles : List Data
  attributes : List Data
  rules : List String
  paths : List GrantPath
  conditionSql : String

/-- Why a subject can or cannot do something to a resource. -/
structure AccessExplanation where
  subject : Subject
  action : Data
  resource : Resource
  paths : List GrantPath

/-- The way as plain data. -/
def GrantPath.toData (p : GrantPath) : Data :=
  .record [
    ("description", .text p.description),
    ("sql", .text p.sql),
    ("matched", (p.isMatch.map .bool).getD .null)]

namespace PermissionExplanation

/-- Whether nothing can grant the permission. -/
def deniesByDefault (x : PermissionExplanation) : Bool := x.paths.isEmpty

/-- The explanation in several lines. -/
def describe (x : PermissionExplanation) : String :=
  "\n".intercalate <|
    ["Permission " ++ x.action.shown ++ " on " ++ x.type.plain,
      "  Subject: " ++ x.subject.describe] ++
    if x.deniesByDefault then ["  DENY BY DEFAULT (no rule grants this permission)"]
    else
      ["  Rules:"] ++ x.rules.map ("    - " ++ ·) ++ ["  Paths:"] ++
        (x.paths.flatMap fun p => ["    - " ++ p.description, "      SQL: " ++ p.sql]) ++
        ["  Combined SQL: " ++ x.conditionSql]

/-- The explanation as plain data. -/
def toData (x : PermissionExplanation) : Data :=
  .record [
    ("subject_repr", .text x.subject.describe),
    ("action", x.action),
    ("resource_type", x.type),
    ("local_roles", .list x.localRoles),
    ("related_roles", .map (x.related.map fun (relation, roles) => (relation, .list roles))),
    ("global_roles", .list x.globalRoles),
    ("attributes", .list x.attributes),
    ("rules", .texts x.rules),
    ("paths", .list (x.paths.map GrantPath.toData)),
    ("condition_sql", .text x.conditionSql),
    ("deny_by_default", .bool x.deniesByDefault)]

end PermissionExplanation

namespace AccessExplanation

/-- Whether nothing can grant the action. -/
def deniesByDefault (x : AccessExplanation) : Bool := x.paths.isEmpty

/-- Whether one of the ways holds. -/
def allowed (x : AccessExplanation) : Bool := x.paths.any fun p => p.isMatch == some true

/-- The explanation in several lines. -/
def describe (x : AccessExplanation) : String :=
  "\n".intercalate <|
    ["Access Check: " ++ (if x.allowed then "ALLOWED" else "DENIED"),
      "  Subject: " ++ x.subject.describe, "  Action: " ++ x.action.plain,
      "  Resource: " ++ x.resource.type.plain ++ " (" ++ x.resource.id.shown ++ ")", ""] ++
    if x.deniesByDefault then ["  DENY BY DEFAULT (no rule grants this action)"]
    else
      ["  Path Results:"] ++ x.paths.flatMap fun p =>
        ["    - " ++ p.description ++ " [" ++
            (if p.isMatch = some true then "MATCH" else "NO MATCH") ++ "]",
          "      SQL: " ++ p.sql]

/-- The explanation as plain data. -/
def toData (x : AccessExplanation) : Data :=
  .record [
    ("subject_repr", .text x.subject.describe),
    ("action", x.action),
    ("resource_type", x.resource.type),
    ("resource_id", x.resource.id),
    ("allowed", .bool x.allowed),
    ("deny_by_default", .bool x.deniesByDefault),
    ("paths", .list (x.paths.map GrantPath.toData))]

end AccessExplanation

namespace LocalEvaluator

variable {ν : Type} [BEq ν] [ReflBEq ν] [Name ν]

/-- The ways of an action that is declared; none for one that is not. -/
def waysOf (e : LocalEvaluator ν) (s : Subject) (action type : Data) : Except Fault (List Way) := do
  match ← e.declared? action type with
  | some (a, t) => e.policy.ways e.facts s t [a]
  | none => return []

omit [ReflBEq ν] in
/-- The derivation of an action, if it is declared. -/
def derivationOf? (e : LocalEvaluator ν) (action type : Data) : Except Fault (Option (Derivation ν)) := do
  match ← e.declared? action type with
  | some (a, t) => some <$> Policy.derivation (← e.policy.blockNamed t) [a]
  | none => return none

omit [BEq ν] [ReflBEq ν] in
/-- Names in order as plain data. -/
def inOrderData (names : List ν) : Except Fault (List Data) := do
  return (← Name.inOrder names).map Name.toData

omit [ReflBEq ν] in
/-- The relations of a derivation with their roles, all in order, as plain data. -/
def relatedData (d : Derivation ν) : Except Fault (List (Data × List Data)) := do
  (← Policy.relatedInOrder d).mapM fun (relation, roles) => do
    return (Name.toData relation, ← inOrderData roles)

/-- Explains how a subject could hold a permission on the rows of a type. -/
def explainPermission (e : LocalEvaluator ν) (config : Config) (s : Subject)
    (action type columnRef : Data) : Except Fault PermissionExplanation := do
  let c ← e.condition config s action type
  let d ← e.derivationOf? action type
  let inOrder (part : Derivation ν → List ν) : Except Fault (List Data) :=
    inOrderData ((d.map part).getD [])
  let ways ← e.waysOf s action type
  let paths ← ways.mapM fun w => do
    return ({ description := w.label, sql := ← w.condition.forColumn e.dialect columnRef } : GrantPath)
  return {
    subject := s, action, type
    localRoles := ← inOrder (·.localRoles)
    related := ← (d.map relatedData).getD (.ok [])
    globalRoles := ← inOrder (·.globalRoles)
    attributes := ← inOrder (·.attributes)
    rules := ((d.map (·.rules)).getD []).map Rule.describe
    paths
    conditionSql := ← c.forColumn e.dialect columnRef }

/-- The text of a condition about a column or a literal. -/
def conditionText (d : Dialect) (target : Data ⊕ Literal) (c : Condition) : Except Fault String :=
  match target with
  | .inl columnRef => c.forColumn d columnRef
  | .inr l => c.forLiteral d l

/-- Every way of obtaining one of some grants with its text, and the text of the whole condition. -/
def clauseTexts (e : LocalEvaluator ν) (s : Subject) (type : ν) (grants : List ν)
    (target : Data ⊕ Literal) : Except Fault (List (String × String) × String) := do
  let ways ← e.policy.ways e.facts s type grants
  let texts ← ways.mapM fun w => do return (w.label, ← conditionText e.dialect target w.condition)
  return (texts, ← conditionText e.dialect target (Condition.ofWays ways))

/-- Tests one way of obtaining a grant on a resource. -/
def testWay (e : LocalEvaluator ν) (target : Literal) (w : Way) : Sys GrantPath := do
  let holds ← ask w.condition target
  let sql ← Sys.ofExcept (w.condition.forLiteral e.dialect target)
  return { description := w.label, sql, isMatch := some holds }

/-- Explains why a subject can or cannot do something to a resource. -/
def explainAccess (e : LocalEvaluator ν) (onCallersLink : Bool) (s : Subject) (action : Data)
    (r : Resource) : Sys AccessExplanation := do
  let config ← Sys.configOr e.config
  let _ ← Sys.ofExcept (e.condition config s action r.type)
  let ways ← Sys.ofExcept (e.waysOf s action r.type)
  let tests := ways.mapM (e.testWay (e.target r))
  let paths ←
    if onCallersLink then tests
    else if e.hasEngine then Scope.within (.engine true) "explain access" tests
    else throw (.usage .explainWithoutConnection)
  return ⟨s, action, r, paths⟩

end LocalEvaluator

end RowGuard
