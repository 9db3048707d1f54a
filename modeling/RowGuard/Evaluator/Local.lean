import RowGuard.Condition.Compile
import RowGuard.Condition.Meaning
import RowGuard.Evaluator.Basic
import RowGuard.Policy.Naming

/-!
# The local evaluator

The local evaluator answers from the database that holds the guarded rows: it compiles the policy
against the fact queries. A point check runs the condition on the resource's identity as a bound value;
a list condition is the condition's text for a column.
-/

namespace RowGuard

/-- A policy with its facts, to be evaluated on a database. Without an engine of its own it can check
only on a caller's connection. -/
structure LocalEvaluator (ν : Type := String) where
  policy : Policy ν
  facts : FactBook
  dialect : Dialect := .sqlite
  hasEngine : Bool := true
  config : Option Config := none

namespace LocalEvaluator

variable {ν : Type} [BEq ν] [ReflBEq ν] [Name ν]

omit [ReflBEq ν] in
/-- An evaluator of a policy, which is validated against its facts if asked for. -/
def build (policy : Policy ν) (facts : FactBook) (dialect : Option Dialect) (hasEngine : Bool)
    (config : Option Config) (validate : Bool) : Except Fault (LocalEvaluator ν) := do
  let dialect ←
    match dialect, hasEngine with
    | some d, _ => pure d
    | none, true => pure .sqlite
    | none, false => throw (.usage .noDialect)
  if validate then policy.validate (some facts)
  return ⟨policy, facts, dialect, hasEngine, config⟩

omit [BEq ν] [ReflBEq ν] in
/-- The evaluator in one line. -/
def describe (e : LocalEvaluator ν) : Except Fault String := do
  let types ← Name.inOrder (e.policy.blocks.map (·.name))
  return "LocalPolicyEvaluator(actor=" ++ e.policy.actorType.shown ++ ", resources=" ++
    (Data.list (types.map Name.toData)).shown ++ ", dialect=" ++ Text.quoted e.dialect.name ++ ")"

omit [ReflBEq ν] in
/-- An action and a resource type as names of the policy, if it declares the action for the type. -/
def declared? (e : LocalEvaluator ν) (action type : Data) : Except Fault (Option (ν × ν)) := do
  type.requireKey
  match Name.ofData? action, Name.ofData? type with
  | some a, some t => return if e.policy.declares t a then some (a, t) else none
  | _, _ => return none

/-- The condition for an action on the resources of a type. The policy has to declare the action unless
undeclared actions are simply denied. -/
def condition (e : LocalEvaluator ν) (config : Config) (s : Subject) (action type : Data) :
    Except Fault Condition := do
  match ← e.declared? action type with
  | some (a, t) => e.policy.condition e.facts s t [a]
  | none =>
    match config.onUndeclared with
    | .deny => return []
    | .refuse => throw (.policy (.undeclaredAction action type))

omit [BEq ν] [ReflBEq ν] [Name ν] in
/-- A resource's identity as a value in a statement. -/
def target (e : LocalEvaluator ν) (r : Resource) : Literal := ⟨r.id, e.facts.idType r.type⟩

/-- The statement that tests a condition on a bound identity. Parameters of a fact query have no
values to be bound. -/
def test (c : Condition) (target : Literal) : Link.Statement Bool where
  refused :=
    if c.hasParameters then some .binding else Condition.bindFault? (c.literals (some target))
  run db :=
    if !c.runs db then .error (.sql .operational)
    else if !Condition.allFit (c.literals (some target)) then .error (.shape .outOfRange)
    else .ok (c.holds db Literal.bound (.bare target.bound), db)

/-- Tests a condition that can be written as a statement. -/
def ask (c : Condition) (target : Literal) : Sys Bool := do
  match Clause.nameFault?.ofAll c with
  | some f => throw f
  | none => Sys.execute (test c target)

/-- Logs the answer to a point check. -/
def logCheck (s : Subject) (action : Data) (r : Resource) (allowed : Bool) : Sys Unit :=
  if allowed then
    Sys.log .info .decisions s!"Check allowed: {s.describe} may {action.plain} {r.describe}"
  else
    Sys.log .warning .decisions s!"Check denied: {s.describe} may not {action.plain} {r.describe}"

/-- Answers a point check. -/
def check (e : LocalEvaluator ν) (onCallersLink : Bool) (s : Subject) (action : Data)
    (r : Resource) : Sys Bool := do
  let config ← Sys.configOr e.config
  let c ← Sys.ofExcept (e.condition config s action r.type)
  let answer := ask c (e.target r)
  let allowed ←
    if onCallersLink then answer
    else if e.hasEngine then Scope.within (.engine true) "policy check" answer
    else throw (.usage .checkWithoutConnection)
  if config.logs then logCheck s action r allowed
  return allowed

/-- Logs the compilation of a list condition. -/
def logCompilation (s : Subject) (f : Fragment) : Sys Unit := do
  let named := f.resourceType.plain ++ "." ++ f.action.plain
  Sys.log .info .decisions
    s!"List condition compiled: {named} for {s.describe} on {f.columnRef.plain}"
  Sys.log .debug .decisions s!"Condition for {named}: {f.sql.plain}"

/-- Compiles the condition for an action on a column. -/
def compile (e : LocalEvaluator ν) (s : Subject) (action type columnRef : Data) :
    Sys FragmentId := do
  let config ← Sys.configOr e.config
  let c ← Sys.ofExcept (e.condition config s action type)
  let sql ← Sys.ofExcept (c.forColumn e.dialect columnRef)
  let f : Fragment :=
    { columnRef, sql := .text sql, action, resourceType := type, predicate := .condition c }
  let id ← Sys.addFragment f
  if config.logs then logCompilation s f
  return id

/-- The evaluator as guarded operations see it. -/
def toEvaluator (e : LocalEvaluator ν) : Evaluator where
  check onCallersLink s action r := do return .bool (← e.check onCallersLink s action r)
  compile := e.compile

end LocalEvaluator

end RowGuard
