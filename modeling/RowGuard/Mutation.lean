import RowGuard.Evaluator.Basic

/-!
# Guarded mutations

A mutation of one resource is authorized and carried out in one transaction on one connection, so that
the check sees exactly the state that is changed. A denial rolls back before the mutation has run.
-/

namespace RowGuard.Mutation

/-- What is to be done to which resource. -/
structure Request where
  action : Data
  resource : Resource

/-- The name of the operation that carries out a mutation. -/
def Request.operation (r : Request) : String := r.action.plain ++ " " ++ r.resource.type.plain

/-- Checks and mutates in a transaction of the innermost scope. -/
def body {α : Type} (e : Evaluator) (s : Subject) (r : Request) (mutation : Sys α) : Sys α := do
  Scope.begin
  if !(← e.check true s r.action r.resource).truthy then
    Scope.rollback
    throw (.denied (Denial.ofCheck s r.action r.resource none))
  let a ← mutation
  Scope.commit
  return a

/-- Logs that a mutation was committed. -/
def logCommitted (s : Subject) (r : Request) : Sys Unit :=
  Sys.log .info .decisions
    s!"Guarded {r.action.plain} on {r.resource.describe} by {s.describe} committed"

/-- Authorizes an action on a resource and carries it out. -/
def guarded {α : Type} (e : Evaluator) (bind : Bind) (given : Option Config) (s : Subject)
    (r : Request) (mutation : Sys α) : Sys α := do
  let config ← Sys.configOr given
  let a ← Scope.within bind r.operation (body e s r mutation)
  if config.logs then logCommitted s r
  return a

/-- Authorizes and carries out an action in a detached scope. -/
def guardedDetached {α : Type} (e : Evaluator) (bind : Bind) (given : Option Config) (s : Subject)
    (r : Request) (mutation : Sys α) : Sys α :=
  Scope.withinDetached bind r.operation (guarded e .connection given s r mutation)

end RowGuard.Mutation
