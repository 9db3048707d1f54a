import RowGuard.System

/-!
# Scopes

A scope holds a connection for one operation, either one of its own or one it was lent. Inside it a
transaction can be begun, which is a savepoint when the lender has one running already. Whatever way a
scope is left, a transaction that it began and did not end is rolled back, and a fault of the database
reaches the caller as one `dataAccess` fault that names the operation and has been logged once.
-/

namespace RowGuard

/-- Where an operation gets its connection: from the engine, which may not be reachable, or from the
caller. -/
inductive Bind where
  | engine (reachable : Bool)
  | connection
deriving DecidableEq

namespace Sys

/-- The connection that operations work on. -/
def currentLink : Sys Link := do
  match (← get).link with
  | some l => return l
  | none => throw (.scope .inactive)

/-- Puts back a connection after it was used, and raises what the use refused. -/
def settle {α : Type} (outcome : Except SqlFault α) (l : Link) : Sys α := do
  modify fun s => { s with link := some l }
  ofExcept (outcome.mapError .sql)

/-- Begins a transaction or savepoint on the connection. -/
def beginHere : Sys Handle := do
  let (outcome, l) := (← currentLink).begin
  settle outcome l

/-- Commits what was begun on the connection. -/
def commitHere (h : Handle) : Sys Unit := do
  let (outcome, l, disk) := (← currentLink).commit (← get).disk (← get).lent h
  modify fun s => { s with disk }
  settle outcome l

/-- Rolls back what was begun on the connection. -/
def rollbackHere (h : Handle) : Sys Unit := do
  let (outcome, l) := (← currentLink).rollback h
  settle outcome l

/-- Runs a statement on the connection. -/
def execute {α : Type} (statement : Link.Statement α) : Sys α := do
  let (outcome, l) := (← currentLink).execute (← get).disk (← get).lent statement
  modify fun s => { s with link := some l }
  ofExcept outcome

/-- What the connection sees of the database; without a connection, what is stored. -/
def view : Sys Database := do
  let s ← get
  return (s.link.map (·.view s.disk)).getD s.disk

end Sys

namespace Scope

/-- Logs that an operation's access to the database failed, and raises that. -/
def fail {α : Type} (operation : String) : Sys α := do
  Sys.log .error .dataAccess ("Data access failed during " ++ operation)
  throw (.dataAccess operation)

/-- Turns a fault of the database into the failure of an operation. -/
def reporting {α : Type} (operation : String) (body : Sys α) : Sys α :=
  body.handling fun f => if f.isSql then fail operation else throw f

/-- The innermost scope. -/
def current : Sys Scope := do
  match (← get).scope with
  | some scope => return scope
  | none => throw (.scope .inactive)

/-- Remembers what the innermost scope has begun. -/
def setHandle (h : Option Handle) : Sys Unit :=
  modify fun s => { s with scope := s.scope.map fun scope => { scope with handle := h } }

/-- Whether what the innermost scope has begun is still in progress. -/
def inTransaction : Sys Bool := do
  let s ← get
  return match s.scope.bind (·.handle), s.link with
    | some h, some l => l.isAlive h
    | _, _ => false

/-- Begins a transaction, or a savepoint inside the lender's transaction. -/
def begin : Sys Unit := do
  if ← inTransaction then throw (.scope .transactionOpen)
  let scope ← current
  let h ← reporting scope.operation Sys.beginHere
  setHandle (some h)

/-- What the innermost scope has begun, if it has. -/
def requireHandle : Sys Handle := do
  match (← current).handle with
  | some h => return h
  | none => throw (.scope .noTransaction)

/-- Ends what the innermost scope has begun; it counts as ended even if that fails. -/
def ending (finish : Handle → Sys Unit) : Sys Unit := do
  let h ← requireHandle
  let scope ← current
  setHandle none
  reporting scope.operation (finish h)

/-- Commits the scope's transaction. -/
def commit : Sys Unit := ending Sys.commitHere

/-- Rolls the scope's transaction back. -/
def rollback : Sys Unit := ending Sys.rollbackHere

/-- Runs a statement in the scope. -/
def execute {α : Type} (statement : Link.Statement α) : Sys α := do
  reporting (← current).operation (Sys.execute statement)

/-- Rolls back what a scope has begun and not ended. -/
def rollbackOpen : Sys Unit := do
  if ← inTransaction then
    let h ← requireHandle
    setHandle none
    Sys.rollbackHere h

/-- Ends whatever transaction the connection is in. -/
def rollbackAll : Sys Unit := do
  if (← Sys.currentLink).inTransaction then Sys.rollbackHere .outermost

/-- Leaves a scope: cleans up, and says how the scope ended. A failure to clean up is the scope's
failure, unless the scope fails anyway. -/
def leave {α : Type} (operation : String) (cleanup : Sys Unit) (outcome : Except Fault α) : Sys α := do
  match ← Sys.attempt cleanup, outcome with
  | .error _, .ok _ => fail operation
  | .error _, .error f => do
    Sys.log .error .dataAccess ("Data access failed during " ++ operation ++ " (cleanup)")
    if f.isSql then fail operation else throw f
  | .ok (), .error f => if f.isSql then fail operation else throw f
  | .ok (), .ok a => return a

/-- Runs an operation in a scope on the current connection. -/
def held {α : Type} (operation : String) (cleanup : Sys Unit) (body : Sys α) : Sys α := do
  let outer := (← get).scope
  Sys.thenAlways
    (do
      modify fun s => { s with scope := some { operation } }
      let outcome ← Sys.attempt body
      leave operation cleanup outcome)
    fun s => { s with scope := outer }

/-- Runs an operation in a scope. A connection of its own is closed at the end. -/
def within {α : Type} (bind : Bind) (operation : String) (body : Sys α) : Sys α :=
  match bind with
  | .engine false => fail operation
  | .engine true => Sys.onLink {} (held operation (do
      let outcome ← Sys.attempt rollbackOpen
      rollbackAll
      Sys.ofExcept outcome) body)
  | .connection => held operation rollbackOpen body

/-- Runs an operation in one transaction, which is committed only if the operation completes. -/
def transaction {α : Type} (bind : Bind) (operation : String) (body : Sys α) : Sys α :=
  within bind operation do
    begin
    let a ← body
    commit
    return a

/-- Runs an operation in a scope that ends any transaction on its connection when it is left. The
operation works on the connection as one that was lent. -/
def withinDetached {α : Type} (bind : Bind) (operation : String) (body : Sys α) : Sys α :=
  match bind with
  | .engine false => fail operation
  | .engine true => Sys.onLink {} (held operation rollbackAll body)
  | .connection => held operation rollbackAll body

end Scope

end RowGuard
