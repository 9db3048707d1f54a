import RowGuard.Session.Script

/-!
# Programs in a scope

A program is a sequence of items that use a scope: they begin and end transactions, run statements, and
may close or break the connection under it. What every item answers is recorded in a trace. An item's
fault is recorded and the program goes on, unless the item is loud: then the fault leaves the scope. The
trace also has what the scope is asked before it is entered and after it was left.
-/

namespace RowGuard

/-- What an item of a program does. -/
inductive ScopeStep where
  | begin
  | commit
  | rollback
  | inTransaction
  | execute (sql : String) (parameters : List (String × Data))
  | close
  | sever
  | script (item : ScriptItem)
deriving Inhabited

/-- An item of a program. -/
structure ScopeItem where
  step : ScopeStep
  loud : Bool := false
deriving Inhabited

/-- An item of a program in a detached scope: a step of a script, which may be committed. -/
structure DetachedItem where
  item : ScriptItem
  commits : Bool := false
deriving Inhabited

namespace Sys

/-- Records what an item has answered. -/
def note (answer : Except Fault Data) : Sys Unit :=
  modify fun s => { s with trace := answer :: s.trace }

/-- Replaces the connection that operations work on. -/
def changeLink (change : Link → Link) : Sys Unit :=
  modify fun s => { s with link := s.link.map change }

end Sys

/-- A command's answer as plain data. -/
def CommandAnswer.toData : CommandAnswer → Data
  | rows found => .list (found.map Row.plain)
  | count (some n) => .int n
  | count none => .int (-1)

namespace ScopeStep

/-- Does what an item says. -/
def run : ScopeStep → Sys Data
  | begin => do Scope.begin; return .null
  | commit => do Scope.commit; return .null
  | rollback => do Scope.rollback; return .null
  | inTransaction => return .bool (← Scope.inTransaction)
  | execute sql parameters =>
    return (← Scope.execute (Command.statementOfSql sql parameters)).toData
  | close => do Sys.changeLink Link.close; return .null
  | sever => do Sys.changeLink Link.sever; return .null
  | script item => return (← item.run).getD .null

end ScopeStep

namespace Scope

/-- Runs an item and records its answer; a loud item's fault is not recorded but raised. -/
def runItem (i : ScopeItem) : Sys Unit := do
  match ← Sys.attempt i.step.run with
  | .ok d => Sys.note (.ok d)
  | .error f => if i.loud then throw f else Sys.note (.error f)

/-- Runs an operation and records what it makes of the trace that was empty before. -/
def traced (body : Sys Unit) : Sys (List (Except Fault Data)) := do
  modify fun s => { s with trace := [] }
  body
  return (← get).trace.reverse

/-- Runs a program in a scope. -/
def program (bind : Bind) (operation : String) (items : List ScopeItem) :
    Sys (List (Except Fault Data)) :=
  traced do
    Sys.note (.error (.scope .inactive))
    let outcome ← Sys.attempt (within bind operation (items.forM runItem))
    Sys.note (outcome.map fun _ => .null)
    Sys.note (.ok (.bool false))
    Sys.note (.error (.scope .inactive))

/-- Ends the transaction of the connection by committing it, if there is one that was not given up. -/
def commitAll : Sys Unit := do
  let l ← Sys.currentLink
  if l.transaction.isSome && l.stage != .abandoned then Sys.commitHere .outermost

/-- Runs an item in a detached scope. -/
def runDetachedItem (i : DetachedItem) : Sys Unit := do
  let answer ← i.item.run
  if i.commits then commitAll
  Sys.note (.ok (answer.getD .null))

/-- Runs a program in a detached scope, which any fault leaves. -/
def detachedProgram (bind : Bind) (operation : String) (items : List DetachedItem) :
    Sys (List (Except Fault Data)) :=
  traced do
    Sys.note (.error (.scope .inactiveAsync))
    match ← Sys.attempt (withinDetached bind operation (items.forM runDetachedItem)) with
    | .ok _ => pure ()
    | .error f => Sys.note (.error f)
    Sys.note (.error (.scope .inactiveAsync))

end Scope

end RowGuard
