import RowGuard.Database.Reading
import RowGuard.Session.Command
import RowGuard.Session.Scope
import RowGuard.Session.Statement

/-!
# Scripts

A script is a short program of statements on the connection of an operation. Its value is the one it
returns, or else what its last statement that answers anything has answered.
-/

namespace RowGuard

/-- A step of a script. -/
inductive ScriptItem where
  | insert (table : String) (values : Assignments)
  | update (table : String) (filter values : Assignments)
  | delete (table : String) (filter : Assignments)
  | select (table : String) (filter : Assignments)
  | command (sql : String)
  | fault (message : String)
  | value (d : Data)
deriving Inhabited

/-- A script. -/
abbrev Script := List ScriptItem

namespace ScriptItem

/-- A table that the connection knows. -/
def schemaOf (name : String) : Sys Schema := do
  match (← get).disk.table? name with
  | some t => return t.schema
  | none => throw (.shape .missingKey)

/-- Refuses a comparison with a column that the table does not have. -/
def checkFilter (s : Schema) (filter : Assignments) : Sys Unit :=
  if filter.known s then pure () else throw (.shape .missingKey)

/-- A row as plain data. -/
def rowData (s : Schema) (row : Row) : Except Fault Data := do
  return .list ((← s.read row).map fun entry => .scalar entry.2)

/-- Runs a step; the answer is `none` where there is nothing to answer. -/
def run : ScriptItem → Sys (Option Data)
  | insert table values => do
    let s ← schemaOf table
    Sys.execute (.insert s values)
    return none
  | update table filter values => do
    let s ← schemaOf table
    checkFilter s filter
    return some (.int (← Sys.execute (.update s filter values)))
  | delete table filter => do
    let s ← schemaOf table
    checkFilter s filter
    return some (.int (← Sys.execute (.delete s filter)))
  | select table filter => do
    let s ← schemaOf table
    checkFilter s filter
    let rows ← Sys.execute (.select s filter)
    return some (.list (← Sys.ofExcept (rows.mapM (rowData s))))
  | command sql => do
    let _ ← Sys.execute (Command.statementOfSql sql [])
    return none
  | fault message => throw (.scripted message)
  | value d => return some d

/-- Whether the step ends its script. -/
def ends : ScriptItem → Bool
  | value _ => true
  | _ => false

end ScriptItem

namespace Script

/-- Runs the rest of a script, whose value so far is given. -/
def runFrom (last : Data) : Script → Sys Data
  | [] => return last
  | item :: rest => do
    let answer ← item.run
    if item.ends then return answer.getD last else runFrom (answer.getD last) rest

/-- Runs a script. -/
def run (script : Script) : Sys Data := runFrom .null script

end Script

end RowGuard
