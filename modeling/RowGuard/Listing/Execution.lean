import RowGuard.Evaluator.Basic
import RowGuard.Listing.Plan

/-!
# Listing rows

A listing is planned before a connection is used: every fragment is compiled and placed, the one for
reading first to be compiled and last to be placed. The planned selection is then run once.
-/

namespace RowGuard.Listing

/-- What a listing asks for. -/
structure Request where
  type : Data
  extras : List Data := []
  extractSelf : Bool := false
  order : List SortKey := []

/-- The permission that decides which rows are listed. -/
def readPermission : String := "read"

/-- Refuses a listing that asks twice for a permission, or for a subject's own row among the rows of
another type. -/
def Request.check (r : Request) (s : Subject) : Except Fault Unit :=
  if !r.extras.all Data.isKey then .error (.shape .wrongType)
  else if r.extras.eraseDups.length ≠ r.extras.length then
    .error (.argument (.repeatedExtras r.extras))
  else if r.extractSelf && s.type != r.type then
    .error (.argument (.selfOfOtherType s.type r.type))
  else .ok ()

/-- Compiles the fragment of a further permission and places it as a column. -/
def planExtra (e : Evaluator) (s : Subject) (type : Data) (m : Mapping) (permission : Data) :
    Sys (Data × Fragment) := do
  let id ← e.compile s permission type (.text m.columnRef)
  return (permission, ← Sys.embedFragment id (some m.columnRef))

/-- Plans a listing. -/
def plan (e : Evaluator) (s : Subject) (r : Request) : Sys Plan := do
  let m ← Sys.ofExcept ((← get).globals.registry.lookup r.type)
  Sys.ofExcept (r.check s)
  let id ← e.compile s (.text readPermission) r.type (.text m.columnRef)
  let extras ← r.extras.mapM (planExtra e s r.type m)
  let read ← Sys.embedFragment id (some m.columnRef)
  return ⟨s, m, read, extras, r.order, r.extractSelf⟩

/-- The name of the operation that lists resources of a type. -/
def operation (type : Data) : String := "list " ++ type.plain

/-- Runs a planned listing. -/
def execute (bind : Bind) (p : Plan) : Sys Listing := do
  let rows ← Scope.within bind (operation p.mapping.type) (Scope.execute p.statement)
  Sys.ofExcept (p.listing rows)

/-- Logs how many rows were listed, if decisions are logged. -/
def logListed (given : Option Config) (s : Subject) (r : Request) (l : Listing) : Sys Unit := do
  if (← Sys.configOr given).logs then
    Sys.log .info .decisions
      s!"Listed {l.rows.length} {r.type.plain} row(s) readable by {s.describe}"

/-- Lists the rows of a type that a subject may read. -/
def list (e : Evaluator) (bind : Bind) (given : Option Config) (s : Subject) (r : Request) :
    Sys Listing := do
  let config ← Sys.configOr given
  let p ← plan e s r
  let l ← execute bind p
  logListed (some config) s r l
  return l

/-- Lists the rows of a type in a detached scope. -/
def listDetached (e : Evaluator) (bind : Bind) (given : Option Config) (s : Subject) (r : Request) :
    Sys Listing := do
  let p ← plan e s r
  let l ← Scope.withinDetached bind (operation r.type) (execute .connection p)
  logListed given s r l
  return l

end RowGuard.Listing
