import RowGuard.Records.Organizations
import RowGuard.Records.Users

/-!
# Setting up the database

The tables of the application, the organization whose roles hold globally and the administrator every
database starts with. Setting up a database that has them changes nothing.
-/

namespace RowGuard.Records

/-- The database with the tables it lacked. -/
def withTables (db : Database) : Database :=
  ⟨db.tables ++ (schemas.filter fun s => (db.table? s.name).isNone).map fun s => ⟨s, []⟩⟩

/-- Creates the tables that do not exist. -/
def createTables : Bind → Sys Unit
  | .engine false => throw (.sql .operational)
  | _ => modify fun s => { s with disk := withTables s.disk }

/-- Adds a row unless there is one with the given key, and logs that it did. -/
def ensure (s : Schema) (key : Assignments) (insertion : Sys Unit) (message : String) : Sys Unit := do
  if (← Sys.execute (.select s key)).isEmpty then
    insertion
    Sys.log .info .storage message

/-- Sets up the database. -/
def setUp (bind : Bind) : Sys Unit := do
  createTables bind
  Scope.transaction bind "init_db" do
    let org : Data := .text globalOrg
    let root : Data := .text rootUser
    ensure organizations [("name", org)] (insertOrganization org)
      ("Created global organization " ++ org.shown)
    ensure users [("username", root)] (insertUser root org (.text "admin"))
      ("Created bootstrap user " ++ root.shown)

end RowGuard.Records
