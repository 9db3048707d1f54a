import RowGuard.Database.Reading
import RowGuard.Fragment.Meaning
import RowGuard.Records.Context

/-!
# Organization services

Creating organizations, and the organizations in which somebody may create users.
-/

namespace RowGuard.Records

/-- Adds an organization. -/
def insertOrganization (name : Data) : Sys Unit :=
  Sys.execute (.insert organizations [("name", name)])

/-- Creates an organization. The one whose roles hold globally cannot be created again. -/
def createOrganization (c : Context) (name : Data) : Sys Outcome :=
  if name = .text globalOrg then return .failed ("organization name " ++ name.shown ++ " is reserved")
  else
    reporting .organizations "not permitted to create organizations"
      ("create_organization " ++ name.shown ++ " by " ++ c.subject.describe) do
        c.mutate "create_org" Resource.global (insertOrganization name)
        Sys.log .info .organizations
          (c.subject.describe ++ " created organization " ++ name.shown)
        return .done name

/-- The names of the organizations that pass a fragment, in order. -/
def organizationNames (f : Fragment) : Link.Statement (List Data) where
  run db :=
    match db.table? organizations.name with
    | none => .error (.sql .operational)
    | some t =>
      if f.runs db organizations then
        let rows := t.sortedRows.filter (f.admits db organizations 0)
        .ok (rows.map fun (row : Row) => .scalar (row.head?.getD .null).plain, db)
      else .error (.sql .operational)

/-- The names of the organizations in which the requester may create users. -/
def organizationsToManage (c : Context) : Sys (List Data) := do
  let m ← Sys.ofExcept ((← get).globals.registry.lookup (.text "Organization"))
  let id ← c.evaluator.compile c.subject (.text "create_user") (.text "Organization")
    (.text m.columnRef)
  let f ← Sys.embedFragment id (some (organizations.name ++ "." ++ Columns.organizationName.name))
  Scope.within c.bind "list create_user organizations" (Scope.execute (organizationNames f))

end RowGuard.Records
