import RowGuard.Batch.Execution
import RowGuard.Listing.Execution
import RowGuard.Records.Context

/-!
# User services

Listing the users somebody may read, and creating, deleting and promoting users. Nobody manages
themselves: a listing sets the requester's own row apart, nobody can delete themselves, and an edit of
roles that names the requester fails as a whole.
-/

namespace RowGuard.Records

/-- The permissions that are listed with every user. -/
def userPermissions : List String := ["edit_role", "delete"]

/-- The users the requester may read. -/
def listUsers (c : Context) : Sys Listing :=
  loggingFaults .users s!"Listing users for {c.subject.describe}" <|
    Listing.list c.evaluator c.bind c.config c.subject
      { type := .text "User", extras := userPermissions.map .text, extractSelf := true }

/-- Whether a role is one that users have. -/
def isOrganizationRole (role : Data) : Bool :=
  role.text?.any organizationRoles.contains

/-- Adds a user. -/
def insertUser (username org role : Data) : Sys Unit :=
  Sys.execute (.insert users [("username", username), ("org", org), ("role", role)])

/-- Creates a user in an organization. -/
def createUser (c : Context) (username org role : Data) : Sys Outcome :=
  if !isOrganizationRole role then return .failed ("invalid role " ++ role.shown)
  else
    reporting .users ("not permitted to create user in Organization " ++ org.plain)
      ("create_user " ++ username.shown ++ " by " ++ c.subject.describe) do
        c.mutate "create_user" (organizationResource org) (insertUser username org role)
        Sys.log .info .users
          (c.subject.describe ++ " created user " ++ username.shown ++ " in " ++ org.shown)
        return .done username

/-- Removes a user. -/
def removeUser (username : Data) : Sys Unit := do
  let _ ← Sys.execute (.delete users [("username", username)])

/-- Deletes a user other than the requester. -/
def deleteUser (c : Context) (username : Data) : Sys Unit :=
  if username.same c.subject.id then
    throw <| .denied <|
      Denial.ofCheck c.subject (.text "delete") (userResource username) (some "users cannot delete themselves")
  else
    loggingFaults .users ("Deleting user " ++ username.shown ++ " by " ++ c.subject.describe) <|
      c.mutate "delete" (userResource username) (removeUser username)

/-- The roles of some updates that users cannot have, each once and in order. -/
def unknownRoles (updates : List (String × Data)) : Except Fault (List Data) :=
  let roles := updates.map (·.2)
  if !roles.all Data.isKey then .error (.shape .wrongType)
  else
    (Data.sorted? ((roles.filter fun role => !isOrganizationRole role).eraseDups)).elim
      (.error (.shape .wrongType)) .ok

/-- Gives users new roles, all of them or none. -/
def editRoles (c : Context) (updates : List (String × Data)) : Sys Nat := do
  let unknown ← Sys.ofExcept (unknownRoles updates)
  if !unknown.isEmpty then throw (.batch (.unknownRoles unknown))
  let names := Text.sortedSet (updates.map (·.1))
  loggingFaults .users
    ("Editing roles of " ++ (Data.list (names.map .text)).shown ++ " by " ++ c.subject.describe) do
      let b ← Batch.planUpdate c.evaluator c.config c.subject {
        action := .text "edit_role"
        type := .text "User"
        targets := updates.map fun (name, role) => ⟨.text name, [("role", role)]⟩
        excludeSelf := true }
      Batch.execute c.bind b

end RowGuard.Records
