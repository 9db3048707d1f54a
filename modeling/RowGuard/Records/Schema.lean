import RowGuard.Database.Basic

/-!
# The schema of the records application

Organizations, users and documents, and the roles users hold on documents. A user has one role in one
organization. Whoever belongs to the organization `_` holds its role globally.
-/

namespace RowGuard.Records

/-- The organization whose roles hold globally. -/
def globalOrg : String := "_"

/-- The administrator every database starts with. -/
def rootUser : String := "root"

/-- The roles in an organization, in ascending order of privilege. -/
def organizationRoles : List String := ["member", "admin"]

/-- The roles on a document, in ascending order of privilege. -/
def documentRoles : List String := ["viewer", "editor", "manager", "owner"]

/-- The type of a role in an organization. -/
def organizationRole : ColumnType := .enumeration "organization_role" organizationRoles

/-- The type of a role on a document. -/
def documentRole : ColumnType := .enumeration "document_role" documentRoles

namespace Columns

def organizationName : Column := { name := "name", type := .text, isKey := true }

def username : Column := { name := "username", type := .text, isKey := true }

/-- The organization something belongs to. -/
def org : Column :=
  { name := "org", type := .text, reference := some ⟨"organizations", "name", false⟩ }

def userRole : Column := { name := "role", type := organizationRole }

def documentId : Column := { name := "id", type := .integer, isKey := true }

def title : Column := { name := "title", type := .text }

def isPublic : Column := { name := "public", type := .boolean, preset := some (.int 0) }

/-- The document a role is held on. -/
def grantDocument : Column :=
  { name := "document_id", type := .integer, isKey := true,
    reference := some ⟨"documents", "id", true⟩ }

/-- The user who holds a role on a document. -/
def grantUser : Column :=
  { name := "username", type := .text, isKey := true,
    reference := some ⟨"users", "username", true⟩ }

def grantRole : Column := { name := "role", type := documentRole }

end Columns

def organizations : Schema := ⟨"organizations", [Columns.organizationName]⟩

def users : Schema := ⟨"users", [Columns.username, Columns.org, Columns.userRole]⟩

def documents : Schema :=
  ⟨"documents", [Columns.documentId, Columns.org, Columns.title, Columns.isPublic]⟩

def documentUserRoles : Schema :=
  ⟨"document_user_roles", [Columns.grantDocument, Columns.grantUser, Columns.grantRole]⟩

/-- The tables of the application. -/
def schemas : List Schema := [organizations, users, documents, documentUserRoles]

/-- The database without any rows. -/
def emptyDatabase : Database := ⟨schemas.map fun s => ⟨s, []⟩⟩

end RowGuard.Records
