import RowGuard.Database.Reading
import RowGuard.Listing.Execution
import RowGuard.Records.Context

/-!
# Document services

Creating, listing, publishing, sharing and deleting documents. Whoever creates a document owns it. A user
has at most one role on a document: sharing replaces the one there was.
-/

namespace RowGuard.Records

/-- The permissions that are listed with every document. -/
def documentPermissions : List String := ["edit", "manage_share", "set_public", "delete"]

/-- The documents the requester may read. -/
def listDocuments (c : Context) : Sys Listing :=
  Listing.list c.evaluator c.bind c.config c.subject
    { type := .text "Document", extras := documentPermissions.map .text }

/-- Gives a user a role on a document. -/
def insertGrant (document username role : Data) : Sys Unit :=
  Sys.execute (.insert documentUserRoles
    [("document_id", document), ("username", username), ("role", role)])

/-- Adds a document with its owner; the answer is its number. -/
def insertDocument (org title owner : Data) : Sys Data := do
  let stored ← Sys.execute (.insertReturning documents [("org", org), ("title", title)] "id")
  let id : Data := .scalar stored.plain
  insertGrant id owner (.text "owner")
  return id

/-- Creates a document in an organization. -/
def createDocument (c : Context) (org title : Data) : Sys Outcome :=
  reporting .documents ("not permitted to create documents in Organization " ++ org.plain)
    ("create_document in " ++ org.shown ++ " by " ++ c.subject.describe) do
      let id ← c.mutate "create_document" (organizationResource org)
        (insertDocument org title c.subject.id)
      Sys.log .info .documents
        (c.subject.describe ++ " created document " ++ id.shown ++ " in " ++ org.shown)
      return .done id

/-- Publishes a document or takes that back. -/
def setDocumentPublic (c : Context) (id isPublic : Data) : Sys Unit :=
  c.mutate "set_public" (documentResource id) do
    let _ ← Sys.execute (.update documents [("id", id)] [("public", isPublic)])

/-- Whether a role is one that users have on documents. -/
def isDocumentRole (role : Data) : Bool :=
  role.text?.any documentRoles.contains

/-- Replaces the role a user has on a document. -/
def replaceGrant (document username role : Data) : Sys Unit := do
  let _ ← Sys.execute (.delete documentUserRoles [("document_id", document), ("username", username)])
  insertGrant document username role

/-- A document's number as logs show it: a number of any kind as a whole one. -/
def numberText (id : Data) : String :=
  match id.number? with
  | some n => ((n.value.truncate?).map toString).getD id.plain
  | none => id.plain

/-- Shares a document with a user. -/
def shareDocument (c : Context) (id username role : Data) : Sys Outcome :=
  if !isDocumentRole role then return .failed ("invalid role " ++ role.shown)
  else
    reporting .documents ("not permitted to share Document " ++ id.plain)
      ("share_document " ++ numberText id ++ " by " ++ c.subject.describe) do
        c.mutate "manage_share" (documentResource id) (replaceGrant id username role)
        return .done role

/-- Removes a document and the roles held on it. -/
def removeDocument (id : Data) : Sys Unit := do
  let _ ← Sys.execute (.delete documentUserRoles [("document_id", id)])
  let _ ← Sys.execute (.delete documents [("id", id)])

/-- Deletes a document. -/
def deleteDocument (c : Context) (id : Data) : Sys Unit :=
  c.mutate "delete" (documentResource id) (removeDocument id)

end RowGuard.Records
