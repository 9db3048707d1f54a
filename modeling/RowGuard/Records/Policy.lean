import RowGuard.Facts.Book
import RowGuard.Policy.Naming
import RowGuard.Records.Schema
import RowGuard.Registry
import RowGuard.Text.Sorted

/-!
# The policy of the records application

Who may do what with organizations, users and documents, which queries answer the policy's facts, and
where the resources are stored. Global roles are the roles held in the organization `_`, so membership
of it reaches much further than membership of any other.
-/

namespace RowGuard.Records

/-- The permissions and roles of the system as a whole. -/
def globalBlock : Block where
  name := globalType
  roles := ["admin"]
  permissions := ["create_org"]
  rules := [⟨"create_org", .role "admin"⟩]

def organizationBlock : Block where
  name := "Organization"
  roles := ["member", "admin"]
  permissions := ["read", "create_user", "create_document", "list_users"]
  rules := [
    ⟨"member", .role "admin"⟩,
    ⟨"admin", .globalRole "admin"⟩,
    ⟨"read", .role "member"⟩,
    ⟨"list_users", .role "member"⟩,
    ⟨"create_document", .role "member"⟩,
    ⟨"create_user", .role "admin"⟩]

def userBlock : Block where
  name := "User"
  permissions := ["read", "edit_role", "delete"]
  relations := [("parent", "Organization")]
  rules := [
    ⟨"read", .roleOn "member" "parent"⟩,
    ⟨"edit_role", .roleOn "admin" "parent"⟩,
    ⟨"delete", .roleOn "admin" "parent"⟩]

def documentBlock : Block where
  name := "Document"
  roles := ["viewer", "editor", "manager", "owner"]
  permissions := ["read", "edit", "manage_share", "set_public", "delete"]
  relations := [("belongs_to", "Organization")]
  rules := [
    ⟨"viewer", .role "editor"⟩,
    ⟨"editor", .role "manager"⟩,
    ⟨"manager", .role "owner"⟩,
    ⟨"owner", .roleOn "admin" "belongs_to"⟩,
    ⟨"viewer", .roleOn "member" "belongs_to"⟩,
    ⟨"read", .role "viewer"⟩,
    ⟨"read", .hasAttribute "public"⟩,
    ⟨"edit", .role "editor"⟩,
    ⟨"manage_share", .role "manager"⟩,
    ⟨"set_public", .role "manager"⟩,
    ⟨"delete", .role "owner"⟩]

/-- The policy. -/
def policy : Policy := ⟨[globalBlock, organizationBlock, userBlock, documentBlock], .text "User"⟩

/-- A column as a fact query selects it. -/
def select (c : Column) : SelectedColumn := ⟨c.name, c.type, false⟩

/-- A role column as a fact query selects it. -/
def selectRole (c : Column) : SelectedColumn := ⟨c.name, c.type, true⟩

/-- The queries answering the policy's facts. -/
def facts : FactBook where
  roles := [
    (.text "Organization", .selection ⟨users.name,
      [select Columns.username, selectRole Columns.userRole, select Columns.org], none, false⟩),
    (.text "Document", .selection ⟨documentUserRoles.name,
      [select Columns.grantUser, selectRole Columns.grantRole, select Columns.grantDocument],
      none, false⟩)]
  globalRoles := some <| .selection ⟨users.name,
    [select Columns.username, selectRole Columns.userRole],
    some (.equals Columns.org.name (some .text) (.text globalOrg)), true⟩
  relations := [
    ((.text "User", .text "parent", .text "Organization"), .selection ⟨users.name,
      [select Columns.username, select Columns.org], none, false⟩),
    ((.text "Document", .text "belongs_to", .text "Organization"), .selection ⟨documents.name,
      [select Columns.documentId, select Columns.org], none, false⟩)]
  attributes := [
    ((.text "public", .text "Document"), .selection ⟨documents.name, [select Columns.documentId],
      some (.isTrue Columns.isPublic.name), false⟩)]
  sqlTypes := [(.text "User", .text), (.text "Organization", .text), (.text "Document", .integer)]

/-- Where each resource type is stored. -/
def mappings : List Mapping := [
  ⟨.text "Organization", organizations, Columns.organizationName⟩,
  ⟨.text "User", users, Columns.username⟩,
  ⟨.text "Document", documents, Columns.documentId⟩]

/-- Registers the application's tables; the registry keeps those registered before a failure. -/
def registerAll (r : Registry) : Except Fault Unit × Registry :=
  mappings.foldl (fun (outcome, registry) m =>
    match outcome with
    | .error f => (.error f, registry)
    | .ok () =>
      match registry.register m.type m.table m.table m.identity with
      | .ok registry' => (.ok (), registry')
      | .error f => (.error f, registry)) (.ok (), r)

/-- The registry with the application's tables alone. -/
def registry : Registry := ⟨mappings⟩

section Drift

variable {ν : Type} [BEq ν] [Name ν]

/-- How the declared roles of a resource type differ from the stored ones, if they do. -/
def drift? (p : Policy ν) (enumeration : String) (stored : List String) (type : String) :
    Except Fault (Option RoleDrift) := do
  let declared := ((p.blocks.find? fun b => Name.isText b.name type).map (·.roles)).getD []
  Name.requireKeys declared
  if declared.all (fun r => stored.any (Name.isText r)) &&
      stored.all (fun s => declared.any (Name.isText · s)) then
    return none
  else
    let shown := (← Name.inOrder declared.eraseDups).map Name.toData
    return some ⟨enumeration, (Text.sortedSet stored).map .text, shown, type⟩

/-- Checks that the stored roles are exactly the policy's roles, naming every set that differs. -/
def verifyRoles (p : Policy ν) : Except Fault Unit := do
  let organization ← drift? p "organization_role" organizationRoles "Organization"
  let document ← drift? p "document_role" documentRoles "Document"
  match organization.toList ++ document.toList with
  | [] => return ()
  | drifts => throw (.policy (.roleDrift drifts))

end Drift

end RowGuard.Records
