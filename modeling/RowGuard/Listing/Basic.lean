import RowGuard.Fault

/-!
# Listings

A listing is the rows a subject may read, each with the subject's further permissions on it. The
subject's own row can be set apart from the others.
-/

namespace RowGuard

/-- A readable row and the permissions the subject holds on it. -/
structure PermissionVector where
  identity : Data
  fields : List (String × Data) := []
  permissions : List (Data × Data) := []
deriving DecidableEq

/-- The rows a subject may read. -/
structure Listing where
  rows : List PermissionVector := []
  thisSubject : Option PermissionVector := none
deriving DecidableEq

namespace PermissionVector

/-- Whether the subject holds a permission on the row, as it was found; one that was not asked for is
not held. -/
def allows (v : PermissionVector) (permission : Data) : Except Fault Data := do
  permission.requireKey
  return (v.permissions.lookup permission).getD (.bool false)

/-- The value of a column of the row. -/
def field (v : PermissionVector) (name : Data) : Except Fault Data := do
  name.requireKey
  match name.text?.bind fun n => v.fields.lookup n with
  | some value => return value
  | none => throw (.shape .missingKey)

end PermissionVector

namespace Listing

/-- The identities of the listed rows. The subject's own row is not among them. -/
def identities (l : Listing) : List Data := l.rows.map (·.identity)

/-- The rows without the subject's own row, which is set apart. It has to appear exactly once. -/
def splitSelf (subject : Subject) (type : Data) (rows : List PermissionVector) :
    Except Fault Listing :=
  match rows.filter fun v => v.identity.same subject.id with
  | [own] => .ok ⟨rows.filter fun v => !v.identity.same subject.id, some own⟩
  | _ => .error (.drift (.selfNotListed subject type))

/-- A listing that could be split shows the subject's row apart and never among the others. -/
theorem not_mem_of_splitSelf {subject : Subject} {type : Data} {rows : List PermissionVector}
    {l : Listing} (h : splitSelf subject type rows = .ok l) (v : PermissionVector)
    (hv : v ∈ l.rows) : v.identity.same subject.id = false := by
  unfold splitSelf at h
  split at h
  · cases h
    simpa using (List.mem_filter.mp hv).2
  · cases h

end Listing

end RowGuard
