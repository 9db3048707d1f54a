import RowGuard.Proofs.Records.Statements
import RowGuard.Proofs.Session.Writing

/-!
# Statements on users that are tried

Whether a user can be added or deleted, beside other connections, as the first change of a transaction. A user is
added exactly if the organization is there and the name is not in use (`exists_tried_insertUser_iff`); deleting one
leaves no reference behind, so that it always comes to an end (`exists_tried_deleteUser`).
-/

namespace RowGuard.Records

open Link.Statement

variable {db made : Database} {others : List Link} {username org role : String}

theorem rowNumber_not_null {s : Schema} (hs : s ∈ schemas) : ∀ c, s.rowNumber? = some c → c.nullable = false := by
  have hall : ∀ s ∈ schemas, ∀ c ∈ s.columns, c.nullable = false := by decide
  intro c hc
  refine hall s hs c ?_
  unfold Schema.rowNumber? at hc
  split at hc
  · next key hkeys =>
    have hmem : key ∈ s.columns.filter (·.isKey) := hkeys ▸ List.mem_singleton_self key
    split at hc
    case isTrue => exact Option.some.inj hc ▸ (List.mem_filter.mp hmem).1
    case isFalse => simp at hc
  · simp at hc

/-- Adding a user. -/
abbrev userInsertion (username org role : String) : Link.Statement Unit :=
  .insert users [("username", .text username), ("org", .text org), ("role", .text role)]

/-- Deleting a user. -/
abbrev userDeletion (username : String) : Link.Statement Nat := .delete users [("username", .text username)]

/-- Where nothing but users and roles on documents has changed, references lead somewhere if users belong to
organizations that there are, and those who hold roles have stayed. -/
theorem refers_of_changed_users (h : Refers db) (hsame : Untouched [organizations, documents] db made)
    (husers : ∀ u o r, HasUser made u o r → HasOrganization db o)
    (hgrants : ∀ d u r, HasGrant made d u r → HasGrant db d u r ∧ ((∃ o, IsMember db u o) → ∃ o, IsMember made u o)) :
    Refers made where
  users u o r hu := (hsame.hasOrganization_iff (by decide)).mpr (husers u o r hu)
  documents d o t p hd := (hsame.hasOrganization_iff (by decide)).mpr
    (h.documents d o t p ((hsame.hasDocument_iff (by decide)).mp hd))
  grants d u r hg := by
    obtain ⟨hheld, hstays⟩ := hgrants d u r hg
    obtain ⟨⟨o, t, p, hd⟩, hmember⟩ := h.grants d u r hheld
    exact ⟨⟨o, t, p, (hsame.hasDocument_iff (by decide)).mpr hd⟩, hstays hmember⟩

section Tried

variable (h : db.Meets schemas) (hrefs : db.isConsistent = true)

include h

/-- A user whose name is not in use can be added. -/
theorem exists_run_insertUser (hrole : role ∈ organizationRoles) (hunused : ∀ o, ¬IsMember db username o) :
    ∃ made, (userInsertion username org role).run db = .ok ((), made) := by
  have husers : users ∈ schemas := by decide
  obtain ⟨made, hmade⟩ : ∃ made, db.insert users.name
      (Assignments.bound users [("username", .text username), ("org", .text org), ("role", .text role)]) =
        .ok made := by
    refine h.exists_insert names_nodup husers (rowNumber_not_null husers) rfl ?_ ?_
    · rw [newRow_user]
      exact accepts_users_iff.mpr ⟨username, org, role, hrole, rfl⟩
    · intro old hold heq
      obtain ⟨u, o, r, hu, rfl⟩ := (mem_users_iff h).mp hold
      have hkey : [Value.text u] = [.text username] := heq
      obtain rfl : u = username := by simpa using hkey
      exact hunused o ⟨r, hu⟩
  refine ⟨made, ?_⟩
  rw [userInsertion, Link.Statement.insert, bound_run_of_fits rfl, hmade]
  rfl

include hrefs

theorem exists_tried_insertUser_iff (hrole : role ∈ organizationRoles) (hunlocked : others.any Link.isWriting = false) :
    (∃ made, (userInsertion username org role).tried others db = .ok ((), made)) ↔
      HasOrganization db org ∧ ∀ o, ¬IsMember db username o := by
  constructor
  · rintro ⟨made, htried⟩
    obtain ⟨_, _, hrun, hconsistent⟩ := tried_eq_ok_iff.mp htried
    obtain ⟨hmeets, husers, hsame⟩ := run_insertUser h hrole hrun
    have hnew : HasUser made username org role := (husers _ _ _).mpr (.inr ⟨rfl, rfl, rfl⟩)
    have horganization := ((isConsistent_iff hmeets).mp hconsistent).users _ _ _ hnew
    exact ⟨(hsame.hasOrganization_iff (by decide)).mp horganization, unused_of_insertUser h hrole hrun⟩
  · rintro ⟨horg, hunused⟩
    obtain ⟨made, hrun⟩ : ∃ made, (userInsertion username org role).run db = .ok ((), made) :=
      exists_run_insertUser h hrole hunused
    obtain ⟨hmeets, husers, hsame⟩ := run_insertUser h hrole hrun
    have hrefers := (isConsistent_iff h).mp hrefs
    refine ⟨made, tried_eq_ok_iff.mpr ⟨rfl, hunlocked, hrun, (isConsistent_iff hmeets).mpr ?_⟩⟩
    refine refers_of_changed_users hrefers (hsame.mono (by decide)) ?_ ?_
    · intro u o r hu
      rcases (husers u o r).mp hu with hold | ⟨_, rfl, _⟩
      · exact hrefers.users _ _ _ hold
      · exact horg
    · rintro d u r hg
      exact ⟨(hsame.hasGrant_iff (by decide)).mp hg, fun ⟨o, r', hu⟩ => ⟨o, r', (husers _ _ _).mpr (.inl hu)⟩⟩

/-- The roles on documents go with the user who held them, and nothing else refers to a user. -/
theorem exists_tried_deleteUser (hunlocked : others.any Link.isWriting = false) :
    ∃ n made, (userDeletion username).tried others db = .ok (n, made) := by
  obtain ⟨n, made, hrun⟩ : ∃ n made, (userDeletion username).run db = .ok (n, made) := by
    rw [userDeletion, delete, bound_run_of_fits rfl, Database.delete, table?_users h]
    exact ⟨_, _, rfl⟩
  obtain ⟨hmeets, husers, hgrants, hsame⟩ := run_deleteUser h hrun
  have hrefers := (isConsistent_iff h).mp hrefs
  refine ⟨n, made, tried_eq_ok_iff.mpr ⟨rfl, hunlocked, hrun, (isConsistent_iff hmeets).mpr ?_⟩⟩
  refine refers_of_changed_users hrefers hsame (fun u o r hu => hrefers.users _ _ _ ((husers u o r).mp hu).1) ?_
  intro d u r hg
  obtain ⟨hheld, hkept⟩ := (hgrants d u r).mp hg
  refine ⟨hheld, fun ⟨o, r', hu⟩ => ⟨o, r', (husers u o r').mpr ⟨hu, ?_⟩⟩⟩
  rintro rfl
  exact hkept rfl o ⟨r', hu⟩

end Tried

end RowGuard.Records
