import RowGuard.Proofs.Database.Conformity
import RowGuard.Records.Schema

/-!
# Users, documents and roles

What the tables of the records application say, on a database that meets the application's schemas: who belongs
to which organization in which role, which documents there are, and who has which role on them.
-/

namespace RowGuard.Records

variable {db : Database} {row : Row}

/-- There is the organization. -/
def HasOrganization (db : Database) (org : String) : Prop := [Value.text org] ∈ db.rows organizations.name

/-- The user belongs to the organization in the role. -/
def HasUser (db : Database) (user org role : String) : Prop :=
  [Value.text user, .text org, .text role] ∈ db.rows users.name

/-- The document belongs to the organization, has the title, and is public or not. -/
def HasDocument (db : Database) (document : Int) (org title : String) (isPublic : Bool) : Prop :=
  [Value.int document, .text org, .text title, .int (if isPublic then 1 else 0)] ∈ db.rows documents.name

/-- The document belongs to the organization. -/
def BelongsTo (db : Database) (document : Int) (org : String) : Prop :=
  ∃ title isPublic, HasDocument db document org title isPublic

/-- The user has the role on the document. -/
def HasGrant (db : Database) (document : Int) (user role : String) : Prop :=
  [Value.int document, .text user, .text role] ∈ db.rows documentUserRoles.name

instance (org : String) : Decidable (HasOrganization db org) := inferInstanceAs (Decidable (_ ∈ _))

instance (user org role : String) : Decidable (HasUser db user org role) := inferInstanceAs (Decidable (_ ∈ _))

instance (document : Int) (org title : String) (isPublic : Bool) :
    Decidable (HasDocument db document org title isPublic) := inferInstanceAs (Decidable (_ ∈ _))

instance (document : Int) (user role : String) : Decidable (HasGrant db document user role) :=
  inferInstanceAs (Decidable (_ ∈ _))

/-- Whoever is an administrator in the organization `_` is one everywhere. -/
def IsGlobalAdmin (db : Database) (user : String) : Prop := HasUser db user globalOrg "admin"

instance (user : String) : Decidable (IsGlobalAdmin db user) := inferInstanceAs (Decidable (HasUser _ _ _ _))

/-- The user belongs to the organization. -/
def IsMember (db : Database) (user org : String) : Prop := ∃ role, HasUser db user org role

theorem names_nodup : (schemas.map (·.name)).Nodup := by decide

/-- The names of the tables differ by more than capital letters. -/
theorem names_apart : ∀ s ∈ schemas, ∀ s' ∈ schemas,
    Scan.sameName s'.name s.name = decide (s'.name = s.name) := by decide

theorem accepts_organizations_iff : organizations.Accepts row ↔ ∃ org, row = [.text org] := by
  simp only [Schema.Accepts, organizations, List.forall₂_cons_left_iff, List.forall₂_nil_left_iff,
    Column.accepts_text_iff (rfl : Columns.organizationName.type = _) rfl]
  constructor
  · rintro ⟨_, _, ⟨org, rfl⟩, rfl, rfl⟩
    exact ⟨org, rfl⟩
  · rintro ⟨org, rfl⟩
    exact ⟨_, _, ⟨org, rfl⟩, rfl, rfl⟩

theorem accepts_users_iff : users.Accepts row ↔
    ∃ user org, ∃ role ∈ organizationRoles, row = [.text user, .text org, .text role] := by
  simp only [Schema.Accepts, users, List.forall₂_cons_left_iff, List.forall₂_nil_left_iff,
    Column.accepts_text_iff (rfl : Columns.username.type = _) rfl,
    Column.accepts_text_iff (rfl : Columns.org.type = _) rfl,
    Column.accepts_enumeration_iff (rfl : Columns.userRole.type = _) rfl]
  constructor
  · rintro ⟨_, _, ⟨user, rfl⟩, ⟨_, _, ⟨org, rfl⟩, ⟨_, _, ⟨role, hrole, rfl⟩, rfl, rfl⟩, rfl⟩, rfl⟩
    exact ⟨user, org, role, hrole, rfl⟩
  · rintro ⟨user, org, role, hrole, rfl⟩
    exact ⟨_, _, ⟨user, rfl⟩, ⟨_, _, ⟨org, rfl⟩, ⟨_, _, ⟨role, hrole, rfl⟩, rfl, rfl⟩, rfl⟩, rfl⟩

theorem accepts_documents_iff : documents.Accepts row ↔
    ∃ document org title, ∃ isPublic : Bool, Value.isStorable document = true ∧
      row = [.int document, .text org, .text title, .int (if isPublic then 1 else 0)] := by
  simp only [Schema.Accepts, documents, List.forall₂_cons_left_iff, List.forall₂_nil_left_iff,
    Column.accepts_integer_iff (rfl : Columns.documentId.type = _) rfl,
    Column.accepts_text_iff (rfl : Columns.org.type = _) rfl,
    Column.accepts_text_iff (rfl : Columns.title.type = _) rfl,
    Column.accepts_boolean_iff (rfl : Columns.isPublic.type = _) rfl]
  constructor
  · rintro ⟨_, _, ⟨document, hfits, rfl⟩, ⟨_, _, ⟨org, rfl⟩, ⟨_, _, ⟨title, rfl⟩,
      ⟨_, _, ⟨isPublic, rfl⟩, rfl, rfl⟩, rfl⟩, rfl⟩, rfl⟩
    exact ⟨document, org, title, isPublic, hfits, rfl⟩
  · rintro ⟨document, org, title, isPublic, hfits, rfl⟩
    exact ⟨_, _, ⟨document, hfits, rfl⟩, ⟨_, _, ⟨org, rfl⟩, ⟨_, _, ⟨title, rfl⟩,
      ⟨_, _, ⟨isPublic, rfl⟩, rfl, rfl⟩, rfl⟩, rfl⟩, rfl⟩

theorem accepts_documentUserRoles_iff : documentUserRoles.Accepts row ↔
    ∃ document user, ∃ role ∈ documentRoles, Value.isStorable document = true ∧
      row = [.int document, .text user, .text role] := by
  simp only [Schema.Accepts, documentUserRoles, List.forall₂_cons_left_iff, List.forall₂_nil_left_iff,
    Column.accepts_integer_iff (rfl : Columns.grantDocument.type = _) rfl,
    Column.accepts_text_iff (rfl : Columns.grantUser.type = _) rfl,
    Column.accepts_enumeration_iff (rfl : Columns.grantRole.type = _) rfl]
  constructor
  · rintro ⟨_, _, ⟨document, hfits, rfl⟩, ⟨_, _, ⟨user, rfl⟩, ⟨_, _, ⟨role, hrole, rfl⟩, rfl, rfl⟩, rfl⟩, rfl⟩
    exact ⟨document, user, role, hrole, hfits, rfl⟩
  · rintro ⟨document, user, role, hrole, hfits, rfl⟩
    exact ⟨_, _, ⟨document, hfits, rfl⟩, ⟨_, _, ⟨user, rfl⟩, ⟨_, _, ⟨role, hrole, rfl⟩, rfl, rfl⟩, rfl⟩, rfl⟩

/-! ## Rows -/

section Rows

variable (h : db.Meets schemas)

include h

theorem table?_users : db.table? users.name = some ⟨users, db.rows users.name⟩ :=
  h.table?_eq names_nodup (by decide)

theorem mem_users_iff : row ∈ db.rows users.name ↔
    ∃ user org role, HasUser db user org role ∧ row = [.text user, .text org, .text role] := by
  constructor
  · intro hrow
    obtain ⟨user, org, role, _, rfl⟩ := accepts_users_iff.mp (h.accepts_of_mem names_nodup (by decide) hrow)
    exact ⟨user, org, role, hrow, rfl⟩
  · rintro ⟨user, org, role, hrow, rfl⟩
    exact hrow

theorem mem_documents_iff : row ∈ db.rows documents.name ↔
    ∃ document org title isPublic, HasDocument db document org title isPublic ∧
      row = [.int document, .text org, .text title, .int (if isPublic then 1 else 0)] := by
  constructor
  · intro hrow
    obtain ⟨document, org, title, isPublic, _, rfl⟩ :=
      accepts_documents_iff.mp (h.accepts_of_mem names_nodup (by decide) hrow)
    exact ⟨document, org, title, isPublic, hrow, rfl⟩
  · rintro ⟨document, org, title, isPublic, hrow, rfl⟩
    exact hrow

theorem mem_documentUserRoles_iff : row ∈ db.rows documentUserRoles.name ↔
    ∃ document user role, HasGrant db document user role ∧ row = [.int document, .text user, .text role] := by
  constructor
  · intro hrow
    obtain ⟨document, user, role, _, _, rfl⟩ :=
      accepts_documentUserRoles_iff.mp (h.accepts_of_mem names_nodup (by decide) hrow)
    exact ⟨document, user, role, hrow, rfl⟩
  · rintro ⟨document, user, role, hrow, rfl⟩
    exact hrow

theorem exists_mem_users_iff {P : Row → Prop} : (∃ row ∈ db.rows users.name, P row) ↔
    ∃ user org role, HasUser db user org role ∧ P [.text user, .text org, .text role] := by
  simp only [mem_users_iff h]
  constructor
  · rintro ⟨_, ⟨user, org, role, hu, rfl⟩, hP⟩
    exact ⟨user, org, role, hu, hP⟩
  · rintro ⟨user, org, role, hu, hP⟩
    exact ⟨_, ⟨user, org, role, hu, rfl⟩, hP⟩

theorem exists_mem_documents_iff {P : Row → Prop} : (∃ row ∈ db.rows documents.name, P row) ↔
    ∃ document org title isPublic, HasDocument db document org title isPublic ∧
      P [.int document, .text org, .text title, .int (if isPublic then 1 else 0)] := by
  simp only [mem_documents_iff h]
  constructor
  · rintro ⟨_, ⟨document, org, title, isPublic, hd, rfl⟩, hP⟩
    exact ⟨document, org, title, isPublic, hd, hP⟩
  · rintro ⟨document, org, title, isPublic, hd, hP⟩
    exact ⟨_, ⟨document, org, title, isPublic, hd, rfl⟩, hP⟩

theorem exists_mem_documentUserRoles_iff {P : Row → Prop} : (∃ row ∈ db.rows documentUserRoles.name, P row) ↔
    ∃ document user role, HasGrant db document user role ∧ P [.int document, .text user, .text role] := by
  simp only [mem_documentUserRoles_iff h]
  constructor
  · rintro ⟨_, ⟨document, user, role, hg, rfl⟩, hP⟩
    exact ⟨document, user, role, hg, hP⟩
  · rintro ⟨document, user, role, hg, hP⟩
    exact ⟨_, ⟨document, user, role, hg, rfl⟩, hP⟩

theorem HasUser.role_mem {user org role : String} (hu : HasUser db user org role) : role ∈ organizationRoles := by
  obtain ⟨_, _, role', hrole, heq⟩ := accepts_users_iff.mp (h.accepts_of_mem names_nodup (by decide) hu)
  simp only [List.cons.injEq, Value.text.injEq] at heq
  exact heq.2.2.1 ▸ hrole

theorem isMember_iff {user org : String} :
    IsMember db user org ↔ HasUser db user org "member" ∨ HasUser db user org "admin" := by
  constructor
  · rintro ⟨role, hu⟩
    have hrole := HasUser.role_mem h hu
    simp only [organizationRoles, List.mem_cons, List.not_mem_nil, or_false] at hrole
    rcases hrole with rfl | rfl
    · exact .inl hu
    · exact .inr hu
  · rintro (hu | hu)
    · exact ⟨_, hu⟩
    · exact ⟨_, hu⟩

theorem HasGrant.role_mem {document : Int} {user role : String} (hg : HasGrant db document user role) :
    role ∈ documentRoles := by
  obtain ⟨_, _, role', hrole, _, heq⟩ :=
    accepts_documentUserRoles_iff.mp (h.accepts_of_mem names_nodup (by decide) hg)
  simp only [List.cons.injEq, Value.text.injEq] at heq
  exact heq.2.2.1 ▸ hrole

theorem exists_grant_iff {document : Int} {user : String} : (∃ role, HasGrant db document user role) ↔
    HasGrant db document user "viewer" ∨ HasGrant db document user "editor" ∨
      HasGrant db document user "manager" ∨ HasGrant db document user "owner" := by
  constructor
  · rintro ⟨role, hg⟩
    have hrole := HasGrant.role_mem h hg
    simp only [documentRoles, List.mem_cons, List.not_mem_nil, or_false] at hrole
    rcases hrole with rfl | rfl | rfl | rfl
    · exact .inl hg
    · exact .inr (.inl hg)
    · exact .inr (.inr (.inl hg))
    · exact .inr (.inr (.inr hg))
  · rintro (hg | hg | hg | hg)
    · exact ⟨_, hg⟩
    · exact ⟨_, hg⟩
    · exact ⟨_, hg⟩
    · exact ⟨_, hg⟩

/-- A user belongs to one organization, in one role. -/
theorem HasUser.unique {user org org' role role' : String} (hu : HasUser db user org role)
    (hu' : HasUser db user org' role') : org = org' ∧ role = role' := by
  have hrows := h.eq_of_keyOf names_nodup (by decide) ⟨_, List.mem_cons_self, rfl⟩ hu hu' rfl
  simpa using hrows

/-- A document has one organization and one title, and is public or not. -/
theorem HasDocument.unique {document : Int} {org org' title title' : String} {isPublic isPublic' : Bool}
    (hd : HasDocument db document org title isPublic) (hd' : HasDocument db document org' title' isPublic') :
    org = org' ∧ title = title' ∧ isPublic = isPublic' := by
  have hrows := h.eq_of_keyOf names_nodup (by decide) ⟨_, List.mem_cons_self, rfl⟩ hd hd' rfl
  simp only [List.cons.injEq, Value.text.injEq, Value.int.injEq, true_and, and_true] at hrows
  refine ⟨hrows.1, hrows.2.1, ?_⟩
  cases isPublic <;> cases isPublic' <;> simp_all

/-- What is said of a user's organization is said of the one that the user's row has. -/
theorem exists_isMember_iff {user org role : String} {P : String → Prop} (hu : HasUser db user org role) :
    (∃ o, IsMember db user o ∧ P o) ↔ P org := by
  constructor
  · rintro ⟨o, ⟨r, hu'⟩, hP⟩
    exact (HasUser.unique h hu hu').1 ▸ hP
  · intro hP
    exact ⟨org, ⟨role, hu⟩, hP⟩

/-- What is said of a document's organization is said of the one that the document's row has. -/
theorem exists_belongsTo_iff {document : Int} {org title : String} {isPublic : Bool} {P : String → Prop}
    (hd : HasDocument db document org title isPublic) : (∃ o, BelongsTo db document o ∧ P o) ↔ P org := by
  constructor
  · rintro ⟨o, ⟨t, p, hd'⟩, hP⟩
    exact (HasDocument.unique h hd hd').1 ▸ hP
  · intro hP
    exact ⟨org, ⟨title, isPublic, hd⟩, hP⟩

/-- Roles are held on documents that there are. -/
theorem HasGrant.exists_document (hrefs : db.isConsistent = true) {document : Int} {user role : String}
    (hg : HasGrant db document user role) : ∃ org, BelongsTo db document org := by
  obtain ⟨row, hrow, heq⟩ := h.exists_of_reference names_nodup hrefs (by decide) hg List.mem_cons_self rfl
    (by simp) (by decide : documents ∈ schemas) rfl rfl
  obtain ⟨document', org, title, isPublic, hd, rfl⟩ := (mem_documents_iff h).mp hrow
  obtain rfl : document = document' := by simpa [Value.eq] using heq
  exact ⟨org, title, isPublic, hd⟩

/-- Roles are held by users that there are. -/
theorem HasGrant.exists_isMember (hrefs : db.isConsistent = true) {document : Int} {user role : String}
    (hg : HasGrant db document user role) : ∃ org, IsMember db user org := by
  obtain ⟨row, hrow, heq⟩ := h.exists_of_reference names_nodup hrefs (by decide) hg
    (List.mem_cons_of_mem _ List.mem_cons_self) rfl (by simp) (by decide : users ∈ schemas) rfl rfl
  obtain ⟨user', org, role', hu, rfl⟩ := (mem_users_iff h).mp hrow
  obtain rfl : user = user' := by simpa [Value.eq] using heq
  exact ⟨org, role', hu⟩

/-- Users belong to organizations that there are. -/
theorem HasUser.hasOrganization (hrefs : db.isConsistent = true) {user org role : String}
    (hu : HasUser db user org role) : HasOrganization db org := by
  obtain ⟨row, hrow, heq⟩ := h.exists_of_reference names_nodup hrefs (by decide) hu
    (List.mem_cons_of_mem _ List.mem_cons_self) rfl (by simp) (by decide : organizations ∈ schemas) rfl rfl
  obtain ⟨org', rfl⟩ := accepts_organizations_iff.mp (h.accepts_of_mem names_nodup (by decide) hrow)
  obtain rfl : org = org' := by simpa [Value.eq] using heq
  exact hrow

/-- Documents belong to organizations that there are. -/
theorem HasDocument.hasOrganization (hrefs : db.isConsistent = true) {document : Int} {org title : String}
    {isPublic : Bool} (hd : HasDocument db document org title isPublic) : HasOrganization db org := by
  obtain ⟨row, hrow, heq⟩ := h.exists_of_reference names_nodup hrefs (by decide) hd
    (List.mem_cons_of_mem _ List.mem_cons_self) rfl (by simp) (by decide : organizations ∈ schemas) rfl rfl
  obtain ⟨org', rfl⟩ := accepts_organizations_iff.mp (h.accepts_of_mem names_nodup (by decide) hrow)
  obtain rfl : org = org' := by simpa [Value.eq] using heq
  exact hrow

end Rows

/-! ## References -/

/-- Users and documents belong to organizations that there are, and roles are held on documents that there are by
users that there are. -/
structure Refers (db : Database) : Prop where
  users : ∀ user org role, HasUser db user org role → HasOrganization db org
  documents : ∀ document org title isPublic, HasDocument db document org title isPublic → HasOrganization db org
  grants : ∀ document user role, HasGrant db document user role →
    (∃ org, BelongsTo db document org) ∧ ∃ org, IsMember db user org

theorem isConsistent_iff (h : db.Meets schemas) : db.isConsistent = true ↔ Refers db := by
  constructor
  · intro hrefs
    exact ⟨fun _ _ _ => HasUser.hasOrganization h hrefs, fun _ _ _ _ => HasDocument.hasOrganization h hrefs,
      fun _ _ _ hg => ⟨HasGrant.exists_document h hrefs hg, HasGrant.exists_isMember h hrefs hg⟩⟩
  · intro hrefers
    have horganization : ∀ {org}, HasOrganization db org → db.resolves ⟨"organizations", "name", false⟩ (.text org) = true :=
      fun horg => h.resolves_of_mem names_nodup (by decide : organizations ∈ schemas) rfl rfl horg (decide_eq_true rfl)
    refine h.isConsistent_of_rowResolves names_nodup ?_
    intro s hs row hrow
    simp only [schemas, List.mem_cons, List.not_mem_nil, or_false] at hs
    rcases hs with rfl | rfl | rfl | rfl
    · obtain ⟨org, rfl⟩ := accepts_organizations_iff.mp (h.accepts_of_mem names_nodup (by decide) hrow)
      rfl
    · obtain ⟨user, org, role, hu, rfl⟩ := (mem_users_iff h).mp hrow
      exact Bool.and_eq_true_iff.mpr ⟨horganization (hrefers.users _ _ _ hu), rfl⟩
    · obtain ⟨document, org, title, isPublic, hd, rfl⟩ := (mem_documents_iff h).mp hrow
      exact Bool.and_eq_true_iff.mpr ⟨horganization (hrefers.documents _ _ _ _ hd), rfl⟩
    · obtain ⟨document, user, role, hg, rfl⟩ := (mem_documentUserRoles_iff h).mp hrow
      obtain ⟨⟨org, title, isPublic, hd⟩, org', role', hu⟩ := hrefers.grants _ _ _ hg
      have hdocument : db.resolves ⟨"documents", "id", true⟩ (.int document) = true :=
        h.resolves_of_mem names_nodup (by decide : documents ∈ schemas) rfl rfl hd (decide_eq_true rfl)
      have huser : db.resolves ⟨"users", "username", true⟩ (.text user) = true :=
        h.resolves_of_mem names_nodup (by decide : users ∈ schemas) rfl rfl hu (decide_eq_true rfl)
      exact Bool.and_eq_true_iff.mpr ⟨hdocument, Bool.and_eq_true_iff.mpr ⟨huser, rfl⟩⟩

end RowGuard.Records
