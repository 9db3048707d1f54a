import RowGuard.Proofs.Records.Facts

/-!
# What the records policy means

On a database that meets the application's schemas the policy's derivations come down to what the tables say:
who is an administrator or a member of an organization, and who has which role on a document
(`Deed.holds_iff_allowed`).
-/

namespace RowGuard

namespace Operand

/-- Among texts from columns the operand equals the one. -/
def IsText (x : Operand) (s : String) : Prop := ∀ t, x.eq (.text t) = true ↔ t = s

/-- Among whole numbers from columns the operand equals the one. -/
def IsInt (x : Operand) (n : Int) : Prop := ∀ m, x.eq (.int m) = true ↔ m = n

theorem isText_text (s : String) : (Operand.text s).IsText s := by
  intro t
  simp [eq, Value.eq, eq_comm]

theorem isText_bare (s : String) : (Operand.bare (.text s)).IsText s := by
  intro t
  simp [eq, bare, Value.eq, Value.toText, eq_comm]

theorem isInt_int (n : Int) : (Operand.int n).IsInt n := by
  intro m
  simp [eq, Value.eq, eq_comm]

theorem isInt_bare (n : Int) : (Operand.bare (.int n)).IsInt n := by
  intro m
  simp [eq, bare, Value.eq, Value.toNumeric, eq_comm]

end Operand

namespace Records

/-- The literals of a condition for the subject, given values in this way, are the user's name and the names of
roles. -/
structure Reads (value : Literal → Value) (s : Subject) (user : String) : Prop where
  subject : ∀ t, (Operand.text t).eq (.bare (value (facts.actorLiteral policy s))) = true ↔ t = user
  role : ∀ role t, (Operand.text t).eq (.bare (value ⟨.text role, some .string⟩)) = true ↔ t = role

/-! ## The evidence of the tables -/

section Evidence

variable {db : Database} {value : Literal → Value} {s : Subject} {user : String} {x y : Operand}
  (h : db.Meets schemas) (hv : Reads value s user)

include hv

/-- A row names the subject and a role by their texts. -/
theorem namesActor_iff {fact : Subquery} (htexts : fact.typeAt 1 = some .string) {role t u : String}
    {rest : List Operand} :
    facts.NamesActor policy s value fact role (.text t :: .text u :: rest) ↔ t = user ∧ u = role := by
  have htype : fact.comparedTypeAt 1 (.text role) = some .string :=
    (Subquery.comparedTypeAt_text (by simp [htexts, ColumnType.sort]) role).trans htexts
  show (Operand.text t).eq _ = true ∧ (Operand.text u).eq _ = true ↔ _
  rw [htype, hv.subject, hv.role]

include h

theorem hasGlobalRole_iff {role : String} :
    (facts.evidence policy s db value).hasGlobalRole role ↔ HasUser db user globalOrg role := by
  obtain ⟨fact, hfact, htexts, hanswers⟩ := exists_globalRoles h
  simp only [FactBook.evidence, hfact, Except.ok.injEq, exists_eq_left', hanswers.mem_rows]
  constructor
  · rintro ⟨_, ⟨t, u, hu, rfl⟩, hnames⟩
    obtain ⟨rfl, rfl⟩ := (namesActor_iff hv htexts).mp hnames
    exact hu
  · intro hu
    exact ⟨_, ⟨user, role, hu, rfl⟩, (namesActor_iff hv htexts).mpr ⟨rfl, rfl⟩⟩

theorem hasRole_organization_iff {role org : String} (hx : x.IsText org) :
    (facts.evidence policy s db value).hasRole "Organization" role x ↔ HasUser db user org role := by
  obtain ⟨fact, hfact, htexts, hanswers⟩ := exists_organizationRoles h
  simp only [FactBook.evidence, hfact, Except.ok.injEq, exists_eq_left', hanswers.mem_rows]
  constructor
  · rintro ⟨_, ⟨t, o, u, hu, rfl⟩, hnames, heq⟩
    obtain ⟨rfl, rfl⟩ := (namesActor_iff hv htexts).mp hnames
    obtain rfl := (hx o).mp heq
    exact hu
  · intro hu
    exact ⟨_, ⟨user, org, role, hu, rfl⟩, (namesActor_iff hv htexts).mpr ⟨rfl, rfl⟩, (hx org).mpr rfl⟩

theorem hasRole_document_iff {role : String} {document : Int} (hx : x.IsInt document) :
    (facts.evidence policy s db value).hasRole "Document" role x ↔ HasGrant db document user role := by
  obtain ⟨fact, hfact, htexts, hanswers⟩ := exists_documentRoles h
  simp only [FactBook.evidence, hfact, Except.ok.injEq, exists_eq_left', hanswers.mem_rows]
  constructor
  · rintro ⟨_, ⟨d, t, u, hg, rfl⟩, hnames, heq⟩
    obtain ⟨rfl, rfl⟩ := (namesActor_iff hv htexts).mp hnames
    obtain rfl := (hx d).mp heq
    exact hg
  · intro hg
    exact ⟨_, ⟨document, user, role, hg, rfl⟩, (namesActor_iff hv htexts).mpr ⟨rfl, rfl⟩, (hx document).mpr rfl⟩

omit hv in
theorem isRelated_user_iff {name : String} (hx : x.IsText name) :
    (facts.evidence policy s db value).isRelated "User" "parent" "Organization" x y ↔
      ∃ org, IsMember db name org ∧ y = .text org := by
  obtain ⟨fact, hfact, hanswers⟩ := exists_parents h
  simp only [FactBook.evidence, hfact, Except.ok.injEq, exists_eq_left', hanswers.mem_rows]
  constructor
  · rintro ⟨_, ⟨u, org, role, hu, rfl⟩, heq, rfl⟩
    obtain rfl := (hx u).mp heq
    exact ⟨org, ⟨role, hu⟩, rfl⟩
  · rintro ⟨org, ⟨role, hu⟩, rfl⟩
    exact ⟨_, ⟨name, org, role, hu, rfl⟩, (hx name).mpr rfl, rfl⟩

omit hv in
theorem isRelated_document_iff {document : Int} (hx : x.IsInt document) :
    (facts.evidence policy s db value).isRelated "Document" "belongs_to" "Organization" x y ↔
      ∃ org, BelongsTo db document org ∧ y = .text org := by
  obtain ⟨fact, hfact, hanswers⟩ := exists_owningOrganizations h
  simp only [FactBook.evidence, hfact, Except.ok.injEq, exists_eq_left', hanswers.mem_rows]
  constructor
  · rintro ⟨_, ⟨d, org, title, isPublic, hd, rfl⟩, heq, rfl⟩
    obtain rfl := (hx d).mp heq
    exact ⟨org, ⟨title, isPublic, hd⟩, rfl⟩
  · rintro ⟨org, ⟨title, isPublic, hd⟩, rfl⟩
    exact ⟨_, ⟨document, org, title, isPublic, hd, rfl⟩, (hx document).mpr rfl, rfl⟩

omit hv in
theorem hasAttribute_public_iff {document : Int} (hx : x.IsInt document) :
    (facts.evidence policy s db value).hasAttribute "public" "Document" x ↔
      ∃ org title, HasDocument db document org title true := by
  obtain ⟨fact, hfact, hanswers⟩ := exists_publicDocuments h
  simp only [FactBook.evidence, hfact, Except.ok.injEq, exists_eq_left', hanswers.mem_rows]
  constructor
  · rintro ⟨_, ⟨d, org, title, hd, rfl⟩, heq⟩
    obtain rfl := (hx d).mp heq
    exact ⟨org, title, hd⟩
  · rintro ⟨org, title, hd⟩
    exact ⟨_, ⟨document, org, title, hd, rfl⟩, (hx document).mpr rfl⟩

/-! ## Roles -/

/-- Global administrators are administrators of every organization. -/
theorem holds_admin_iff {org : String} (hx : x.IsText org) :
    policy.Holds (facts.evidence policy s db value) "Organization" x "admin" ↔
      IsGlobalAdmin db user ∨ HasUser db user org "admin" := by
  rw [Policy.holds_role_iff (rfl : policy.block? "Organization" = some organizationBlock) (by decide),
    (by decide : Policy.requiredFor organizationBlock "admin" = [.globalRole "admin"])]
  simp only [List.mem_singleton, exists_eq_left, Policy.Meets, hasGlobalRole_iff h hv]
  exact (or_congr (hasRole_organization_iff h hv hx) Iff.rfl).trans or_comm

/-- Administrators are members. -/
theorem holds_member_iff {org : String} (hx : x.IsText org) :
    policy.Holds (facts.evidence policy s db value) "Organization" x "member" ↔
      IsGlobalAdmin db user ∨ IsMember db user org := by
  rw [Policy.holds_role_iff (rfl : policy.block? "Organization" = some organizationBlock) (by decide),
    (by decide : Policy.requiredFor organizationBlock "member" = [.role "admin"])]
  simp only [List.mem_singleton, exists_eq_left, Policy.Meets, holds_admin_iff h hv hx, isMember_iff h]
  exact (or_congr (hasRole_organization_iff h hv hx) Iff.rfl).trans or_left_comm

omit hv in
/-- A role on a user's organization is required. -/
theorem meets_parent_iff {name role : String} (hx : x.IsText name) :
    policy.Meets (facts.evidence policy s db value) userBlock "User" x (.roleOn role "parent") ↔
      ∃ org, IsMember db name org ∧
        policy.Holds (facts.evidence policy s db value) "Organization" (.text org) role := by
  constructor
  · rintro ⟨other, y, hother, hrel, hholds⟩
    obtain rfl : "Organization" = other := Option.some.inj hother
    obtain ⟨org, hu, rfl⟩ := (isRelated_user_iff h hx).mp hrel
    exact ⟨org, hu, hholds⟩
  · rintro ⟨org, hu, hholds⟩
    exact ⟨_, _, rfl, (isRelated_user_iff h hx).mpr ⟨org, hu, rfl⟩, hholds⟩

omit hv in
/-- A role on a document's organization is required. -/
theorem meets_belongsTo_iff {document : Int} {role : String} (hx : x.IsInt document) :
    policy.Meets (facts.evidence policy s db value) documentBlock "Document" x (.roleOn role "belongs_to") ↔
      ∃ org, BelongsTo db document org ∧
        policy.Holds (facts.evidence policy s db value) "Organization" (.text org) role := by
  constructor
  · rintro ⟨other, y, hother, hrel, hholds⟩
    obtain rfl : "Organization" = other := Option.some.inj hother
    obtain ⟨org, hd, rfl⟩ := (isRelated_document_iff h hx).mp hrel
    exact ⟨org, hd, hholds⟩
  · rintro ⟨org, hd, hholds⟩
    exact ⟨_, _, rfl, (isRelated_document_iff h hx).mpr ⟨org, hd, rfl⟩, hholds⟩

/-- Administrators of a document's organization own it. -/
theorem holds_owner_iff {document : Int} (hx : x.IsInt document) :
    policy.Holds (facts.evidence policy s db value) "Document" x "owner" ↔
      HasGrant db document user "owner" ∨
        ∃ org, BelongsTo db document org ∧ (IsGlobalAdmin db user ∨ HasUser db user org "admin") := by
  rw [Policy.holds_role_iff (rfl : policy.block? "Document" = some documentBlock) (by decide),
    (by decide : Policy.requiredFor documentBlock "owner" = [.roleOn "admin" "belongs_to"])]
  simp only [List.mem_singleton, exists_eq_left, meets_belongsTo_iff h hx,
    holds_admin_iff h hv (Operand.isText_text _)]
  exact or_congr (hasRole_document_iff h hv hx) Iff.rfl

/-- Owners are managers. -/
theorem holds_manager_iff {document : Int} (hx : x.IsInt document) :
    policy.Holds (facts.evidence policy s db value) "Document" x "manager" ↔
      HasGrant db document user "manager" ∨
        policy.Holds (facts.evidence policy s db value) "Document" x "owner" := by
  rw [Policy.holds_role_iff (rfl : policy.block? "Document" = some documentBlock) (by decide),
    (by decide : Policy.requiredFor documentBlock "manager" = [.role "owner"])]
  simp only [List.mem_singleton, exists_eq_left, Policy.Meets]
  exact or_congr (hasRole_document_iff h hv hx) Iff.rfl

/-- Managers are editors. -/
theorem holds_editor_iff {document : Int} (hx : x.IsInt document) :
    policy.Holds (facts.evidence policy s db value) "Document" x "editor" ↔
      HasGrant db document user "editor" ∨
        policy.Holds (facts.evidence policy s db value) "Document" x "manager" := by
  rw [Policy.holds_role_iff (rfl : policy.block? "Document" = some documentBlock) (by decide),
    (by decide : Policy.requiredFor documentBlock "editor" = [.role "manager"])]
  simp only [List.mem_singleton, exists_eq_left, Policy.Meets]
  exact or_congr (hasRole_document_iff h hv hx) Iff.rfl

/-- Editors are viewers, and so are the members of a document's organization. -/
theorem holds_viewer_iff {document : Int} (hx : x.IsInt document) :
    policy.Holds (facts.evidence policy s db value) "Document" x "viewer" ↔
      HasGrant db document user "viewer" ∨
        policy.Holds (facts.evidence policy s db value) "Document" x "editor" ∨
        ∃ org, BelongsTo db document org ∧ (IsGlobalAdmin db user ∨ IsMember db user org) := by
  rw [Policy.holds_role_iff (rfl : policy.block? "Document" = some documentBlock) (by decide),
    (by decide : Policy.requiredFor documentBlock "viewer" = [.role "editor", .roleOn "member" "belongs_to"])]
  simp only [List.mem_cons, List.not_mem_nil, or_false, exists_eq_or_imp, exists_eq_left,
    meets_belongsTo_iff h hx, holds_member_iff h hv (Operand.isText_text _)]
  exact or_congr (hasRole_document_iff h hv hx) Iff.rfl

end Evidence

end Records

end RowGuard
