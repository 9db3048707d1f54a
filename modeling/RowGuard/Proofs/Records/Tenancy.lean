import RowGuard.Proofs.Records.Effects

/-!
# Tenants

A user who is no global administrator changes only what belongs to its own organization (`Service.isolates`):
users if it administrates that organization, documents that it manages or has created there, and roles on these.
A user that is in no organization changes nothing.
-/

namespace RowGuard.Records

/-- The user administrates the document's organization, or has the role of a manager or owner on the document. -/
def Manages (db : Database) (user : String) (d : Int) (org : String) : Prop :=
  BelongsTo db d org ∧ (HasUser db user org "admin" ∨ HasGrant db d user "manager" ∨ HasGrant db d user "owner")

/-- There was no document of this number, and there is one now, in an organization that the user belonged to. -/
def Creates (user : String) (before after : Database) (d : Int) : Prop :=
  ∃ org, IsMember before user org ∧ (∀ o, ¬BelongsTo before d o) ∧ ∀ o, BelongsTo after d o ↔ o = org

/-- There was a user of this name, and there is none any more. -/
def Leaves (before after : Database) (u : String) : Prop :=
  (∃ org, IsMember before u org) ∧ ∀ org, ¬IsMember after u org

/-- The tables differ only in what is the user's to change. -/
structure Isolated (user : String) (before after : Database) : Prop where
  organizations : after.rows organizations.name = before.rows organizations.name
  users : ∀ u org role, (HasUser after u org role ↔ HasUser before u org role) ∨ HasUser before user org "admin"
  globalAdmins : ∀ u, IsGlobalAdmin after u ↔ IsGlobalAdmin before u
  documents : ∀ d, (∀ org title isPublic,
      HasDocument after d org title isPublic ↔ HasDocument before d org title isPublic) ∨
    (∃ org, Manages before user d org ∧ ∀ o, BelongsTo after d o → o = org) ∨ Creates user before after d
  grants : ∀ d u, (∀ role, HasGrant after d u role ↔ HasGrant before d u role) ∨
    (Deed.manageShare d).Allowed before user ∨ (Deed.deleteDocument d).Allowed before user ∨
      Creates user before after d ∨ Leaves before after u
  stranger : (∀ org, ¬IsMember before user org) → after = before

theorem Isolated.refl (user : String) (db : Database) : Isolated user db db :=
  ⟨rfl, fun _ _ _ => .inl Iff.rfl, fun _ => Iff.rfl, fun _ => .inl fun _ _ _ => Iff.rfl,
    fun _ _ => .inl fun _ => Iff.rfl, fun _ => rfl⟩

/-- A document that was added under a new number is one that a member of its organization has created. -/
theorem creates_of_inserted {user org title : String} {id : Int} {db made : Database} (hmember : IsMember db user org)
    (hfresh : ∀ o t p, ¬HasDocument db id o t p)
    (hdocuments : ∀ d o t p, HasDocument made d o t p ↔
      HasDocument db d o t p ∨ d = id ∧ o = org ∧ t = title ∧ p = false) : Creates user db made id := by
  refine ⟨org, hmember, fun o ⟨t, p, hd⟩ => hfresh o t p hd, fun o => ?_⟩
  constructor
  · rintro ⟨t, p, hd⟩
    exact (((hdocuments _ _ _ _).mp hd).resolve_left (hfresh o t p)).2.1
  · rintro rfl
    exact ⟨title, false, (hdocuments _ _ _ _).mpr (.inr ⟨rfl, rfl, rfl, rfl⟩)⟩

/-! ## Services -/

namespace Service.Performs

variable {s : Subject} {user : String} {db made : Database} {v : Service} {reply : Reply}
  (hv : v.Performs s user db reply made) (hnot : ¬IsGlobalAdmin db user)

include hnot

/-- Whoever may do something to a user administrates the user's organization. -/
theorem isAdmin_of_allowed (h : db.Meets schemas) {u org : String} (hmember : IsMember db u org)
    (hallowed : ∃ o, IsMember db u o ∧ (IsGlobalAdmin db user ∨ HasUser db user o "admin")) :
    HasUser db user org "admin" := by
  obtain ⟨o, ⟨role, hu⟩, hadmin⟩ := hallowed
  obtain ⟨role', hu'⟩ := hmember
  obtain ⟨rfl, _⟩ := HasUser.unique h hu hu'
  exact hadmin.resolve_left hnot

/-- Whoever may publish a document manages it. -/
theorem exists_manages {d : Int} (hallowed : (Deed.manageShare d).Allowed db user) :
    ∃ org, Manages db user d org := by
  obtain ⟨org, hd, hmay⟩ := hallowed
  exact ⟨org, hd, hmay.resolve_left hnot⟩

omit hnot in
/-- Whoever may delete a document may share it. -/
theorem manageShare_of_deleteDocument {d : Int} (hallowed : (Deed.deleteDocument d).Allowed db user) :
    (Deed.manageShare d).Allowed db user := by
  obtain ⟨org, hd, hmay⟩ := hallowed
  exact ⟨org, hd, hmay.imp_right fun hmay => hmay.imp_right .inr⟩

include hv

theorem organizations_eq : made.rows organizations.name = db.rows organizations.name := by
  cases hv with
  | failed | read _ => rfl
  | createOrganization hallowed _ _ _ => exact absurd hallowed hnot
  | createUser _ _ _ hsame | deleteUser _ _ _ _ hsame | editRoles _ _ _ _ hsame | createDocument _ _ _ _ hsame
  | setDocumentPublic _ _ hsame | shareDocument _ _ _ hsame | deleteDocument _ _ _ hsame =>
    exact hsame organizations (by decide)

theorem users_iff (h : db.Meets schemas) (u org role : String) :
    (HasUser made u org role ↔ HasUser db u org role) ∨ HasUser db user org "admin" := by
  cases hv with
  | failed | read _ => exact .inl Iff.rfl
  | @createUser username org' role' _ hallowed _ husers _ =>
    by_cases horg : org = org'
    · exact .inr (horg ▸ hallowed.resolve_left hnot)
    · exact .inl ((husers u org role).trans (or_iff_left fun hnew => horg hnew.2.1))
  | @deleteUser username _ hallowed _ husers _ _ =>
    -- the deleted user's row is one of its own organization, which the caller administrates
    by_cases hgone : u = username ∧ IsMember db u org
    · obtain ⟨rfl, hmember⟩ := hgone
      exact .inr (isAdmin_of_allowed hnot h hmember hallowed)
    · refine .inl ((husers u org role).trans ⟨fun hu => hu.1, fun hu => ⟨hu, ?_⟩⟩)
      exact fun heq => hgone ⟨heq, role, hu⟩
  | @editRoles updates _ _ hallowed _ husers _ =>
    by_cases hedited : ∃ role', (u, role') ∈ updates ∧ IsMember db u org
    · obtain ⟨role', hentry, hmember⟩ := hedited
      exact .inr (isAdmin_of_allowed hnot h hmember (hallowed _ hentry).1)
    · refine .inl ((husers u org role).trans ⟨?_, fun hu => .inr ⟨hu, ?_⟩⟩)
      · rintro (⟨hentry, hmember⟩ | ⟨hu, _⟩)
        · exact absurd ⟨role, hentry, hmember⟩ hedited
        · exact hu
      · exact fun role' hentry => hedited ⟨role', hentry, role, hu⟩
  | createOrganization _ _ _ hsame | createDocument _ _ _ _ hsame | setDocumentPublic _ _ hsame
  | shareDocument _ _ _ hsame | deleteDocument _ _ _ hsame => exact .inl (hsame.hasUser_iff (by decide))

theorem documents_iff (h : db.Meets schemas) (hrefs : db.isConsistent = true) (d : Int) :
    (∀ org title isPublic, HasDocument made d org title isPublic ↔ HasDocument db d org title isPublic) ∨
      (∃ org, Manages db user d org ∧ ∀ o, BelongsTo made d o → o = org) ∨ Creates user db made d := by
  cases hv with
  | failed | read _ => exact .inl fun _ _ _ => Iff.rfl
  | createUser _ _ _ hsame | deleteUser _ _ _ _ hsame | editRoles _ _ _ _ hsame | createOrganization _ _ _ hsame
  | shareDocument _ _ _ hsame => exact .inl fun _ _ _ => hsame.hasDocument_iff (by decide)
  | @createDocument org title id _ hallowed hfresh hdocuments _ _ =>
    by_cases hid : d = id
    · exact .inr (.inr (hid ▸ creates_of_inserted (hallowed.resolve_left hnot) hfresh hdocuments))
    · exact .inl fun o t p => (hdocuments d o t p).trans (or_iff_left fun hnew => hid hnew.1)
  | @setDocumentPublic id isPublic _ hallowed hdocuments _ =>
    by_cases hid : d = id
    · subst hid
      obtain ⟨org, hmanages⟩ := exists_manages hnot (hallowed hrefs)
      refine .inr (.inl ⟨org, hmanages, ?_⟩)
      rintro o ⟨t, p, hd⟩
      obtain ⟨_, _, hd'⟩ := hmanages.1
      rcases (hdocuments d o t p).mp hd with ⟨hne, _⟩ | ⟨_, _, p', hd⟩
      · exact absurd rfl hne
      · exact (HasDocument.unique h hd hd').1
    · refine .inl fun o t p => (hdocuments d o t p).trans ((or_iff_left fun hnew => hid hnew.1).trans ?_)
      exact and_iff_right hid
  | @deleteDocument id _ hallowed hdocuments _ _ =>
    by_cases hid : d = id
    · subst hid
      obtain ⟨org, hmanages⟩ := exists_manages hnot (manageShare_of_deleteDocument (hallowed hrefs))
      refine .inr (.inl ⟨org, hmanages, ?_⟩)
      rintro o ⟨t, p, hd⟩
      exact absurd rfl ((hdocuments d o t p).mp hd).2
    · exact .inl fun o t p => (hdocuments d o t p).trans (and_iff_left hid)

theorem grants_iff (hrefs : db.isConsistent = true) (d : Int) (u : String) :
    (∀ role, HasGrant made d u role ↔ HasGrant db d u role) ∨
      (Deed.manageShare d).Allowed db user ∨ (Deed.deleteDocument d).Allowed db user ∨
        Creates user db made d ∨ Leaves db made u := by
  cases hv with
  | failed | read _ => exact .inl fun _ => Iff.rfl
  | createUser _ _ _ hsame | editRoles _ _ _ _ hsame | createOrganization _ _ _ hsame | setDocumentPublic _ _ hsame =>
    exact .inl fun _ => hsame.hasGrant_iff (by decide)
  | @deleteUser username _ hallowed _ husers hgrants _ =>
    by_cases hu : u = username
    · subst hu
      obtain ⟨org, hmember, _⟩ := hallowed
      refine .inr (.inr (.inr (.inr ⟨⟨org, hmember⟩, ?_⟩)))
      rintro o ⟨role, hu⟩
      exact ((husers _ _ _).mp hu).2 rfl
    · exact .inl fun role => (hgrants d u role).trans (and_iff_left hu)
  | @createDocument org title id _ hallowed hfresh hdocuments hgrants _ =>
    by_cases hid : d = id
    · exact .inr (.inr (.inr (.inl (hid ▸ creates_of_inserted (hallowed.resolve_left hnot) hfresh hdocuments))))
    · exact .inl fun r => (hgrants d u r).trans (or_iff_left fun hnew => hid hnew.1)
  | @shareDocument id username role _ hallowed _ hgrants _ =>
    by_cases hid : d = id
    · subst hid
      exact .inr (.inl (hallowed hrefs))
    · refine .inl fun r => (hgrants d u r).trans ((or_iff_left fun hnew => hid hnew.1).trans ?_)
      exact and_iff_left fun heq => hid heq.1
  | @deleteDocument id _ hallowed _ hgrants _ =>
    by_cases hid : d = id
    · subst hid
      exact .inr (.inr (.inl (hallowed hrefs)))
    · exact .inl fun r => (hgrants d u r).trans (and_iff_left hid)

/-- Whoever is in no organization has nothing allowed that writes. -/
theorem eq_of_stranger (h : db.Meets schemas) (hrefs : db.isConsistent = true)
    (hstranger : ∀ org, ¬IsMember db user org) : made = db := by
  -- a role on a document is held by a user that there is, so a stranger has none
  have hnone : ∀ {org role}, ¬HasUser db user org role := fun hu => hstranger _ ⟨_, hu⟩
  have hnotgranted : ∀ {d role}, ¬HasGrant db d user role := by
    intro d role hg
    obtain ⟨org, hmember⟩ := HasGrant.exists_isMember h hrefs hg
    exact hstranger org hmember
  have hnodocument : ∀ d, ¬(Deed.manageShare d).Allowed db user := by
    intro d hallowed
    obtain ⟨org, _, hadmin | hmanager | howner⟩ := exists_manages hnot hallowed
    · exact hnone hadmin
    · exact hnotgranted hmanager
    · exact hnotgranted howner
  cases hv with
  | failed | read _ => rfl
  | createUser hallowed _ _ _ => exact absurd (hallowed.resolve_left hnot) hnone
  | deleteUser hallowed _ _ _ _ =>
    obtain ⟨org, hmember, _⟩ := id hallowed
    exact absurd (isAdmin_of_allowed hnot h hmember hallowed) hnone
  | editRoles hsome hallowed _ _ _ =>
    obtain ⟨entry, hentry⟩ := List.exists_mem_of_ne_nil _ hsome
    obtain ⟨org, hmember, _⟩ := (hallowed entry hentry).1
    exact absurd (isAdmin_of_allowed hnot h hmember (hallowed entry hentry).1) hnone
  | createOrganization hallowed _ _ _ => exact absurd hallowed hnot
  | createDocument hallowed _ _ _ _ => exact absurd (hallowed.resolve_left hnot) (hstranger _)
  | setDocumentPublic hallowed _ _ => exact absurd (hallowed hrefs) (hnodocument _)
  | shareDocument hallowed _ _ _ => exact absurd (hallowed hrefs) (hnodocument _)
  | deleteDocument hallowed _ _ _ =>
    exact absurd (manageShare_of_deleteDocument (hallowed hrefs)) (hnodocument _)

theorem isolated (h : db.Meets schemas) (hrefs : db.isConsistent = true) : Isolated user db made where
  organizations := organizations_eq hv hnot
  users := users_iff hv hnot h
  globalAdmins u := (users_iff hv hnot h u globalOrg "admin").resolve_right hnot
  documents := documents_iff hv hnot h hrefs
  grants := grants_iff hv hnot hrefs
  stranger := eq_of_stranger hv hnot h hrefs

end Service.Performs

/-- Whatever service a user who is no global administrator calls, with whatever values and however the call ends:
what is seen through the bind differs afterwards only in what is the user's to change, and so does what is stored. -/
theorem Service.isolates {c : Context} {sys : System} {user : String} {dialect : Dialect} {hasEngine : Bool}
    {config : Option Config} (v : Service) (hs : Names c.subject user)
    (he : c.evaluator = (evaluator dialect hasEngine config).toEvaluator)
    (hregistered : sys.globals.registry.lookup (.text "User") = .ok userMapping)
    (h : (c.bind.view sys).Meets schemas) (hrefs : (c.bind.view sys).isConsistent = true)
    (hnot : ¬IsGlobalAdmin (c.bind.view sys) user) :
    Isolated user (c.bind.view sys) (c.bind.view (v.run c sys).2) ∧
      ((v.run c sys).2.disk = sys.disk ∨ (v.run c sys).2.disk = c.bind.view (v.run c sys).2) := by
  have hobserves : c.evaluator.Observes := he ▸ LocalEvaluator.observes _
  have hserved := Service.served_run sys v hobserves
  refine ⟨?_, ?_⟩
  · cases houtcome : (v.run c sys).1 with
    | error f =>
      rw [hserved.kept f houtcome]
      exact .refl user _
    | ok reply =>
      obtain ⟨_, hperforms⟩ := Service.performs hs he hregistered h (hserved.made reply houtcome)
      exact hperforms.isolated hnot h hrefs
  · cases hbind : c.bind with
    | engine reachable => exact .inr rfl
    | connection => exact hserved.stored hbind

/-! ### On the sample -/

/-- The sample, with the application's tables registered. -/
def registeredSample : System := { disk := sampleDatabase, globals := { registry } }

/-- The sample after bob has deleted alice. -/
def withoutAlice : System := ((Service.deleteUser "alice").run (requestOf (.text "bob")) registeredSample).2

/-- Bob deletes alice, and nothing that is not his to change is changed. -/
theorem Service.isolates_bob : Isolated "bob" sampleDatabase withoutAlice.disk ∧
    HasUser sampleDatabase "alice" "acme" "member" ∧ ¬HasUser withoutAlice.disk "alice" "acme" "member" := by
  have hregistered : registeredSample.globals.registry.lookup (.text "User") = .ok userMapping := by decide +kernel
  have hnot : ¬IsGlobalAdmin sampleDatabase "bob" := by decide +kernel
  have hisolated := @Service.isolates (requestOf (.text "bob")) registeredSample "bob" .sqlite true none
    (.deleteUser "alice") (Names.text "bob") rfl hregistered Deed.sampleDatabase_meets
    Deed.sampleDatabase_isConsistent hnot
  exact ⟨hisolated.1, by decide +kernel, by decide +kernel⟩

end RowGuard.Records
