import RowGuard.Proofs.Evaluator.Checks
import RowGuard.Proofs.Records.Meaning
import RowGuard.Records.Sample

/-!
# What users may do

Everything the records policy has a permission for is a `Deed` on one resource, and `Deed.Allowed` says in terms
of the tables alone which users may do it. A check of the deed answers just that (`Deed.check_answers`), for every
subject whose identity can be bound: a text, or a whole number of at most 64 bits.
-/

namespace RowGuard.Records

/-- Something that the policy permits or does not. -/
inductive Deed where
  | createOrganization
  | readOrganization (org : String)
  | listUsers (org : String)
  | createDocument (org : String)
  | createUser (org : String)
  | readUser (username : String)
  | editRole (username : String)
  | deleteUser (username : String)
  | readDocument (id : Int)
  | editDocument (id : Int)
  | manageShare (id : Int)
  | setPublic (id : Int)
  | deleteDocument (id : Int)
deriving DecidableEq

namespace Deed

/-- The action that is asked for. -/
def action : Deed → String
  | createOrganization => "create_org"
  | readOrganization _ | readUser _ | readDocument _ => "read"
  | listUsers _ => "list_users"
  | createDocument _ => "create_document"
  | createUser _ => "create_user"
  | editRole _ => "edit_role"
  | deleteUser _ | deleteDocument _ => "delete"
  | editDocument _ => "edit"
  | manageShare _ => "manage_share"
  | setPublic _ => "set_public"

/-- The type of the resource that it is asked for on. -/
def type : Deed → String
  | createOrganization => globalType
  | readOrganization _ | listUsers _ | createDocument _ | createUser _ => "Organization"
  | readUser _ | editRole _ | deleteUser _ => "User"
  | readDocument _ | editDocument _ | manageShare _ | setPublic _ | deleteDocument _ => "Document"

/-- The identity of that resource. -/
def id : Deed → Data
  | createOrganization => .text ""
  | readOrganization org | listUsers org | createDocument org | createUser org => .text org
  | readUser username | editRole username | deleteUser username => .text username
  | readDocument id | editDocument id | manageShare id | setPublic id | deleteDocument id => .int id

/-- The resource. -/
def resource (d : Deed) : Resource := ⟨.text d.type, d.id⟩

/-- The number of the document, if it is one, can be stored. -/
def IsStorable : Deed → Prop
  | readDocument id | editDocument id | manageShare id | setPublic id | deleteDocument id =>
    Value.isStorable id = true
  | _ => True

/-- Whether a user may do it, by what the tables say. -/
def Allowed (db : Database) (user : String) : Deed → Prop
  | createOrganization => IsGlobalAdmin db user
  | readOrganization org | listUsers org | createDocument org => IsGlobalAdmin db user ∨ IsMember db user org
  | createUser org => IsGlobalAdmin db user ∨ HasUser db user org "admin"
  | readUser username => ∃ org, IsMember db username org ∧ (IsGlobalAdmin db user ∨ IsMember db user org)
  | editRole username | deleteUser username =>
    ∃ org, IsMember db username org ∧ (IsGlobalAdmin db user ∨ HasUser db user org "admin")
  | readDocument id => ∃ org title isPublic, HasDocument db id org title isPublic ∧
      (IsGlobalAdmin db user ∨ isPublic = true ∨ IsMember db user org ∨ ∃ role, HasGrant db id user role)
  | editDocument id => ∃ org, BelongsTo db id org ∧
      (IsGlobalAdmin db user ∨ HasUser db user org "admin" ∨
        HasGrant db id user "editor" ∨ HasGrant db id user "manager" ∨ HasGrant db id user "owner")
  | manageShare id | setPublic id => ∃ org, BelongsTo db id org ∧
      (IsGlobalAdmin db user ∨ HasUser db user org "admin" ∨
        HasGrant db id user "manager" ∨ HasGrant db id user "owner")
  | deleteDocument id => ∃ org, BelongsTo db id org ∧
      (IsGlobalAdmin db user ∨ HasUser db user org "admin" ∨ HasGrant db id user "owner")

/-- The operand stands for the resource's identity. -/
def Targets (x : Operand) : Deed → Prop
  | createOrganization => True
  | readOrganization org | listUsers org | createDocument org | createUser org => x.IsText org
  | readUser username | editRole username | deleteUser username => x.IsText username
  | readDocument id | editDocument id | manageShare id | setPublic id | deleteDocument id => x.IsInt id

theorem declares (d : Deed) : policy.declares d.type d.action = true := by
  cases d <;> rfl

/-! ## Derivations -/

section Meaning

variable {db : Database} {value : Literal → Value} {s : Subject} {user : String} {x : Operand}

/-- A role on a document is held on one that there is. -/
theorem grant_or_exists_iff {id : Int} {Q : Prop} {P : String → Prop} (hQ : Q → ∃ org, BelongsTo db id org) :
    (Q ∨ ∃ org, BelongsTo db id org ∧ P org) ↔ ∃ org, BelongsTo db id org ∧ (P org ∨ Q) := by
  constructor
  · rintro (hq | ⟨org, hd, hp⟩)
    · obtain ⟨org, hd⟩ := hQ hq
      exact ⟨org, hd, .inr hq⟩
    · exact ⟨org, hd, .inl hp⟩
  · rintro ⟨org, hd, hp | hq⟩
    · exact .inr ⟨org, hd, hp⟩
    · exact .inl hq

variable (h : db.Meets schemas) (hv : Reads value s user)

include h hv

theorem holds_createOrganization_iff :
    policy.Holds (facts.evidence policy s db value) globalType x "create_org" ↔ IsGlobalAdmin db user := by
  have hrequired : Policy.requiredFor globalBlock "create_org" = [.role "admin"] := by decide
  rw [Policy.holds_permission_of_role (rfl : policy.block? globalType = some globalBlock) (by decide) hrequired,
    Policy.holds_role_iff (rfl : policy.block? globalType = some globalBlock) (by decide),
    (by decide : Policy.requiredFor globalBlock "admin" = [])]
  simp only [Evidence.hasRoleOn, if_true, List.not_mem_nil, false_and, exists_false, or_false]
  exact hasGlobalRole_iff h hv

omit hv in
/-- A permission on a user comes from a role on the user's organization. -/
theorem holds_user_iff {name n role : String} (hx : x.IsText name)
    (hrequired : Policy.requiredFor userBlock n = [.roleOn role "parent"]) :
    policy.Holds (facts.evidence policy s db value) "User" x n ↔
      ∃ org, IsMember db name org ∧
        policy.Holds (facts.evidence policy s db value) "Organization" (.text org) role := by
  rw [Policy.holds_permission_iff (rfl : policy.block? "User" = some userBlock) (by simp [userBlock]), hrequired]
  simpa using meets_parent_iff h hx

/-- Readers are those who administrate a document or have any role on it, members of its organization, and
everybody if it is public. -/
theorem holds_readDocument_iff (hrefs : db.isConsistent = true) {id : Int} (hx : x.IsInt id) :
    policy.Holds (facts.evidence policy s db value) "Document" x "read" ↔ (readDocument id).Allowed db user := by
  have hrequired : Policy.requiredFor documentBlock "read" = [.role "viewer", .hasAttribute "public"] := by decide
  rw [Policy.holds_permission_iff (rfl : policy.block? "Document" = some documentBlock) (by decide), hrequired]
  simp only [List.mem_cons, List.not_mem_nil, or_false, exists_eq_or_imp, exists_eq_left, Policy.Meets,
    holds_viewer_iff h hv hx, holds_editor_iff h hv hx, holds_manager_iff h hv hx, holds_owner_iff h hv hx,
    hasAttribute_public_iff h hx]
  have hgrant : ∀ role, HasGrant db id user role → (readDocument id).Allowed db user := by
    intro role hg
    obtain ⟨org, title, isPublic, hd⟩ := HasGrant.exists_document h hrefs hg
    exact ⟨org, title, isPublic, hd, .inr (.inr (.inr ⟨role, hg⟩))⟩
  constructor
  · rintro ((hg | (hg | hg | hg | ⟨org, ⟨title, isPublic, hd⟩, hga | hu⟩) |
      ⟨org, ⟨title, isPublic, hd⟩, hga | hu⟩) | ⟨org, title, hd⟩)
    · exact hgrant _ hg
    · exact hgrant _ hg
    · exact hgrant _ hg
    · exact hgrant _ hg
    · exact ⟨org, title, isPublic, hd, .inl hga⟩
    · exact ⟨org, title, isPublic, hd, .inr (.inr (.inl ⟨_, hu⟩))⟩
    · exact ⟨org, title, isPublic, hd, .inl hga⟩
    · exact ⟨org, title, isPublic, hd, .inr (.inr (.inl hu))⟩
    · exact ⟨org, title, true, hd, .inr (.inl rfl)⟩
  · rintro ⟨org, title, isPublic, hd, hga | rfl | hu | hg⟩
    · exact .inl (.inr (.inr ⟨org, ⟨title, isPublic, hd⟩, .inl hga⟩))
    · exact .inr ⟨org, title, hd⟩
    · exact .inl (.inr (.inr ⟨org, ⟨title, isPublic, hd⟩, .inr hu⟩))
    · rcases (exists_grant_iff h).mp hg with hg | hg | hg | hg
      · exact .inl (.inl hg)
      · exact .inl (.inr (.inl (.inl hg)))
      · exact .inl (.inr (.inl (.inr (.inl hg))))
      · exact .inl (.inr (.inl (.inr (.inr (.inl hg)))))

/-- The permission to do something is derivable exactly for those who are allowed to do it. On documents that
takes it for granted that roles are held on documents that there are. -/
theorem holds_iff_allowed {d : Deed} (hrefs : d.type = "Document" → db.isConsistent = true) (hx : d.Targets x) :
    policy.Holds (facts.evidence policy s db value) d.type x d.action ↔ d.Allowed db user := by
  have hmember := fun org => holds_member_iff h hv (Operand.isText_text org)
  have hadmin := fun org => holds_admin_iff h hv (Operand.isText_text org)
  have hgrant : d.type = "Document" → ∀ {id role}, HasGrant db id user role → ∃ org, BelongsTo db id org :=
    fun hd _ _ hg => HasGrant.exists_document h (hrefs hd) hg
  cases d with
  | createOrganization => exact holds_createOrganization_iff h hv
  | readOrganization org =>
    exact (Policy.holds_permission_of_role (b := organizationBlock) (n := "read") rfl (by decide) (by decide)).trans
      (holds_member_iff h hv hx)
  | listUsers org =>
    exact (Policy.holds_permission_of_role (b := organizationBlock) (n := "list_users") rfl (by decide) (by decide)).trans
      (holds_member_iff h hv hx)
  | createDocument org =>
    exact (Policy.holds_permission_of_role (b := organizationBlock) (n := "create_document") rfl (by decide) (by decide)).trans
      (holds_member_iff h hv hx)
  | createUser org =>
    exact (Policy.holds_permission_of_role (b := organizationBlock) (n := "create_user") rfl (by decide) (by decide)).trans
      (holds_admin_iff h hv hx)
  | readUser username =>
    exact (holds_user_iff (n := "read") h hx (by decide)).trans
      (exists_congr fun org => and_congr_right fun _ => hmember org)
  | editRole username =>
    exact (holds_user_iff (n := "edit_role") h hx (by decide)).trans
      (exists_congr fun org => and_congr_right fun _ => hadmin org)
  | deleteUser username =>
    exact (holds_user_iff (n := "delete") h hx (by decide)).trans
      (exists_congr fun org => and_congr_right fun _ => hadmin org)
  | deleteDocument id =>
    refine (Policy.holds_permission_of_role (b := documentBlock) (n := "delete") rfl (by decide) (by decide)).trans
      ((holds_owner_iff h hv hx).trans ?_)
    rw [grant_or_exists_iff (hgrant rfl)]
    exact exists_congr fun org => and_congr_right fun _ => or_assoc
  | manageShare id =>
    refine (Policy.holds_permission_of_role (b := documentBlock) (n := "manage_share") rfl (by decide) (by decide)).trans
      ((holds_manager_iff h hv hx).trans ?_)
    rw [holds_owner_iff h hv hx, ← or_assoc, grant_or_exists_iff (by rintro (hg | hg) <;> exact hgrant rfl hg)]
    exact exists_congr fun org => and_congr_right fun _ => or_assoc
  | setPublic id =>
    refine (Policy.holds_permission_of_role (b := documentBlock) (n := "set_public") rfl (by decide) (by decide)).trans
      ((holds_manager_iff h hv hx).trans ?_)
    rw [holds_owner_iff h hv hx, ← or_assoc, grant_or_exists_iff (by rintro (hg | hg) <;> exact hgrant rfl hg)]
    exact exists_congr fun org => and_congr_right fun _ => or_assoc
  | editDocument id =>
    refine (Policy.holds_permission_of_role (b := documentBlock) (n := "edit") rfl (by decide) (by decide)).trans
      ((holds_editor_iff h hv hx).trans ?_)
    rw [holds_manager_iff h hv hx, holds_owner_iff h hv hx, ← or_assoc, ← or_assoc,
      grant_or_exists_iff (by rintro ((hg | hg) | hg) <;> exact hgrant rfl hg)]
    exact exists_congr fun org => and_congr_right fun _ => by rw [or_assoc, or_assoc]
  | readDocument id => exact holds_readDocument_iff h hv (hrefs rfl) hx

end Meaning

end Deed

/-! ## Checks -/

/-- The application's evaluator, for a dialect and under a configuration, with an engine of its own or without. -/
def evaluator (dialect : Dialect) (hasEngine : Bool) (config : Option Config) : LocalEvaluator :=
  { policy, facts, dialect, hasEngine, config }

/-- The subject is a user, named by a text or by a whole number in decimal digits. -/
inductive Names : Subject → String → Prop
  | text (user : String) : Names ⟨.text "User", .text user⟩ user
  | int (n : Int) : Names ⟨.text "User", .int n⟩ (toString n)

section Subjects

variable {s : Subject} {user : String}

theorem actorLiteral_eq (s : Subject) : facts.actorLiteral policy s = ⟨s.id, some .text⟩ := by
  simp [FactBook.actorLiteral, FactBook.idType, facts, policy]

theorem Names.isActor (hs : Names s user) : policy.isActor s = true := by
  cases hs <;> simp [Policy.isActor, policy]

/-- A user's identity as it is bound compares as the user's name. -/
theorem Names.reads_bound (hs : Names s user) : Reads Literal.bound s user where
  subject t := by
    rw [actorLiteral_eq]
    cases hs with
    | text => exact decide_eq_true_iff
    | int => exact decide_eq_true_iff
  role role t := decide_eq_true_iff

/-- A user's identity can be bound if it is a text or has at most 64 bits. -/
theorem Names.binds (hs : Names s user) (hfits : ∀ n, s.id = .int n → Value.isStorable n = true) :
    (facts.actorLiteral policy s).Binds := by
  rw [actorLiteral_eq]
  cases hs with
  | text => exact ⟨rfl, rfl⟩
  | int n => exact ⟨rfl, hfits n rfl⟩

end Subjects

namespace Deed

variable {db : Database} {s : Subject} {user : String} {d : Deed} {dialect : Dialect} {hasEngine : Bool}
  {config : Option Config}

/-- The condition for something to be done. -/
theorem exists_testable (dialect : Dialect) (hasEngine : Bool) (config : Option Config) (hs : Names s user)
    (d : Deed) (given : Config) :
    ∃ c, (evaluator dialect hasEngine config).condition given s (.text d.action) (.text d.type) = .ok c ∧
      (∀ db target, facts.Askable policy db → (facts.actorLiteral policy s).Binds → target.Binds →
        LocalEvaluator.Testable c target db) ∧
      ∀ db value x, Condition.holds db value x c = true ↔
        policy.Holds (facts.evidence policy s db value) d.type x d.action :=
  LocalEvaluator.exists_testable (e := evaluator dialect hasEngine config) policy_validate policy_acyclic
    facts_supplies hs.isActor d.declares

/-- The resource's identity, of the type that the fact book gives to it. -/
def literal : Deed → Literal
  | createOrganization => ⟨.text "", none⟩
  | readOrganization org | listUsers org | createDocument org | createUser org => ⟨.text org, some .text⟩
  | readUser username | editRole username | deleteUser username => ⟨.text username, some .text⟩
  | readDocument id | editDocument id | manageShare id | setPublic id | deleteDocument id =>
    ⟨.int id, some .integer⟩

theorem target_eq (d : Deed) : (evaluator dialect hasEngine config).target d.resource = d.literal := by
  have horganization : facts.idType (.text "Organization") = some .text := by
    simp [FactBook.idType, facts, List.lookup_cons]
  have huser : facts.idType (.text "User") = some .text := by simp [FactBook.idType, facts]
  have hdocument : facts.idType (.text "Document") = some .integer := by
    simp [FactBook.idType, facts, List.lookup_cons]
  have hglobal : facts.idType (.text globalType) = none := by
    simp [FactBook.idType, facts, globalType, List.lookup_cons]
  show (⟨d.id, facts.idType (.text d.type)⟩ : Literal) = d.literal
  cases d <;> simp only [type, id, literal, horganization, huser, hdocument, hglobal]

/-- A resource's identity as it is bound stands for the resource. -/
theorem targets_bound (d : Deed) : d.Targets (.bare d.literal.bound) := by
  cases d with
  | createOrganization => trivial
  | readOrganization org | listUsers org | createDocument org | createUser org => exact Operand.isText_bare org
  | readUser username | editRole username | deleteUser username => exact Operand.isText_bare username
  | readDocument id | editDocument id | manageShare id | setPublic id | deleteDocument id =>
    exact Operand.isInt_bare id

theorem binds_literal (hd : d.IsStorable) : d.literal.Binds := by
  cases d with
  | readDocument id | editDocument id | manageShare id | setPublic id | deleteDocument id => exact ⟨rfl, hd⟩
  | _ => exact ⟨rfl, rfl⟩

/-- What a check has let through on the caller's connection is allowed by the database seen there. -/
theorem allowed_of_check {start checked : System} (hs : Names s user) (h : start.seen.Meets schemas)
    (hrefs : d.type = "Document" → start.seen.isConsistent = true)
    (hcheck : (evaluator dialect hasEngine config).check true s (.text d.action) d.resource start =
      (.ok true, checked)) : d.Allowed start.seen user := by
  obtain ⟨c, hc, _, hholds⟩ := LocalEvaluator.holds_of_check hcheck
  obtain ⟨c', hc', _, hmeaning⟩ := exists_testable dialect hasEngine config hs d
    ((evaluator dialect hasEngine config).configIn start)
  obtain rfl := Except.ok.inj (hc.symm.trans hc')
  rw [target_eq] at hholds
  exact (holds_iff_allowed h hs.reads_bound hrefs d.targets_bound).mp ((hmeaning _ _ _).mp hholds.symm)

/-- A check answers whether the tables allow the user to do what is asked for. The user's identity and the
document's number have to be such as can be bound. -/
theorem check_answers {bind : Bind} {sys : System} (hs : Names s user)
    (hfits : ∀ n, s.id = .int n → Value.isStorable n = true) (hd : d.IsStorable) (h : db.Meets schemas)
    (hrefs : db.isConsistent = true) (hsees : bind.Sees sys db) (hengine : bind = .connection ∨ hasEngine = true) :
    ∃ b, (evaluator dialect hasEngine config).answer bind sys s (.text d.action) d.resource = .ok b ∧
      (b = true ↔ d.Allowed db user) := by
  obtain ⟨c, hc, htestable, hmeaning⟩ :=
    exists_testable dialect hasEngine config hs d ((evaluator dialect hasEngine config).configIn sys)
  have htest := htestable db _ (facts_askable h) (hs.binds hfits) (binds_literal hd)
  rw [← target_eq] at htest
  refine ⟨_, LocalEvaluator.answer_eq hsees hengine hc htest, ?_⟩
  rw [target_eq]
  exact (hmeaning _ _ _).trans (holds_iff_allowed h hs.reads_bound (fun _ => hrefs) d.targets_bound)

/-! ### On the sample -/

theorem sampleDatabase_meets : sampleDatabase.Meets schemas := by decide +kernel

theorem sampleDatabase_isConsistent : sampleDatabase.isConsistent = true := by decide +kernel

def dave : Subject := ⟨.text "User", .text "dave"⟩

/-- Dave, who administrates globex, may delete its memo. -/
theorem check_answers_dave :
    (evaluator .sqlite true none).answer (.engine true) { disk := sampleDatabase } dave (.text "delete")
      (deleteDocument 3).resource = .ok true := by
  have hstorable : (deleteDocument 3).IsStorable := (by decide : Value.isStorable 3 = true)
  have hsees : (Bind.engine true).Sees { disk := sampleDatabase } sampleDatabase := ⟨rfl, rfl⟩
  have hfits : ∀ n, dave.id = .int n → Value.isStorable n = true := by simp [dave]
  obtain ⟨b, hanswer, hallowed⟩ : ∃ b, (evaluator .sqlite true none).answer (.engine true)
      { disk := sampleDatabase } dave (.text "delete") (deleteDocument 3).resource = .ok b ∧
      (b = true ↔ (deleteDocument 3).Allowed sampleDatabase "dave") :=
    check_answers (Names.text "dave") hfits hstorable sampleDatabase_meets sampleDatabase_isConsistent hsees
      (.inr rfl)
  have hmemo : BelongsTo sampleDatabase 3 "globex" :=
    ⟨"Globex memo", false, (by decide +kernel : HasDocument sampleDatabase 3 "globex" "Globex memo" false)⟩
  have hdave : HasUser sampleDatabase "dave" "globex" "admin" := by decide +kernel
  rw [hallowed.mpr ⟨"globex", hmemo, .inr (.inl hdave)⟩] at hanswer
  exact hanswer

/-- A user named by a number of more than 64 bits. -/
def distant : Subject := ⟨.text "User", .int (2 ^ 64)⟩

/-- The sample on a lent connection. -/
def lentSample : System := { disk := sampleDatabase, link := some {} }

/-- The number that names the user cannot be bound: although everybody may read the handbook, a check of it has no
answer. -/
theorem distant_gets_no_answer :
    Names distant (toString (2 ^ 64 : Int)) ∧ Bind.connection.Sees lentSample sampleDatabase ∧
      sampleDatabase.Meets schemas ∧ sampleDatabase.isConsistent = true ∧
      (readDocument 2).Allowed sampleDatabase (toString (2 ^ 64 : Int)) ∧
      ∀ b, (evaluator .sqlite true none).answer .connection lentSample distant (.text "read")
        (readDocument 2).resource ≠ .ok b := by
  have hhandbook : HasDocument sampleDatabase 2 "acme" "Acme handbook" true := by decide +kernel
  refine ⟨Names.int _, ⟨_, rfl, Link.usable_new, rfl⟩, sampleDatabase_meets, sampleDatabase_isConsistent,
    ⟨_, _, true, hhandbook, .inr (.inl rfl)⟩, ?_⟩
  intro b hanswer
  obtain ⟨c, hc, hfits, _⟩ := LocalEvaluator.holds_of_check (Prod.ext hanswer rfl)
  have hreached : documentBlock.Reaches ["read"] "viewer" :=
    .implied (n := "read") (.grant List.mem_cons_self) (by decide)
  have hmem := LocalEvaluator.actorLiteral_mem_literalsOfAll (readDocument 2).declares hc
    (rfl : policy.block? "Document" = some documentBlock) (by decide) (by decide) hreached
  have hfit := List.all_eq_true.mp hfits _ (Condition.mem_literals_of_mem_literalsOfAll _ hmem)
  change (facts.actorLiteral policy distant).bound.fits = true at hfit
  rw [actorLiteral_eq] at hfit
  exact absurd hfit (by decide)

end Deed

end RowGuard.Records
