import RowGuard.Proofs.Listing.Likeness
import RowGuard.Proofs.Records.Tenancy
import RowGuard.Proofs.Records.Written

/-!
# What listings depend on

What a user who is no global administrator is listed depends on what is the user's to see and on nothing else
(`listings_confined`): users on those of the user's own organization, documents on those that are public, the
organization's, or the user's by a role. Whatever else the tables hold, the rows, the permissions shown on them,
their order and whether the user's own row is set apart are the same.
-/

namespace RowGuard.Records

open Listing

/-- On a consistent database that meets the application's schemas the user has a role in an organization, and is no
global administrator. -/
structure IsTenant (db : Database) (user org role : String) : Prop where
  meets : db.Meets schemas
  consistent : db.isConsistent = true
  own : HasUser db user org role
  notGlobal : ¬IsGlobalAdmin db user

/-- The same users belong to the organization, in the same roles. -/
def SameUsers (org : String) (db db' : Database) : Prop :=
  ∀ u role, HasUser db u org role ↔ HasUser db' u org role

/-- There is the document, and it is public, the organization's, or one that the user has a role on. -/
def ShowsDocument (db : Database) (user org : String) (d : Int) (o title : String) (isPublic : Bool) : Prop :=
  HasDocument db d o title isPublic ∧ (isPublic = true ∨ o = org ∨ ∃ role, HasGrant db d user role)

/-- The user has the same roles on documents, and the same documents are public, the organization's, or ones that
the user has a role on. -/
structure SameDocuments (user org : String) (db db' : Database) : Prop where
  grants : ∀ d role, HasGrant db d user role ↔ HasGrant db' d user role
  documents : ∀ d o title isPublic,
    ShowsDocument db user org d o title isPublic ↔ ShowsDocument db' user org d o title isPublic

/-! ## What a tenant may do -/

namespace IsTenant

variable {db : Database} {user org role u o r title : String} {d : Int} {isPublic : Bool}
  (h : IsTenant db user org role)

include h

theorem isMember_iff : IsMember db user o ↔ o = org := by
  constructor
  · rintro ⟨r, hu⟩
    exact (HasUser.unique h.meets h.own hu).1.symm
  · rintro rfl
    exact ⟨role, h.own⟩

theorem administrates_iff : IsGlobalAdmin db user ∨ HasUser db user o "admin" ↔ o = org ∧ role = "admin" := by
  rw [or_iff_right h.notGlobal]
  constructor
  · intro hu
    obtain ⟨rfl, rfl⟩ := HasUser.unique h.meets h.own hu
    exact ⟨rfl, rfl⟩
  · rintro ⟨rfl, rfl⟩
    exact h.own

theorem readUser_iff (hu : HasUser db u o r) : (Deed.readUser u).Allowed db user ↔ o = org := by
  show (∃ o, IsMember db u o ∧ (IsGlobalAdmin db user ∨ IsMember db user o)) ↔ _
  rw [exists_isMember_iff h.meets hu, or_iff_right h.notGlobal, h.isMember_iff]

/-- Editing somebody's role and deleting somebody are for the same administrators. -/
theorem editRole_iff (hu : HasUser db u o r) :
    (Deed.editRole u).Allowed db user ↔ o = org ∧ role = "admin" := by
  show (∃ o, IsMember db u o ∧ (IsGlobalAdmin db user ∨ HasUser db user o "admin")) ↔ _
  rw [exists_isMember_iff h.meets hu, h.administrates_iff]

theorem readDocument_iff (hd : HasDocument db d o title isPublic) :
    (Deed.readDocument d).Allowed db user ↔ isPublic = true ∨ o = org ∨ ∃ role, HasGrant db d user role := by
  constructor
  · rintro ⟨o', title', isPublic', hd', hmay⟩
    obtain ⟨rfl, rfl, rfl⟩ := HasDocument.unique h.meets hd hd'
    rwa [or_iff_right h.notGlobal, h.isMember_iff] at hmay
  · intro hmay
    refine ⟨o, title, isPublic, hd, ?_⟩
    rwa [or_iff_right h.notGlobal, h.isMember_iff]

/-- What is for administrators and for some who have a role on a document. -/
theorem manages_iff (hd : HasDocument db d o title isPublic) {G : Prop} :
    (∃ o, BelongsTo db d o ∧ (IsGlobalAdmin db user ∨ HasUser db user o "admin" ∨ G)) ↔
      (o = org ∧ role = "admin") ∨ G := by
  rw [exists_belongsTo_iff h.meets hd, ← or_assoc, h.administrates_iff]

end IsTenant

/-! ## Plans -/

section Plans

variable {db db' : Database} {user org role : String} {dialect : Dialect} {hasEngine : Bool} {config : Option Config}
  {given : Config} {type : String} {m : Mapping} {extras : List String} {p : Plan} {κ : Type} {read : κ → Deed}
  {further : κ → List Deed} {key : κ → Row → Prop}

/-- A listing's permissions on a row are deeds on the resource that the row's key names. -/
structure Covers (type : String) (m : Mapping) (extras : List String) (read : κ → Deed) (further : κ → List Deed)
    (key : κ → Row → Prop) : Prop where
  schema : m.table ∈ schemas
  place : m.table.position? m.identity.name = some 0
  reading : ∀ k, (read k).action = readPermission ∧ (read k).type = type
  actions : ∀ k, (further k).map Deed.action = extras
  types : ∀ k, ∀ d ∈ further k, d.type = type
  targets : ∀ k row, key k row → ∀ d ∈ read k :: further k, d.Targets (m.table.operand row 0)
  toldApart : ∀ db : Database, db.Meets schemas → ToldApart (db.rows m.table.name) 0
  keyed : ∀ db : Database, db.Meets schemas → ∀ row ∈ db.rows m.table.name, ∃ k, key k row

/-- The condition for a deed holds of a row as the deed is allowed. -/
theorem holds_iff_of_compiles {a sql : String} {c : Condition} {d : Deed} {x : Operand}
    (hc : Compiles (evaluator dialect hasEngine config) given ⟨.text "User", .text user⟩ (.text type) m a c sql)
    (ha : d.action = a) (htype : d.type = type) (hx : d.Targets x) (h : IsTenant db user org role) :
    Condition.holds db Literal.written x c = true ↔ d.Allowed db user := by
  subst ha htype
  exact Deed.holds_written_iff hc.condition h.meets (fun _ => h.consistent) hx

theorem runs_of_compiles {a sql : String} {c : Condition} {d : Deed}
    (hc : Compiles (evaluator dialect hasEngine config) given ⟨.text "User", .text user⟩ (.text type) m a c sql)
    (ha : d.action = a) (htype : d.type = type) (h : db.Meets schemas) : c.runs db = true := by
  subst ha htype
  exact Deed.runs_of_condition hc.condition h

section Covered

variable (hcovers : Covers type m extras read further key)

include hcovers

theorem Covers.exists_deed {a : String} (ha : a ∈ extras) (k : κ) :
    ∃ d ∈ further k, d.action = a ∧ d.type = type := by
  rw [← hcovers.actions k] at ha
  obtain ⟨d, hd, haction⟩ := List.mem_map.mp ha
  exact ⟨d, hd, haction, hcovers.types k d hd⟩

variable (h : IsTenant db user org role) (h' : IsTenant db' user org role)

include h h'

/-- Where the same rows may be read, and the same may be done to what these stand for, a listing selects the
same. -/
theorem Covers.select_congr [Inhabited κ]
    (hfor : PlannedFor (evaluator dialect hasEngine config) given ⟨.text "User", .text user⟩ (.text type) m extras p)
    (hread : ∀ k row, key k row → (row ∈ db.rows m.table.name ∧ (read k).Allowed db user ↔
      row ∈ db'.rows m.table.name ∧ (read k).Allowed db' user))
    (hfurther : ∀ k row, key k row → row ∈ db.rows m.table.name → (read k).Allowed db user →
      ∀ d ∈ further k, d.Allowed db user ↔ d.Allowed db' user) : p.select db = p.select db' := by
  have hreads : ∀ {c sql}, Compiles (evaluator dialect hasEngine config) given ⟨.text "User", .text user⟩ (.text type)
      m readPermission c sql → ∀ {k row}, key k row → ∀ {db}, IsTenant db user org role →
        (c.holds db Literal.written (m.table.operand row 0) = true ↔ (read k).Allowed db user) := by
    intro c sql hc k row hk db h
    exact holds_iff_of_compiles hc (hcovers.reading k).1 (hcovers.reading k).2
      (hcovers.targets k row hk _ List.mem_cons_self) h
  have halike : p.SeesAlike 0 db db' (db.rows m.table.name) (db'.rows m.table.name) := by
    refine hfor.seesAlike ?_ ?_ ?_
    · intro a ha c sql hc
      obtain ⟨d, haction, htype⟩ : ∃ d : Deed, d.action = a ∧ d.type = type := by
        rcases List.mem_cons.mp ha with rfl | ha
        · exact ⟨read default, hcovers.reading default⟩
        · obtain ⟨d, _, hd⟩ := hcovers.exists_deed ha default
          exact ⟨d, hd⟩
      rw [runs_of_compiles hc haction htype h.meets, runs_of_compiles hc haction htype h'.meets]
    · intro c sql hc row
      constructor
      · rintro ⟨hrow, hholds⟩
        obtain ⟨k, hk⟩ := hcovers.keyed db h.meets row hrow
        exact ((hread k row hk).mp ⟨hrow, (hreads hc hk h).mp hholds⟩).imp_right (hreads hc hk h').mpr
      · rintro ⟨hrow, hholds⟩
        obtain ⟨k, hk⟩ := hcovers.keyed db' h'.meets row hrow
        exact ((hread k row hk).mpr ⟨hrow, (hreads hc hk h').mp hholds⟩).imp_right (hreads hc hk h).mpr
    · intro c₀ sql₀ hc₀ a ha c sql hc row hrow hholds
      obtain ⟨k, hk⟩ := hcovers.keyed db h.meets row hrow
      obtain ⟨d, hd, haction, htype⟩ := hcovers.exists_deed ha k
      have hx := hcovers.targets k row hk d (List.mem_cons_of_mem _ hd)
      rw [Bool.eq_iff_iff]
      exact (holds_iff_of_compiles hc haction htype hx h).trans
        ((hfurther k row hk hrow ((hreads hc₀ hk h).mp hholds) d hd).trans
          (holds_iff_of_compiles hc haction htype hx h').symm)
  have htable : ∀ db : Database, db.Meets schemas →
      db.table? m.table.name = some ⟨m.table, db.rows m.table.name⟩ := fun db h =>
    h.table?_eq names_nodup hcovers.schema
  obtain rfl := hfor.mapping
  exact Plan.select_congr halike hfor.order (htable db h.meets) (htable db' h'.meets) hcovers.place
    (hcovers.toldApart db h.meets) (hcovers.toldApart db' h'.meets)

end Covered

/-! ### Users -/

theorem covers_users : Covers "User" userMapping userPermissions Deed.readUser
    (fun u => [.editRole u, .deleteUser u]) (fun u row => ∃ o r, row = [.text u, .text o, .text r]) where
  schema := by decide
  place := rfl
  reading _ := ⟨rfl, rfl⟩
  actions _ := rfl
  types u := by simp [Deed.type]
  targets u row := by
    rintro ⟨o, r, rfl⟩
    have htext : (userMapping.table.operand [.text u, .text o, .text r] 0).IsText u := Operand.isText_text u
    simpa [Deed.Targets] using htext
  toldApart db h := {
    nodup := h.nodup_rows names_nodup (by decide) ⟨_, List.mem_cons_self, rfl⟩
    ordered := by
      intro row hrow
      obtain ⟨u, o, r, _, rfl⟩ := (mem_users_iff h).mp hrow
      simp [Value.IsOrdered]
    distinct := by
      intro a ha b hb hab hba
      obtain ⟨u, o, r, hu, rfl⟩ := (mem_users_iff h).mp ha
      obtain ⟨u', o', r', hu', rfl⟩ := (mem_users_iff h).mp hb
      obtain rfl : u = u' := Value.eq_of_not_lt_text hab hba
      obtain ⟨rfl, rfl⟩ := HasUser.unique h hu hu'
      rfl }
  keyed db h row hrow := by
    obtain ⟨u, o, r, _, rfl⟩ := (mem_users_iff h).mp hrow
    exact ⟨u, o, r, rfl⟩

/-! ### Documents -/

/-- Where documents are stored. -/
def documentMapping : Mapping := ⟨.text "Document", documents, Columns.documentId⟩

theorem covers_documents : Covers "Document" documentMapping documentPermissions Deed.readDocument
    (fun d => [.editDocument d, .manageShare d, .setPublic d, .deleteDocument d])
    (fun d row => ∃ (o t : String) (isPublic : Bool),
      row = [.int d, .text o, .text t, .int (if isPublic then 1 else 0)]) where
  schema := by decide
  place := rfl
  reading _ := ⟨rfl, rfl⟩
  actions _ := rfl
  types d := by simp [Deed.type]
  targets d row := by
    rintro ⟨o, t, isPublic, rfl⟩
    have hint : (documentMapping.table.operand [.int d, .text o, .text t, .int (if isPublic then 1 else 0)]
      0).IsInt d := Operand.isInt_int d
    simpa [Deed.Targets] using hint
  toldApart db h := {
    nodup := h.nodup_rows names_nodup (by decide) ⟨_, List.mem_cons_self, rfl⟩
    ordered := by
      intro row hrow
      obtain ⟨d, o, t, isPublic, _, rfl⟩ := (mem_documents_iff h).mp hrow
      simp [Value.IsOrdered]
    distinct := by
      intro a ha b hb hab hba
      obtain ⟨d, o, t, isPublic, hd, rfl⟩ := (mem_documents_iff h).mp ha
      obtain ⟨d', o', t', isPublic', hd', rfl⟩ := (mem_documents_iff h).mp hb
      obtain rfl : d = d' := Value.eq_of_not_lt_int hab hba
      obtain ⟨rfl, rfl, rfl⟩ := HasDocument.unique h hd hd'
      rfl }
  keyed db h row hrow := by
    obtain ⟨d, o, t, isPublic, _, rfl⟩ := (mem_documents_iff h).mp hrow
    exact ⟨d, o, t, isPublic, rfl⟩

section Same

variable (h : IsTenant db user org role) (h' : IsTenant db' user org role)

include h h'

/-- A listing of users selects the same where the organization has the same users. -/
theorem select_users_congr (hsame : SameUsers org db db')
    (hfor : PlannedFor (evaluator dialect hasEngine config) given ⟨.text "User", .text user⟩ (.text "User")
      userMapping userPermissions p) : p.select db = p.select db' := by
  refine covers_users.select_congr h h' hfor ?_ ?_
  · rintro u row ⟨o, r, rfl⟩
    constructor
    · rintro ⟨hu, hallowed⟩
      obtain rfl := (h.readUser_iff hu).mp hallowed
      have hu' := (hsame u r).mp hu
      exact ⟨hu', (h'.readUser_iff hu').mpr rfl⟩
    · rintro ⟨hu, hallowed⟩
      obtain rfl := (h'.readUser_iff hu).mp hallowed
      have hu' := (hsame u r).mpr hu
      exact ⟨hu', (h.readUser_iff hu').mpr rfl⟩
  · rintro u row ⟨o, r, rfl⟩ hu hallowed
    obtain rfl := (h.readUser_iff hu).mp hallowed
    have hedit : (Deed.editRole u).Allowed db user ↔ (Deed.editRole u).Allowed db' user := by
      rw [h.editRole_iff hu, h'.editRole_iff ((hsame u r).mp hu)]
    simp only [List.forall_mem_cons, List.not_mem_nil, false_implies, implies_true, and_true]
    exact ⟨hedit, hedit⟩

/-- A listing of documents selects the same where what it may show of documents is the same, and so are the user's
roles. -/
theorem select_documents_congr (hsame : SameDocuments user org db db')
    (hfor : PlannedFor (evaluator dialect hasEngine config) given ⟨.text "User", .text user⟩ (.text "Document")
      documentMapping documentPermissions p) : p.select db = p.select db' := by
  refine covers_documents.select_congr h h' hfor ?_ ?_
  · rintro d row ⟨o, t, isPublic, rfl⟩
    constructor
    · rintro ⟨hd, hallowed⟩
      obtain ⟨hd', hshown⟩ := (hsame.documents d o t isPublic).mp ⟨hd, (h.readDocument_iff hd).mp hallowed⟩
      exact ⟨hd', (h'.readDocument_iff hd').mpr hshown⟩
    · rintro ⟨hd, hallowed⟩
      obtain ⟨hd', hshown⟩ := (hsame.documents d o t isPublic).mpr ⟨hd, (h'.readDocument_iff hd).mp hallowed⟩
      exact ⟨hd', (h.readDocument_iff hd').mpr hshown⟩
  · rintro d row ⟨o, t, isPublic, rfl⟩ hd hallowed
    obtain ⟨hd', _⟩ := (hsame.documents d o t isPublic).mp ⟨hd, (h.readDocument_iff hd).mp hallowed⟩
    simp only [List.forall_mem_cons, List.not_mem_nil, false_implies, implies_true, and_true, Deed.Allowed,
      h.manages_iff hd, h'.manages_iff hd', hsame.grants]

end Same

end Plans

/-! ## Listings -/

/-- What a user who is no global administrator is listed is the same on any two databases that agree on what the
user may see: the users of its organization, and the documents that are public, the organization's, or the user's
by a role. All other rows of the two may differ. -/
theorem listings_confined {c : Context} {sys sys' : System} {db db' : Database} {user org role : String}
    {dialect : Dialect} {hasEngine : Bool} {config : Option Config} (hs : Names c.subject user)
    (he : c.evaluator = (evaluator dialect hasEngine config).toEvaluator)
    (hregistered : ∀ m ∈ mappings, sys.globals.registry.lookup m.type = .ok m)
    (hglobals : sys'.globals = sys.globals) (hsees : c.bind.Sees sys db) (hsees' : c.bind.Sees sys' db')
    (h : IsTenant db user org role) (h' : IsTenant db' user org role) :
    (SameUsers org db db' → (listUsers c sys).1 = (listUsers c sys').1) ∧
      (SameDocuments user org db db' → (listDocuments c sys).1 = (listDocuments c sys').1) := by
  constructor
  · intro hsame
    unfold listUsers
    rw [loggingFaults_outcome, loggingFaults_outcome, he]
    refine list_congr hsees hsees' hglobals fun p hplanned => ?_
    obtain ⟨hfor, _⟩ := plannedFor_of_planned (hregistered userMapping (by decide)) hplanned
    -- a condition that could be written is one for a subject named by a text
    obtain ⟨_, _, ⟨c₁, sql₁, hc, _⟩, _⟩ := List.forall₂_cons_left_iff.mp hfor.extras
    have hsubject := eq_text_of_forColumn hs (actorLiteral_mem_of_editRole hs hc.condition) hc.text
    rw [hsubject] at hfor
    exact select_users_congr h h' hsame hfor
  · intro hsame
    unfold listDocuments
    rw [he]
    refine list_congr hsees hsees' hglobals fun p hplanned => ?_
    obtain ⟨hfor, _⟩ := plannedFor_of_planned (hregistered documentMapping (by decide)) hplanned
    obtain ⟨c₁, sql₁, hc, _⟩ := hfor.read
    have hsubject := eq_text_of_forColumn hs (actorLiteral_mem_of_readDocument hc.condition) hc.text
    rw [hsubject] at hfor
    exact select_documents_congr h h' hsame hfor

/-! ### On the sample -/

/-- The sample with other users, documents and roles outside acme. -/
def otherSample : Database :=
  populated [
    [[.text "acme"], [.text "globex"], [.text "initech"]],
    [["bob", "acme", "admin"], ["alice", "acme", "member"], ["carol", "acme", "member"],
      ["zoe", "globex", "admin"]].map (List.map .text),
    [documentRow 1 "acme" "Acme plan" false, documentRow 2 "acme" "Acme handbook" true,
      documentRow 3 "globex" "Globex memo" false, documentRow 4 "initech" "Initech report" false],
    [grantRow 1 "carol" "owner", grantRow 3 "zoe" "owner", grantRow 3 "alice" "viewer", grantRow 4 "zoe" "editor"]]

theorem sameUsers_otherSample : SameUsers "acme" sampleDatabase otherSample := by
  have hrows : sampleDatabase.rows users.name = [[.text "root", .text "_", .text "admin"],
      [.text "bob", .text "acme", .text "admin"], [.text "alice", .text "acme", .text "member"],
      [.text "carol", .text "acme", .text "member"], [.text "dave", .text "globex", .text "admin"],
      [.text "erin", .text "globex", .text "member"]] := by decide +kernel
  have hrows' : otherSample.rows users.name = [[.text "root", .text "_", .text "admin"],
      [.text "bob", .text "acme", .text "admin"], [.text "alice", .text "acme", .text "member"],
      [.text "carol", .text "acme", .text "member"], [.text "zoe", .text "globex", .text "admin"]] := by
    decide +kernel
  intro u role
  unfold HasUser
  rw [hrows, hrows']
  simp

theorem sameDocuments_otherSample : SameDocuments "alice" "acme" sampleDatabase otherSample := by
  have hgrants : sampleDatabase.rows documentUserRoles.name = [[.int 1, .text "bob", .text "owner"],
      [.int 3, .text "dave", .text "owner"], [.int 3, .text "alice", .text "viewer"]] := by decide +kernel
  have hgrants' : otherSample.rows documentUserRoles.name = [[.int 1, .text "carol", .text "owner"],
      [.int 3, .text "zoe", .text "owner"], [.int 3, .text "alice", .text "viewer"],
      [.int 4, .text "zoe", .text "editor"]] := by decide +kernel
  have hdocuments : sampleDatabase.rows documents.name = [[.int 1, .text "acme", .text "Acme plan", .int 0],
      [.int 2, .text "acme", .text "Acme handbook", .int 1],
      [.int 3, .text "globex", .text "Globex memo", .int 0]] := by decide +kernel
  have hdocuments' : otherSample.rows documents.name = [[.int 1, .text "acme", .text "Acme plan", .int 0],
      [.int 2, .text "acme", .text "Acme handbook", .int 1], [.int 3, .text "globex", .text "Globex memo", .int 0],
      [.int 4, .text "initech", .text "Initech report", .int 0]] := by decide +kernel
  have hsame : ∀ d role, HasGrant sampleDatabase d "alice" role ↔ HasGrant otherSample d "alice" role := by
    intro d role
    unfold HasGrant
    rw [hgrants, hgrants']
    simp
  refine ⟨hsame, ?_⟩
  intro d o t isPublic
  unfold ShowsDocument
  simp only [hsame]
  unfold HasDocument HasGrant
  rw [hdocuments, hdocuments', hgrants']
  cases isPublic with
  | true => simp
  | false =>
    simp only [Bool.false_eq_true, if_false, List.mem_cons, List.cons.injEq, Value.int.injEq, Value.text.injEq,
      and_true, zero_ne_one, and_false, List.not_mem_nil, or_false, false_or, String.reduceEq, false_and, true_and,
      or_self, exists_eq_right, and_congr_left_iff]
    grind

/-- Alice is a member of acme and nothing else, whatever there is outside it. -/
theorem isTenant_alice : IsTenant sampleDatabase "alice" "acme" "member" ∧
    IsTenant otherSample "alice" "acme" "member" :=
  ⟨⟨Deed.sampleDatabase_meets, Deed.sampleDatabase_isConsistent, by decide +kernel, by decide +kernel⟩,
    ⟨by decide +kernel, by decide +kernel, by decide +kernel, by decide +kernel⟩⟩

/-- Alice is listed the same users and documents on the sample and on one that differs from it outside acme. -/
theorem listings_confined_alice : sampleDatabase ≠ otherSample ∧
    SameUsers "acme" sampleDatabase otherSample ∧ SameDocuments "alice" "acme" sampleDatabase otherSample ∧
      (listUsers (requestOf (.text "alice")) registeredSample).1 =
        (listUsers (requestOf (.text "alice")) { disk := otherSample, globals := { registry } }).1 ∧
      (listDocuments (requestOf (.text "alice")) registeredSample).1 =
        (listDocuments (requestOf (.text "alice")) { disk := otherSample, globals := { registry } }).1 := by
  have hregistered : ∀ m ∈ mappings, registeredSample.globals.registry.lookup m.type = .ok m := by decide +kernel
  have hconfined := @listings_confined (requestOf (.text "alice")) registeredSample
    { disk := otherSample, globals := { registry } } sampleDatabase otherSample "alice" "acme" "member" .sqlite true
    none (Names.text "alice") rfl hregistered rfl ⟨rfl, rfl⟩ ⟨rfl, rfl⟩ isTenant_alice.1 isTenant_alice.2
  exact ⟨by decide +kernel, sameUsers_otherSample, sameDocuments_otherSample,
    hconfined.1 sameUsers_otherSample, hconfined.2 sameDocuments_otherSample⟩

end RowGuard.Records
