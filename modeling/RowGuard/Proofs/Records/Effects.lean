import RowGuard.Proofs.Records.RoleEdits

/-!
# What services make of the tables

A call that has answered was allowed by the tables as they were seen, and has made of them what its service says,
and nothing else (`Service.performs`): one case for each service. Whatever is to be said about the services' writes
follows from these cases.
-/

namespace RowGuard.Records

open Scope

/-- The call only reads. -/
def Service.Reads : Service → Prop
  | listUsers | listDocuments | organizationsToManage => True
  | _ => False

/-- What a call of a service, with its answer, makes of the tables, and who may have it made. What is allowed on
documents is said where references are consistent: roles are held on documents that there are. -/
inductive Service.Performs (s : Subject) (user : String) (db : Database) : Service → Reply → Database → Prop
  | failed {v : Service} {reason : String} : Performs s user db v (.reported (.failed reason)) db
  | read {v : Service} {reply : Reply} (hreads : v.Reads) : Performs s user db v reply db
  | createUser {username org role : String} {made : Database}
      (hallowed : (Deed.createUser org).Allowed db user) (hrole : role ∈ organizationRoles)
      (husers : ∀ u o r, HasUser made u o r ↔ HasUser db u o r ∨ u = username ∧ o = org ∧ r = role)
      (hsame : Untouched [organizations, documents, documentUserRoles] db made) :
      Performs s user db (.createUser username org role) (.reported (.done (.text username))) made
  | deleteUser {username : String} {made : Database}
      (hallowed : (Deed.deleteUser username).Allowed db user) (hother : s.id = .text user → username ≠ user)
      (husers : ∀ u o r, HasUser made u o r ↔ HasUser db u o r ∧ u ≠ username)
      (hgrants : ∀ d u r, HasGrant made d u r ↔ HasGrant db d u r ∧ u ≠ username)
      (hsame : Untouched [organizations, documents] db made) :
      Performs s user db (.deleteUser username) .done made
  | editRoles {updates : List (String × String)} {made : Database} (hsome : updates ≠ [])
      (hallowed : ∀ entry ∈ updates, (Deed.editRole entry.1).Allowed db user ∧ entry.1 ≠ user)
      (hroles : ∀ entry ∈ updates, entry.2 ∈ organizationRoles)
      (husers : ∀ u o r, HasUser made u o r ↔
        (u, r) ∈ updates ∧ IsMember db u o ∨ HasUser db u o r ∧ ∀ r', (u, r') ∉ updates)
      (hsame : Untouched [organizations, documents, documentUserRoles] db made) :
      Performs s user db (.editRoles updates) (.count updates.length) made
  | createOrganization {name : String} {made : Database}
      (hallowed : Deed.createOrganization.Allowed db user) (hname : name ≠ globalOrg)
      (horganizations : ∀ org, HasOrganization made org ↔ HasOrganization db org ∨ org = name)
      (hsame : Untouched [users, documents, documentUserRoles] db made) :
      Performs s user db (.createOrganization name) (.reported (.done (.text name))) made
  | createDocument {org title : String} {id : Int} {made : Database}
      (hallowed : (Deed.createDocument org).Allowed db user) (hfresh : ∀ o t p, ¬HasDocument db id o t p)
      (hdocuments : ∀ d o t p, HasDocument made d o t p ↔
        HasDocument db d o t p ∨ d = id ∧ o = org ∧ t = title ∧ p = false)
      (hgrants : ∀ d u r, HasGrant made d u r ↔ HasGrant db d u r ∨ d = id ∧ u = user ∧ r = "owner")
      (hsame : Untouched [organizations, users] db made) :
      Performs s user db (.createDocument org title) (.reported (.done (.int id))) made
  | setDocumentPublic {id : Int} {isPublic : Bool} {made : Database}
      (hallowed : db.isConsistent = true → (Deed.setPublic id).Allowed db user)
      (hdocuments : ∀ d o t p, HasDocument made d o t p ↔
        d ≠ id ∧ HasDocument db d o t p ∨ d = id ∧ p = isPublic ∧ ∃ p', HasDocument db d o t p')
      (hsame : Untouched [organizations, users, documentUserRoles] db made) :
      Performs s user db (.setDocumentPublic id isPublic) .done made
  | shareDocument {id : Int} {username role : String} {made : Database}
      (hallowed : db.isConsistent = true → (Deed.manageShare id).Allowed db user) (hrole : role ∈ documentRoles)
      (hgrants : ∀ d u r, HasGrant made d u r ↔
        HasGrant db d u r ∧ ¬(d = id ∧ u = username) ∨ d = id ∧ u = username ∧ r = role)
      (hsame : Untouched [organizations, users, documents] db made) :
      Performs s user db (.shareDocument id username role) (.reported (.done (.text role))) made
  | deleteDocument {id : Int} {made : Database}
      (hallowed : db.isConsistent = true → (Deed.deleteDocument id).Allowed db user)
      (hdocuments : ∀ d o t p, HasDocument made d o t p ↔ HasDocument db d o t p ∧ d ≠ id)
      (hgrants : ∀ d u r, HasGrant made d u r ↔ HasGrant db d u r ∧ d ≠ id)
      (hsame : Untouched [organizations, users] db made) :
      Performs s user db (.deleteDocument id) .done made

/-! ## Guarded mutations -/

section Mutations

variable {c : Context} {sys : System} {user : String} {dialect : Dialect} {hasEngine : Bool}
  {config : Option Config} {α : Type} {mutation : Sys α} {a : α} {made : Database}

/-- A mutation that was carried out was allowed by what was seen, and has run on that. -/
theorem exists_run_of_mutates (he : c.evaluator = (evaluator dialect hasEngine config).toEvaluator)
    (hs : Names c.subject user) (h : (c.bind.view sys).Meets schemas) (d : Deed)
    (hmutates : c.Mutates sys d.action d.resource mutation a made) :
    ((d.type = "Document" → (c.bind.view sys).isConsistent = true) → d.Allowed (c.bind.view sys) user) ∧
      ∃ checked mutated, checked.seen = c.bind.view sys ∧ mutation checked = (.ok a, mutated) ∧
        mutated.seen = made := by
  obtain ⟨start, hbegins, hcarries⟩ := hmutates
  cases hcarries with
  | @intro answer _ checked mutated hasked hallowed hseen hstays hmutated =>
    rw [← hbegins.seen_eq] at h ⊢
    refine ⟨fun hrefs => ?_, checked, mutated, hseen, hmutated, rfl⟩
    rw [he] at hasked
    obtain ⟨b, checked', hcheck, hanswer⟩ := Sys.bind_eq_ok hasked
    obtain ⟨hvalue, rfl⟩ := Prod.mk.inj hanswer
    obtain rfl := Except.ok.inj hvalue
    obtain rfl : b = true := by
      cases b with
      | true => rfl
      | false => exact absurd hallowed (by decide)
    exact Deed.allowed_of_check hs h hrefs hcheck

end Mutations

/-! ## Mutations of several statements -/

section Several

variable {sys sys' : System} {s : Subject} {user : String} {made : Database}

/-- A document is added under a new number, and its owner with it. -/
theorem insertDocument_run (h : sys.seen.Meets schemas) (hs : Names s user) {org title : String} {answer : Data}
    (hrun : insertDocument (.text org) (.text title) s.id sys = (.ok answer, sys')) :
    ∃ id, answer = .int id ∧ sys'.seen.Meets schemas ∧ (∀ o t p, ¬HasDocument sys.seen id o t p) ∧
      (∀ d o t p, HasDocument sys'.seen d o t p ↔
        HasDocument sys.seen d o t p ∨ d = id ∧ o = org ∧ t = title ∧ p = false) ∧
      (∀ d u r, HasGrant sys'.seen d u r ↔ HasGrant sys.seen d u r ∨ d = id ∧ u = user ∧ r = "owner") ∧
      Untouched [organizations, users] sys.seen sys'.seen := by
  obtain ⟨stored, sys₁, hdocument, hrun⟩ := Sys.bind_eq_ok hrun
  obtain ⟨_, sys₂, hgrant, hrun⟩ := Sys.bind_eq_ok hrun
  obtain ⟨hanswer, rfl⟩ := Prod.mk.inj hrun
  obtain ⟨id, rfl, hadded⟩ := run_insertDocument h (Sys.run_of_execute hdocument)
  have hgranted := Sys.run_of_execute hgrant
  have hfits := List.all_eq_true.mp (Link.Statement.bound_run_eq_ok hgranted).2 _ List.mem_cons_self
  obtain ⟨hmeets, hfresh, hdocuments, hsame⟩ := hadded hfits
  obtain ⟨hmeets', hgrants, hsame'⟩ := run_insertGrant hmeets hs (by decide) hgranted
  refine ⟨id, (Except.ok.inj hanswer).symm, hmeets', hfresh, ?_, ?_, ?_⟩
  · intro d o t p
    exact (hsame'.hasDocument_iff (by decide)).trans (hdocuments d o t p)
  · intro d u r
    rw [hgrants, hsame.hasGrant_iff (by decide)]
  · exact (hsame.mono (by decide)).trans (hsame'.mono (by decide))

/-- A role on a document is put in the place of the one there was. -/
theorem replaceGrant_run (h : sys.seen.Meets schemas) {id : Int} {username role : String}
    (hrole : role ∈ documentRoles)
    (hrun : replaceGrant (.int id) (.text username) (.text role) sys = (.ok (), sys')) :
    sys'.seen.Meets schemas ∧
      (∀ d u r, HasGrant sys'.seen d u r ↔
        HasGrant sys.seen d u r ∧ ¬(d = id ∧ u = username) ∨ d = id ∧ u = username ∧ r = role) ∧
      Untouched [organizations, users, documents] sys.seen sys'.seen := by
  obtain ⟨_, sys₁, hdelete, hinsert⟩ := Sys.bind_eq_ok hrun
  obtain ⟨hmeets, hkept, hsame⟩ := run_deleteGrants h (Sys.run_of_execute hdelete)
  obtain ⟨hmeets', hadded, hsame'⟩ :=
    run_insertGrant hmeets (Names.text username) hrole (Sys.run_of_execute hinsert)
  have hpasses : ∀ d u r, Assignments.hold documentUserRoles
      [("document_id", .int id), ("username", .text username)] [.int d, .text u, .text r] =
      (decide (d = id) && (decide (u = username) && true)) := fun _ _ _ => rfl
  refine ⟨hmeets', ?_, hsame.trans hsame'⟩
  intro d u r
  rw [hadded, hkept, hpasses]
  simp [not_and]

/-- A document is removed with all roles on it. -/
theorem removeDocument_run (h : sys.seen.Meets schemas) {id : Int}
    (hrun : removeDocument (.int id) sys = (.ok (), sys')) :
    sys'.seen.Meets schemas ∧
      (∀ d o t p, HasDocument sys'.seen d o t p ↔ HasDocument sys.seen d o t p ∧ d ≠ id) ∧
      (∀ d u r, HasGrant sys'.seen d u r ↔ HasGrant sys.seen d u r ∧ d ≠ id) ∧
      Untouched [organizations, users] sys.seen sys'.seen := by
  obtain ⟨_, sys₁, hgrants, hrun⟩ := Sys.bind_eq_ok hrun
  obtain ⟨_, sys₂, hdocument, hrun⟩ := Sys.bind_eq_ok hrun
  obtain ⟨_, rfl⟩ := Prod.mk.inj hrun
  obtain ⟨hmeets, hkept, hsame⟩ := run_deleteGrants h (Sys.run_of_execute hgrants)
  obtain ⟨hmeets', hdocuments, hkept', hsame'⟩ := run_deleteDocument hmeets (Sys.run_of_execute hdocument)
  have hpasses : ∀ d u r, Assignments.hold documentUserRoles [("document_id", .int id)]
      [.int d, .text u, .text r] = (decide (d = id) && true) := fun _ _ _ => rfl
  refine ⟨hmeets', ?_, ?_, (hsame.mono (by decide)).trans hsame'⟩
  · intro d o t p
    rw [hdocuments, hsame.hasDocument_iff (by decide)]
  · intro d u r
    rw [hkept', hkept, hpasses]
    simp only [Bool.and_true, decide_eq_false_iff_not, and_assoc]
    refine and_congr_right fun _ => ⟨fun hboth => hboth.1, fun hne => ⟨hne, fun heq => absurd heq hne⟩⟩

end Several

/-! ## What each service makes -/

namespace Service

variable {c : Context} {sys : System} {user : String} {dialect : Dialect} {hasEngine : Bool}
  {config : Option Config} {made : Database} {v : Service} {reply : Reply}

/-- A name that differs from the requester's identity is not the requester's, if that is a text. -/
theorem ne_of_same_eq_false {s : Subject} {username : String} (h : Data.same (.text username) s.id = false)
    (hid : s.id = .text user) : username ≠ user := by
  rintro rfl
  rw [hid, Data.same_self] at h
  simp at h

/-- What a call that has answered makes of the tables. -/
theorem performs (hs : Names c.subject user) (he : c.evaluator = (evaluator dialect hasEngine config).toEvaluator)
    (hregistered : sys.globals.registry.lookup (.text "User") = .ok userMapping)
    (h : (c.bind.view sys).Meets schemas) (heffect : v.Effect c sys reply made) :
    made.Meets schemas ∧ v.Performs c.subject user (c.bind.view sys) reply made := by
  cases heffect with
  | failed => exact ⟨h, .failed⟩
  | createUser hrole hmutates =>
    obtain ⟨hallowed, checked, mutated, hseen, hrun, rfl⟩ :=
      exists_run_of_mutates he hs h (.createUser _) hmutates
    have hmade := Sys.run_of_execute hrun
    rw [hseen] at hmade
    obtain ⟨hmeets, husers, hsame⟩ := run_insertUser h hrole hmade
    exact ⟨hmeets, .createUser (hallowed (by simp [Deed.type])) hrole husers hsame⟩
  | deleteUser hother hmutates =>
    obtain ⟨hallowed, checked, mutated, hseen, hrun, rfl⟩ :=
      exists_run_of_mutates he hs h (.deleteUser _) hmutates
    obtain ⟨_, sys₁, hdelete, hrun⟩ := Sys.bind_eq_ok hrun
    obtain ⟨_, rfl⟩ := Prod.mk.inj hrun
    have hmade := Sys.run_of_execute hdelete
    rw [hseen] at hmade
    obtain ⟨hmeets, husers, hgrants, hsame⟩ := run_deleteUser h hmade
    have hdeed := hallowed (by simp [Deed.type])
    obtain ⟨org, hmember, _⟩ := id hdeed
    refine ⟨hmeets, .deleteUser hdeed (ne_of_same_eq_false hother) husers ?_ hsame⟩
    -- whom the roles are taken from is a user that there is
    intro d u r
    rw [hgrants]
    refine and_congr_right fun _ => ⟨fun hkept heq => hkept heq org hmember, fun hne heq => absurd heq hne⟩
  | @editRoles updates b _ hroles hplan hrun =>
    obtain ⟨planned, hplanned⟩ : ∃ planned, Batch.planUpdate c.evaluator c.config c.subject
        (roleEdit (updatesData updates)) sys = (.ok b, planned) := ⟨_, Prod.ext hplan rfl⟩
    rw [he] at hplanned
    obtain ⟨hlookup, hsome, hchange, given, condition, hcompiled⟩ := Batch.compiled_of_planUpdate hplanned
    -- the subject's name is a text, and the batch leaves out that name
    have hsubject := subject_of_planned hs rfl rfl hplanned
    have hmapping : b.mapping = userMapping := Except.ok.inj (hlookup.symm.trans hregistered)
    have hbatch := Batch.planned_of_planUpdate hplanned
    rw [hsubject] at hbatch hcompiled
    have hedits := editsRoles_of_planned hbatch hmapping hchange
    obtain ⟨hmeets, hallowed, husers, hsame⟩ := run_editRoles h hedits hcompiled hroles hrun
    have hcount : b.targets.length = updates.length := by rw [hedits.targets, List.length_map]
    rw [hcount]
    refine ⟨hmeets, .editRoles ?_ hallowed hroles husers hsame⟩
    rintro rfl
    exact hsome rfl
  | createOrganization hname hmutates =>
    obtain ⟨hallowed, checked, mutated, hseen, hrun, rfl⟩ :=
      exists_run_of_mutates he hs h .createOrganization hmutates
    have hmade := Sys.run_of_execute hrun
    rw [hseen] at hmade
    obtain ⟨hmeets, horganizations, hsame⟩ := run_insertOrganization h hmade
    exact ⟨hmeets, .createOrganization (hallowed (by simp [Deed.type, globalType])) hname horganizations hsame⟩
  | createDocument hmutates =>
    obtain ⟨hallowed, checked, mutated, hseen, hrun, rfl⟩ :=
      exists_run_of_mutates he hs h (.createDocument _) hmutates
    rw [← hseen] at h ⊢
    obtain ⟨id, rfl, hmeets, hfresh, hdocuments, hgrants, hsame⟩ := insertDocument_run h hs hrun
    rw [hseen] at hfresh hdocuments hgrants hsame ⊢
    exact ⟨hmeets, .createDocument (hallowed (by simp [Deed.type])) hfresh hdocuments hgrants hsame⟩
  | setDocumentPublic hmutates =>
    obtain ⟨hallowed, checked, mutated, hseen, hrun, rfl⟩ :=
      exists_run_of_mutates he hs h (.setPublic _) hmutates
    obtain ⟨_, sys₁, hupdate, hrun⟩ := Sys.bind_eq_ok hrun
    obtain ⟨_, rfl⟩ := Prod.mk.inj hrun
    have hmade := Sys.run_of_execute hupdate
    rw [hseen] at hmade
    obtain ⟨hmeets, hdocuments, hsame⟩ := run_publish h hmade
    exact ⟨hmeets, .setDocumentPublic (fun hrefs => hallowed fun _ => hrefs) hdocuments hsame⟩
  | shareDocument hrole hmutates =>
    obtain ⟨hallowed, checked, mutated, hseen, hrun, rfl⟩ :=
      exists_run_of_mutates he hs h (.manageShare _) hmutates
    rw [← hseen] at h
    obtain ⟨hmeets, hgrants, hsame⟩ := replaceGrant_run h hrole hrun
    rw [hseen] at hgrants hsame
    exact ⟨hmeets, .shareDocument (fun hrefs => hallowed fun _ => hrefs) hrole hgrants hsame⟩
  | deleteDocument hmutates =>
    obtain ⟨hallowed, checked, mutated, hseen, hrun, rfl⟩ :=
      exists_run_of_mutates he hs h (.deleteDocument _) hmutates
    rw [← hseen] at h
    obtain ⟨hmeets, hdocuments, hgrants, hsame⟩ := removeDocument_run h hrun
    rw [hseen] at hdocuments hgrants hsame
    exact ⟨hmeets, .deleteDocument (fun hrefs => hallowed fun _ => hrefs) hdocuments hgrants hsame⟩
  | listUsers => exact ⟨h, .read trivial⟩
  | listDocuments => exact ⟨h, .read trivial⟩
  | organizationsToManage => exact ⟨h, .read trivial⟩

end Service

/-- Requests of a user, answered by the application's evaluator through an engine. -/
def requestOf (id : Data) : Context :=
  { subject := ⟨.text "User", id⟩
    evaluator := (evaluator .sqlite true none).toEvaluator
    bind := .engine true }

end RowGuard.Records
