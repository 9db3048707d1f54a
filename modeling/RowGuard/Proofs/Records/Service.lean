import RowGuard.Proofs.Guarded.Served
import RowGuard.Records.Documents
import RowGuard.Records.Organizations
import RowGuard.Records.Users

/-!
# Calls of records services

A call of a service is data (`Records.Service`). One that writes makes one guarded call, a mutation or a batch;
what it makes of the database seen through its bind is what that call makes of it (`Records.Service.Effect`),
and if it fails, or reports a failure, it makes nothing of it (`Records.Service.served_run`).
-/

namespace RowGuard

open Sys Scope

namespace Records

/-- A call of a service, with the values it was given. -/
inductive Service where
  | createUser (username org role : String)
  | deleteUser (username : String)
  | editRoles (updates : List (String × String))
  | createOrganization (name : String)
  | createDocument (org title : String)
  | setDocumentPublic (id : Int) (isPublic : Bool)
  | shareDocument (id : Int) (username role : String)
  | deleteDocument (id : Int)
  | listUsers
  | listDocuments
  | organizationsToManage

/-- What a service answers. -/
inductive Reply where
  | reported (outcome : Outcome)
  | done
  | count (n : Nat)
  | rows (listing : Listing)
  | names (names : List Data)

namespace Service

/-- Updates as the service is given them. -/
def updatesData (updates : List (String × String)) : List (String × Data) :=
  updates.map fun (name, role) => (name, .text role)

/-- Carries out the call. -/
def run (v : Service) (c : Context) : Sys Reply :=
  match v with
  | createUser username org role => .reported <$> Records.createUser c (.text username) (.text org) (.text role)
  | deleteUser username => (fun _ => .done) <$> Records.deleteUser c (.text username)
  | editRoles updates => .count <$> Records.editRoles c (updatesData updates)
  | createOrganization name => .reported <$> Records.createOrganization c (.text name)
  | createDocument org title => .reported <$> Records.createDocument c (.text org) (.text title)
  | setDocumentPublic id isPublic =>
    (fun _ => .done) <$> Records.setDocumentPublic c (.int id) (.bool isPublic)
  | shareDocument id username role =>
    .reported <$> Records.shareDocument c (.int id) (.text username) (.text role)
  | deleteDocument id => (fun _ => .done) <$> Records.deleteDocument c (.int id)
  | listUsers => .rows <$> Records.listUsers c
  | listDocuments => .rows <$> Records.listDocuments c
  | organizationsToManage => .names <$> Records.organizationsToManage c

end Service

/-- The service's mutation, allowed and carried out in a transaction or savepoint that is begun for it, makes the
database. -/
def Context.Mutates {α : Type} (c : Context) (sys : System) (action : String) (r : Resource) (mutation : Sys α)
    (a : α) (made : Database) : Prop :=
  ∃ start, Begins (Mutation.Request.operation ⟨.text action, r⟩) sys c.bind start ∧
    Mutation.Carries c.evaluator c.subject ⟨.text action, r⟩ mutation start a made

/-- What asks for new roles as a batch. -/
def roleEdit (updates : List (String × Data)) : Batch.Request where
  action := .text "edit_role"
  type := .text "User"
  targets := updates.map fun (name, role) => ⟨.text name, [("role", role)]⟩
  excludeSelf := true

/-- What a call that has answered has made of the database seen through its bind. -/
inductive Service.Effect (c : Context) (sys : System) : Service → Reply → Database → Prop
  | failed {v : Service} {reason : String} : Effect c sys v (.reported (.failed reason)) (c.bind.view sys)
  | createUser {username org role : String} {made : Database} (hrole : role ∈ organizationRoles)
      (h : c.Mutates sys "create_user" (organizationResource (.text org))
        (insertUser (.text username) (.text org) (.text role)) () made) :
      Effect c sys (.createUser username org role) (.reported (.done (.text username))) made
  | deleteUser {username : String} {made : Database}
      (hother : Data.same (.text username) c.subject.id = false)
      (h : c.Mutates sys "delete" (userResource (.text username)) (removeUser (.text username)) () made) :
      Effect c sys (.deleteUser username) .done made
  | editRoles {updates : List (String × String)} {b : Batch} {made : Database}
      (hroles : ∀ entry ∈ updates, entry.2 ∈ organizationRoles)
      (hplan : (Batch.planUpdate c.evaluator c.config c.subject
        (roleEdit (Service.updatesData updates)) sys).1 = .ok b)
      (hrun : b.statement.run (c.bind.view sys) = .ok (b.targets.length, made)) :
      Effect c sys (.editRoles updates) (.count b.targets.length) made
  | createOrganization {name : String} {made : Database} (hname : name ≠ globalOrg)
      (h : c.Mutates sys "create_org" Resource.global (insertOrganization (.text name)) () made) :
      Effect c sys (.createOrganization name) (.reported (.done (.text name))) made
  | createDocument {org title : String} {id : Data} {made : Database}
      (h : c.Mutates sys "create_document" (organizationResource (.text org))
        (insertDocument (.text org) (.text title) c.subject.id) id made) :
      Effect c sys (.createDocument org title) (.reported (.done id)) made
  | setDocumentPublic {id : Int} {isPublic : Bool} {made : Database}
      (h : c.Mutates sys "set_public" (documentResource (.int id))
        (do let _ ← Sys.execute (.update documents [("id", .int id)] [("public", .bool isPublic)])) () made) :
      Effect c sys (.setDocumentPublic id isPublic) .done made
  | shareDocument {id : Int} {username role : String} {made : Database} (hrole : role ∈ documentRoles)
      (h : c.Mutates sys "manage_share" (documentResource (.int id))
        (replaceGrant (.int id) (.text username) (.text role)) () made) :
      Effect c sys (.shareDocument id username role) (.reported (.done (.text role))) made
  | deleteDocument {id : Int} {made : Database}
      (h : c.Mutates sys "delete" (documentResource (.int id)) (removeDocument (.int id)) () made) :
      Effect c sys (.deleteDocument id) .done made
  | listUsers {listing : Listing} : Effect c sys .listUsers (.rows listing) (c.bind.view sys)
  | listDocuments {listing : Listing} : Effect c sys .listDocuments (.rows listing) (c.bind.view sys)
  | organizationsToManage {names : List Data} :
      Effect c sys .organizationsToManage (.names names) (c.bind.view sys)

/-! ## Mutations are contained -/

theorem contained_insertUser (username org role : Data) : Contained (insertUser username org role) :=
  Contained.execute _

theorem contained_removeUser (username : Data) : Contained (removeUser username) :=
  (Contained.execute _).bind fun _ => Contained.pure ()

theorem contained_insertOrganization (name : Data) : Contained (insertOrganization name) :=
  Contained.execute _

theorem contained_insertGrant (document username role : Data) :
    Contained (insertGrant document username role) :=
  Contained.execute _

theorem contained_insertDocument (org title owner : Data) : Contained (insertDocument org title owner) := by
  refine (Contained.execute _).bind ?_
  intro stored
  exact (contained_insertGrant _ _ _).bind fun _ => Contained.pure _

theorem contained_replaceGrant (document username role : Data) :
    Contained (replaceGrant document username role) :=
  (Contained.execute _).bind fun _ => contained_insertGrant _ _ _

theorem contained_removeDocument (id : Data) : Contained (removeDocument id) := by
  refine (Contained.execute _).bind ?_
  intro _
  exact (Contained.execute _).bind fun _ => Contained.pure ()

/-! ## How services report -/

section Reporting

variable {α : Type} {c : Context} {sys : System} {channel : Channel} {refusal failure : String}

theorem aside_report (channel : Channel) (refusal failure : String) (f : Fault) :
    Aside (match f with
      | .denied _ => return .failed refusal
      | other =>
        if other.isAuthz then do
          Sys.log .warning channel (failure ++ " failed: " ++ other.message)
          return .failed other.message
        else throw other : Sys Outcome) := by
  cases f with
  | denied d => exact Aside.pure _
  | _ =>
    dsimp only
    split
    case isTrue => exact (Aside.log _ _ _).bind fun _ => Aside.pure _
    case isFalse => exact Aside.throw _

/-- A service that reports its faults has changed nothing when it does. -/
theorem served_reporting {makes : Outcome → Database → Prop} {service : Sys Outcome}
    (h : System.Served c.bind makes sys (service sys).1 (service sys).2)
    (hfailed : ∀ reason, makes (.failed reason) (c.bind.view sys)) :
    System.Served c.bind makes sys (reporting channel refusal failure service sys).1
      (reporting channel refusal failure service sys).2 := by
  refine h.handling (aside_report channel refusal failure) ?_
  intro f sys₁ a ha
  have hreason : ∃ reason, a = .failed reason := by
    cases f with
    | denied d => exact ⟨_, (Except.ok.inj ha).symm⟩
    | _ =>
      dsimp only at ha
      split at ha
      case isTrue => exact ⟨_, (Except.ok.inj ha).symm⟩
      case isFalse => simp at ha
  obtain ⟨reason, rfl⟩ := hreason
  exact hfailed reason

theorem served_loggingFaults {makes : α → Database → Prop} {service : Sys α}
    (h : System.Served c.bind makes sys (service sys).1 (service sys).2) :
    System.Served c.bind makes sys (loggingFaults channel failure service sys).1
      (loggingFaults channel failure service sys).2 := by
  refine h.handling ?_ ?_
  · intro f
    cases f.isAuthz with
    | false => exact (Aside.pure ()).bind fun _ => Aside.throw f
    | true => exact (Aside.log _ _ _).bind fun _ => Aside.throw f
  · intro f sys₁ a ha
    cases hauthz : f.isAuthz with
    | false => simp [hauthz] at ha
    | true =>
      simp only [hauthz, if_true] at ha
      exact absurd (show Except.error f = Except.ok a from ha) (by simp)

theorem loggingFaults_outcome (service : Sys α) (sys : System) :
    (loggingFaults channel failure service sys).1 = (service sys).1 := by
  unfold loggingFaults Sys.handling
  rcases hservice : service sys with ⟨outcome, sys'⟩
  cases outcome with
  | ok a => rfl
  | error f =>
    cases hauthz : f.isAuthz with
    | false => simp [hauthz]
    | true =>
      simp only [hauthz, if_true]
      rfl

theorem served_mutate (he : c.evaluator.Observes) {mutation : Sys α} (hmutation : Contained mutation)
    (action : String) (r : Resource) :
    System.Served c.bind (c.Mutates sys action r mutation) sys (c.mutate action r mutation sys).1
      (c.mutate action r mutation sys).2 :=
  Mutation.served_guarded he hmutation c.bind c.config c.subject _ sys

/-- A service that mutates, logs that it did and reports a value. -/
theorem served_reported (he : c.evaluator.Observes) {mutation : Sys α} (hmutation : Contained mutation)
    {action : String} {r : Resource} {makes : Outcome → Database → Prop} {message : α → String}
    {value : α → Data} (hfailed : ∀ reason, makes (.failed reason) (c.bind.view sys))
    (hmakes : ∀ a made, c.Mutates sys action r mutation a made → makes (.done (value a)) made)
    (logs : Channel) :
    System.Served c.bind makes sys
      (reporting channel refusal failure (do
        let a ← c.mutate action r mutation
        Sys.log .info logs (message a)
        return .done (value a)) sys).1
      (reporting channel refusal failure (do
        let a ← c.mutate action r mutation
        Sys.log .info logs (message a)
        return .done (value a)) sys).2 := by
  refine served_reporting ?_ hfailed
  refine (served_mutate he hmutation action r).then_aside ?_ ?_ ?_
  · exact fun a => (Aside.log _ _ _).bind fun _ => Aside.pure _
  · intro a sys₁ outcome houtcome db ha
    obtain rfl := Except.ok.inj houtcome
    exact hmakes a db ha
  · intro a sys₁ e he' db _
    exact absurd (show Except.ok (Outcome.done (value a)) = Except.error e from he') (by simp)

end Reporting

/-! ## Calls -/

namespace Service

variable {c : Context} (sys : System)

/-- A call answers with what its function gives. -/
theorem served_reply {α : Type} {v : Service} {reply : α → Reply} {x : Sys α}
    (h : System.Served c.bind (fun a => v.Effect c sys (reply a)) sys (x sys).1 (x sys).2) :
    System.Served c.bind (v.Effect c sys) sys ((reply <$> x) sys).1 ((reply <$> x) sys).2 :=
  h.map fun _ _ hmade => hmade

theorem isOrganizationRole_iff {role : String} : isOrganizationRole (.text role) = true ↔ role ∈ organizationRoles :=
  List.contains_iff_mem

theorem isDocumentRole_iff {role : String} : isDocumentRole (.text role) = true ↔ role ∈ documentRoles :=
  List.contains_iff_mem

/-- Where no role is unknown, all are roles that users have. -/
theorem role_mem_of_unknownRoles {updates : List (String × String)}
    (h : unknownRoles (updatesData updates) = .ok []) : ∀ entry ∈ updates, entry.2 ∈ organizationRoles := by
  unfold unknownRoles at h
  dsimp only at h
  split at h
  case isTrue => simp at h
  case isFalse =>
    have hnone : ((updatesData updates).map (·.2)).filter (fun role => !isOrganizationRole role) = [] := by
      cases hunknown : ((updatesData updates).map (·.2)).filter fun role => !isOrganizationRole role with
      | nil => rfl
      | cons role rest =>
        -- the roles in order would not be none
        unfold Data.sorted? at h
        rw [hunknown, List.eraseDups_cons] at h
        split at h
        case isTrue =>
          have hlength := congrArg List.length (Except.ok.inj h)
          simp at hlength
        case isFalse => simp at h
    intro entry hentry
    have hmem : Data.text entry.2 ∈ (updatesData updates).map (·.2) :=
      List.mem_map.mpr ⟨(entry.1, .text entry.2), List.mem_map.mpr ⟨entry, hentry, rfl⟩, rfl⟩
    have hknown := List.filter_eq_nil_iff.mp hnone _ hmem
    exact isOrganizationRole_iff.mp (by simpa using hknown)

/-- Planning new roles happens aside. -/
theorem served_editRoles (he : c.evaluator.Observes) (updates : List (String × Data)) :
    System.Served c.bind (fun n made => unknownRoles updates = .ok [] ∧ ∃ b : Batch,
        (Batch.planUpdate c.evaluator c.config c.subject (roleEdit updates) sys).1 = .ok b ∧
          n = b.targets.length ∧ b.statement.run (c.bind.view sys) = .ok (b.targets.length, made)) sys
      (Records.editRoles c updates sys).1 (Records.editRoles c updates sys).2 := by
  refine .after_aside (Aside.ofExcept _) ?_
  intro unknown sys₁ hunknown
  obtain ⟨hroles, rfl⟩ := ofExcept_eq_ok hunknown
  split
  case isTrue => exact .of_aside (Aside.throw _) (by simp)
  case isFalse hnone =>
    obtain rfl : unknown = [] := by simpa using hnone
    refine served_loggingFaults ?_
    have hplan := Batch.aside_planUpdate he.answers c.config c.subject (roleEdit updates)
    refine .after_aside hplan ?_
    intro b sys₂ hb
    change Batch.planUpdate c.evaluator c.config c.subject (roleEdit updates) sys₁ = _ at hb
    have hview : c.bind.view sys₂ = c.bind.view sys₁ := by
      have hkept := hplan.kept sys₁
      rw [hb] at hkept
      exact Bind.view_of_kept hkept c.bind
    have hexecuted := Batch.served_execute b c.bind sys₂
    rw [hview] at hexecuted
    refine hexecuted.congr ?_ hexecuted.kept
    intro n hn
    obtain ⟨rfl, hrun⟩ := hexecuted.made n hn
    exact ⟨hroles, b, congrArg Prod.fst hb, rfl, hrun⟩

/-- Compiles the condition on the organizations in which the requester may create users. -/
def compileManaged (c : Context) : Sys Fragment := do
  let m ← Sys.ofExcept ((← get).globals.registry.lookup (.text "Organization"))
  let id ← c.evaluator.compile c.subject (.text "create_user") (.text "Organization") (.text m.columnRef)
  Sys.embedFragment id (some (organizations.name ++ "." ++ Columns.organizationName.name))

theorem aside_compileManaged (he : c.evaluator.OnlyAnswers) : Aside (compileManaged c) := by
  refine Aside.get.bind ?_
  intro sys
  refine (Aside.ofExcept _).bind ?_
  intro m
  exact (he.compile _ _ _ _).bind fun id => Aside.embedFragment _ _

theorem organizationsToManage_eq (c : Context) : Records.organizationsToManage c = (do
    let f ← compileManaged c
    Scope.within c.bind "list create_user organizations" (Scope.execute (organizationNames f))) := by
  simp only [Records.organizationsToManage, compileManaged, bind_assoc]

theorem reads_organizationNames (f : Fragment) : (organizationNames f).Reads := by
  intro db names db' hrun
  unfold organizationNames at hrun
  dsimp only at hrun
  split at hrun
  case h_1 => simp at hrun
  case h_2 =>
    split at hrun
    case isTrue => exact (congrArg Prod.snd (Except.ok.inj hrun)).symm
    case isFalse => simp at hrun

theorem served_organizationsToManage (he : c.evaluator.OnlyAnswers) :
    System.Served c.bind (fun _ made => made = c.bind.view sys) sys (Records.organizationsToManage c sys).1
      (Records.organizationsToManage c sys).2 := by
  have hplan := aside_compileManaged he
  rw [organizationsToManage_eq]
  refine .after_aside hplan ?_
  intro f sys₁ hf
  have hview : c.bind.view sys₁ = c.bind.view sys := by
    have hkept := hplan.kept sys
    rw [hf] at hkept
    exact Bind.view_of_kept hkept c.bind
  rw [← hview]
  exact Scope.served_execute (reads_organizationNames f) c.bind _ sys₁

/-- Through whichever bind, a call that has answered has had its effect on what is seen there, and one that has
raised a fault has had none. -/
theorem served_run (v : Service) (he : c.evaluator.Observes) :
    System.Served c.bind (v.Effect c sys) sys (v.run c sys).1 (v.run c sys).2 := by
  have hfailed : ∀ {v : Service} (reason : String),
      v.Effect c sys (.reported (.failed reason)) (c.bind.view sys) := fun _ => .failed
  cases v with
  | createUser username org role =>
    refine served_reply sys ?_
    unfold Records.createUser
    split
    case isTrue => exact .of_aside (Aside.pure _) fun o ho => by obtain rfl := Except.ok.inj ho; exact .failed
    case isFalse hrole =>
      have hrole' := isOrganizationRole_iff.mp (by simpa using hrole)
      exact served_reported he (contained_insertUser _ _ _) hfailed (fun _ _ h => .createUser hrole' h) .users
  | deleteUser username =>
    refine served_reply sys ?_
    unfold Records.deleteUser
    split
    case isTrue => exact .of_aside (Aside.throw _) (by simp)
    case isFalse hother =>
      refine served_loggingFaults ?_
      have hmutated : System.Served c.bind (c.Mutates sys "delete" (userResource (.text username)) _) sys _ _ :=
        served_mutate he (contained_removeUser (.text username)) "delete" _
      exact hmutated.congr (fun _ h => .deleteUser (by simpa using hother) (hmutated.made () h)) hmutated.kept
  | editRoles updates =>
    refine (served_editRoles sys he _).map ?_
    rintro n made ⟨hroles, b, hplan, rfl, hrun⟩
    exact .editRoles (role_mem_of_unknownRoles hroles) hplan hrun
  | createOrganization name =>
    refine served_reply sys ?_
    unfold Records.createOrganization
    split
    case isTrue => exact .of_aside (Aside.pure _) fun o ho => by obtain rfl := Except.ok.inj ho; exact .failed
    case isFalse hname =>
      have hname' : name ≠ globalOrg := fun heq => hname (congrArg Data.text heq)
      exact served_reported he (contained_insertOrganization _) hfailed
        (fun _ _ h => .createOrganization hname' h) .organizations
  | createDocument org title =>
    refine served_reply sys ?_
    exact served_reported he (contained_insertDocument _ _ _) hfailed (fun _ _ h => .createDocument h)
      .documents
  | setDocumentPublic id isPublic =>
    have hcontained : Contained (do
        let _ ← Sys.execute (.update documents [("id", .int id)] [("public", .bool isPublic)])) :=
      (Contained.execute _).bind fun _ => Contained.pure ()
    exact (served_mutate he hcontained "set_public" (documentResource (.int id))).map
      fun _ _ h => .setDocumentPublic h
  | shareDocument id username role =>
    refine served_reply sys ?_
    unfold Records.shareDocument
    split
    case isTrue => exact .of_aside (Aside.pure _) fun o ho => by obtain rfl := Except.ok.inj ho; exact .failed
    case isFalse hrole =>
      have hrole' := isDocumentRole_iff.mp (by simpa using hrole)
      refine served_reporting ?_ hfailed
      refine (served_mutate he (contained_replaceGrant _ _ _) "manage_share" _).then_aside
        (fun _ => Aside.pure _) ?_ (fun _ _ _ h => by simp at h)
      intro _ _ o ho made h
      obtain rfl := Except.ok.inj ho
      exact .shareDocument hrole' h
  | deleteDocument id =>
    exact (served_mutate he (contained_removeDocument _) "delete" (documentResource (.int id))).map
      fun _ _ h => .deleteDocument h
  | listUsers =>
    refine System.Served.map (served_loggingFaults (Listing.served_list he.answers c.bind c.config c.subject _ sys)) ?_
    rintro listing made rfl
    exact .listUsers
  | listDocuments =>
    refine (Listing.served_list he.answers c.bind c.config c.subject _ sys).map ?_
    rintro listing made rfl
    exact .listDocuments
  | organizationsToManage =>
    refine (served_organizationsToManage sys he.answers).map ?_
    rintro names made rfl
    exact .organizationsToManage

end Service

end Records

end RowGuard
