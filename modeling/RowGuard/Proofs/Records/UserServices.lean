import RowGuard.Proofs.Mutation.Completion
import RowGuard.Proofs.Records.RoleBatches
import RowGuard.Proofs.Records.Tenancy

/-!
# What user services come to

Creating a user, deleting one and giving users new roles succeed exactly if the tables allow it and nothing is wrong
with what was asked for; they have their effect then, and otherwise fail with a fault of the authorization system, or
report a failure, and leave the tables as they were (`Service.user_services_exact`). Mutations of one statement and
batches are each taken through once (`mutate_answersIff`, `editRoles_answersIff`). New roles are tested in a statement
in which the subject's name is written out, so that they fail for a name with a null character, and for a number.
-/

namespace RowGuard.Records

open Scope

variable {c : Context} {sys : System} {user username : String} {hasEngine : Bool} {config : Option Config}
  {updates : List (String × String)}

/-! ## What may be done -/

/-- The limit on batches that applies to a request. -/
def Context.batchLimit (c : Context) (sys : System) : Option Number :=
  (c.config.getD sys.globals.config).maxBatchSize

/-- The user may add another one, whose name is not in use, to an organization that there is. -/
structure MayCreateUser (db : Database) (user username org role : String) : Prop where
  role : role ∈ organizationRoles
  organization : HasOrganization db org
  unused : ∀ o, ¬IsMember db username o
  administrates : IsGlobalAdmin db user ∨ HasUser db user org "admin"

/-- The user may delete another one. -/
structure MayDeleteUser (db : Database) (user username : String) : Prop where
  other : username ≠ user
  administrates : ∃ org, IsMember db username org ∧ (IsGlobalAdmin db user ∨ HasUser db user org "admin")

/-- The batch is valid, and the user may change the role of everybody it names. -/
structure MayEditRoles (limit : Option Number) (db : Database) (user : String) (updates : List (String × String)) :
    Prop where
  valid : IsValidEdit limit updates
  others : ∀ entry ∈ updates, entry.1 ≠ user
  administrates : ∀ entry ∈ updates,
    ∃ org, IsMember db entry.1 org ∧ (IsGlobalAdmin db user ∨ HasUser db user org "admin")

/-! ## Mutations of one statement -/

/-- In a transaction that has just begun, a check answers whether the tables allow the user to do what is asked for. -/
theorem Deed.exists_asked {s : Subject} {d : Deed} {dialect : Dialect} (hs : Names s user)
    (hfits : ∀ n, s.id = .int n → Value.isStorable n = true) (hd : d.IsStorable) (h : sys.disk.Meets schemas)
    (hrefs : sys.disk.isConsistent = true) :
    ∃ b, (Mutation.asked (evaluator dialect hasEngine config).toEvaluator s ⟨.text d.action, d.resource⟩ sys).1 =
        .ok (.bool b) ∧ (b = true ↔ d.Allowed sys.disk user) := by
  obtain ⟨c, hc, htestable, hmeaning⟩ := exists_testable dialect hasEngine config hs d
    ((evaluator dialect hasEngine config).configIn sys)
  have htest := htestable sys.disk _ (facts_askable h) (hs.binds hfits) (binds_literal hd)
  rw [← target_eq] at htest
  have hsees : Bind.connection.Sees (started (Mutation.Request.operation ⟨.text d.action, d.resource⟩) sys)
      sys.disk := ⟨_, rfl, Link.inProgress_begun.usable, rfl⟩
  have hanswer := LocalEvaluator.answer_eq hsees (.inl rfl) hc htest
  refine ⟨_, congrArg Prod.fst (Sys.bind_of_ok (Prod.ext hanswer rfl)), ?_⟩
  rw [target_eq]
  exact (hmeaning _ _ _).trans (holds_iff_allowed h hs.reads_bound (fun _ => hrefs) d.targets_bound)

/-- There is an answer exactly if something holds, and a fault of the authorization system if not. -/
structure AnswersIff {β : Type} (outcome : Except Fault β) (p : Prop) : Prop where
  answers : (∃ b, outcome = .ok b) ↔ p
  refuses : ∀ f, outcome = .error f → f.isAuthz = true

theorem AnswersIff.exists_of_not {β : Type} {outcome : Except Fault β} {p : Prop} (h : AnswersIff outcome p)
    (hnot : ¬p) : ∃ f, outcome = .error f ∧ f.isAuthz = true := by
  cases outcome with
  | ok b => exact absurd (h.answers.mp ⟨b, rfl⟩) hnot
  | error f => exact ⟨f, rfl, h.refuses f rfl⟩

section Reporting

variable {channel : Channel} {refusal failure : String} {α : Type} {p : Prop}

theorem reporting_of_error {service : Sys Outcome} {f : Fault} (h : (service sys).1 = .error f)
    (hf : f.isAuthz = true) : ∃ reason, (reporting channel refusal failure service sys).1 = .ok (.failed reason) := by
  unfold reporting Sys.handling
  rcases hservice : service sys with ⟨outcome, sys'⟩
  rw [hservice] at h
  obtain rfl : outcome = .error f := h
  cases f with
  | denied d => exact ⟨_, rfl⟩
  | _ =>
    dsimp only
    rw [if_pos hf]
    exact ⟨_, rfl⟩

/-- A service that mutates and reports a value does so if the mutation answers, and else reports a failure. -/
theorem reporting_of_answersIff {mutation : Sys α} (h : AnswersIff (mutation sys).1 p) (logs : Channel)
    (message : String) (value : Data) :
    (p → (reporting channel refusal failure (do
        let _ ← mutation
        Sys.log .info logs message
        return .done value) sys).1 = .ok (.done value)) ∧
      (¬p → ∃ reason, (reporting channel refusal failure (do
        let _ ← mutation
        Sys.log .info logs message
        return .done value) sys).1 = .ok (.failed reason)) := by
  rw [← h.answers]
  rcases hmutation : mutation sys with ⟨outcome, sys'⟩
  cases outcome with
  | ok a =>
    refine ⟨fun _ => ?_, fun hnot => absurd ⟨a, rfl⟩ hnot⟩
    unfold reporting Sys.handling
    rw [Sys.bind_of_ok hmutation]
    rfl
  | error f =>
    refine ⟨by simp, fun _ => reporting_of_error ?_ (h.refuses f (congrArg Prod.fst hmutation))⟩
    exact congrArg Prod.fst (Sys.bind_of_error hmutation)

end Reporting

/-- Another name is not the subject's identity. -/
theorem Names.same_eq_false {s : Subject} (hs : Names s user) (hother : username ≠ user) :
    Data.same (.text username) s.id = false := by
  cases hs with
  | text => simpa [Data.same, Data.text, Scalar.same, Scalar.number?, Scalar.moment?] using hother
  | int n => simp [Data.same, Data.text, Data.int, Scalar.same, Scalar.number?]

section Calls

variable (hs : Names c.subject user) (hfits : ∀ n, c.subject.id = .int n → Value.isStorable n = true)
  (he : c.evaluator = (evaluator .sqlite hasEngine config).toEvaluator) (hbind : c.bind = .engine true)
  (hunlocked : sys.others.any Link.isWriting = false) (hread : sys.others.any Link.isReading = false)
  (h : sys.disk.Meets schemas) (hrefs : sys.disk.isConsistent = true)

include hs hfits he hbind hread h hrefs

/-- A mutation of one statement goes through exactly if the tables allow it and the statement runs. -/
theorem mutate_answersIff {α β : Type} {d : Deed} {mutation : Sys β} {st : Link.Statement α} {g : α → β}
    (hmutation : mutation = Sys.execute st >>= fun a => pure (g a)) (hd : d.IsStorable) (hwrites : st.writes = true)
    (hdefers : st.defers = false) (hfails : ∀ db f, st.run db = .error f → f.isSql = true) :
    AnswersIff (c.mutate d.action d.resource mutation sys).1
      (d.Allowed sys.disk user ∧ ∃ o, st.tried sys.others sys.disk = .ok o) := by
  obtain ⟨b, hasked, hallowed⟩ : ∃ b, (Mutation.asked (evaluator .sqlite hasEngine config).toEvaluator c.subject
      ⟨.text d.action, d.resource⟩ { sys with lent := sys.others }).1 = .ok (.bool b) ∧
      (b = true ↔ d.Allowed sys.disk user) := Deed.exists_asked hs hfits hd h hrefs
  obtain ⟨outcome, sys', hrun, hcases⟩ := Mutation.guarded_statement (g := g)
    ((LocalEvaluator.onlyAnswers _).check c.subject (.text d.action) d.resource)
    (LocalEvaluator.keeps_looking_check _ c.subject (.text d.action) d.resource) hwrites hdefers c.config hasked hfails
    hread
  have htruthy : (Data.bool b).truthy = true ↔ d.Allowed sys.disk user := by
    rw [← hallowed]
    cases b <;> decide
  unfold Context.mutate
  rw [he, hbind, hmutation, hrun]
  rcases hcases with ⟨a, made, htrue, htried, rfl, _⟩ | ⟨hfailed, ⟨f, rfl, hf⟩, _⟩
  · exact ⟨⟨fun _ => ⟨htruthy.mp htrue, _, htried⟩, fun _ => ⟨_, rfl⟩⟩, by simp⟩
  · refine ⟨⟨by simp, ?_⟩, fun f' hf' => Except.error.inj hf' ▸ hf⟩
    rintro ⟨hmay, o, htried⟩
    obtain ⟨f', hf'⟩ := hfailed (htruthy.mpr hmay)
    rw [htried] at hf'
    simp at hf'

include hunlocked

theorem createUser_outcome (username org role : String) :
    (MayCreateUser sys.disk user username org role →
        (createUser c (.text username) (.text org) (.text role) sys).1 = .ok (.done (.text username))) ∧
      (¬MayCreateUser sys.disk user username org role →
        ∃ reason, (createUser c (.text username) (.text org) (.text role) sys).1 = .ok (.failed reason)) := by
  unfold createUser
  by_cases hrole : role ∈ organizationRoles
  case neg =>
    have hunknown : isOrganizationRole (.text role) = false :=
      Bool.eq_false_iff.mpr fun hknown => hrole (Service.isOrganizationRole_iff.mp hknown)
    rw [hunknown]
    exact ⟨fun hmay => absurd hmay.role hrole, fun _ => ⟨_, rfl⟩⟩
  case pos =>
    have hmay : MayCreateUser sys.disk user username org role ↔ (Deed.createUser org).Allowed sys.disk user ∧
        ∃ o, (userInsertion username org role).tried sys.others sys.disk = .ok o := by
      have htried : (∃ made, (userInsertion username org role).tried sys.others sys.disk = .ok ((), made)) ↔ _ :=
        exists_tried_insertUser_iff h hrefs hrole hunlocked
      constructor
      · rintro ⟨_, horg, hunused, hadmin⟩
        obtain ⟨made, hmade⟩ := htried.mpr ⟨horg, hunused⟩
        exact ⟨hadmin, _, hmade⟩
      · rintro ⟨hadmin, ⟨_, made⟩, hmade⟩
        obtain ⟨horg, hunused⟩ := htried.mp ⟨made, hmade⟩
        exact ⟨hrole, horg, hunused, hadmin⟩
    have hknown : (!isOrganizationRole (.text role)) = false := by
      rw [Service.isOrganizationRole_iff.mpr hrole]
      rfl
    rw [hknown, hmay]
    exact reporting_of_answersIff (mutate_answersIff (d := .createUser org) (g := id) hs hfits he hbind hread h hrefs
      (bind_pure _).symm trivial rfl rfl fun _ _ => Link.Statement.isSql_of_bound_run rfl) _ _ _

theorem deleteUser_answersIff (hself : c.subject.id = .text user ∨ username ≠ user) :
    AnswersIff (deleteUser c (.text username) sys).1 (MayDeleteUser sys.disk user username) := by
  unfold deleteUser
  by_cases hown : username = user
  case pos =>
    subst hown
    rw [hself.resolve_right (by simp), Data.same_self, if_pos rfl]
    exact ⟨⟨by simp, fun hmay => absurd rfl hmay.other⟩, fun f hf => Except.error.inj hf ▸ rfl⟩
  case neg =>
    have hmay : MayDeleteUser sys.disk user username ↔ (Deed.deleteUser username).Allowed sys.disk user ∧
        ∃ o, (userDeletion username).tried sys.others sys.disk = .ok o := by
      obtain ⟨n, made, htried⟩ : ∃ n made, (userDeletion username).tried sys.others sys.disk = .ok (n, made) :=
        exists_tried_deleteUser h hrefs hunlocked
      exact ⟨fun hmay => ⟨hmay.administrates, _, htried⟩, fun hmay => ⟨hown, hmay.1⟩⟩
    rw [hs.same_eq_false hown, if_neg Bool.false_ne_true, loggingFaults_outcome, hmay]
    exact mutate_answersIff (d := .deleteUser username) (g := fun _ => ()) hs hfits he hbind hread h hrefs rfl trivial
      rfl rfl fun _ _ => Link.Statement.isSql_of_bound_run rfl

end Calls

/-! ## New roles -/

/-- A batch whose roles users can have is planned and carried out. -/
theorem editRoles_outcome (hroles : ∀ entry ∈ updates, entry.2 ∈ organizationRoles) :
    (editRoles c (Service.updatesData updates) sys).1 = ((Batch.planUpdate c.evaluator c.config c.subject
      (roleEdit (Service.updatesData updates)) >>= Batch.execute c.bind) sys).1 := by
  obtain ⟨unknown, hunknown, hnone⟩ := exists_unknownRoles updates
  obtain rfl := hnone hroles
  unfold editRoles
  rw [hunknown, Sys.ofExcept_ok, Sys.pure_bind_apply]
  exact loggingFaults_outcome _ _

section Edits

variable (hregistered : sys.globals.registry.lookup (.text "User") = .ok userMapping)
  (hnodup : (updates.map (·.1)).Nodup)

include hregistered hnodup

/-- A batch that is not valid is refused, whoever asks for it. -/
theorem exists_editRoles_of_invalid
    (hinvalid : ¬IsValidEdit (c.batchLimit sys) updates) :
    ∃ f, (editRoles c (Service.updatesData updates) sys).1 = .error f ∧ f.isAuthz = true := by
  by_cases hroles : ∀ entry ∈ updates, entry.2 ∈ organizationRoles
  case neg =>
    obtain ⟨unknown, hunknown, _⟩ := exists_unknownRoles updates
    have hsome : (!unknown.isEmpty) = true := by
      cases unknown with
      | nil => exact absurd (Service.role_mem_of_unknownRoles hunknown) hroles
      | cons role rest => rfl
    unfold editRoles
    rw [hunknown, Sys.ofExcept_ok, Sys.pure_bind_apply, if_pos hsome]
    exact ⟨_, rfl, rfl⟩
  case pos =>
    rw [editRoles_outcome hroles]
    cases hchecked : Batch.checkTargets (c.config.getD sys.globals.config) (updates.map roleTarget) with
    | ok _ => exact absurd ((checkTargets_roleTargets_eq_ok_iff hnodup hroles).mp hchecked) hinvalid
    | error f =>
      refine ⟨f, ?_, Batch.isAuthz_of_checkTargets isKey_roleTargets hchecked⟩
      rw [← roleEdit_targets] at hchecked
      exact congrArg Prod.fst (Sys.bind_of_error (Batch.planUpdate_of_invalid hregistered hchecked))

/-- For a user named by a text, a batch of new roles goes through exactly if all of it is allowed and the name has no
null character. -/
theorem editRoles_answersIff (hs : c.subject = ⟨.text "User", .text user⟩)
    (he : c.evaluator = (evaluator .sqlite hasEngine config).toEvaluator) (hbind : c.bind = .engine true)
    (hunlocked : sys.others.any Link.isWriting = false) (hread : sys.others.any Link.isReading = false)
    (h : sys.disk.Meets schemas) (hrefs : sys.disk.isConsistent = true) :
    AnswersIff (editRoles c (Service.updatesData updates) sys).1 ('\x00' ∉ user.toList ∧
      MayEditRoles (c.batchLimit sys) sys.disk user updates) := by
  by_cases hvalid : IsValidEdit (c.batchLimit sys) updates
  case neg =>
    obtain ⟨f, hf, hauthz⟩ : ∃ f, (editRoles c (Service.updatesData updates) sys).1 = .error f ∧ _ :=
      exists_editRoles_of_invalid hregistered hnodup hvalid
    rw [hf]
    exact ⟨⟨by simp, fun hmay => absurd hmay.2.valid hvalid⟩, fun f' hf' => Except.error.inj hf' ▸ hauthz⟩
  case pos =>
    have hchecked := (checkTargets_roleTargets_eq_ok_iff hnodup hvalid.roles).mpr hvalid
    obtain ⟨b, sys', hplan, hb⟩ :=
      @exists_planned user updates hasEngine config c.config sys hregistered hchecked hvalid.nonempty
    -- planning has left the database and the other connections alone
    have hkept : sys.Kept sys' := by
      have hkept := (Batch.aside_planUpdate (LocalEvaluator.onlyAnswers (evaluator .sqlite hasEngine config)) c.config
        ⟨.text "User", .text user⟩ (roleEdit (Service.updatesData updates))).kept sys
      rwa [hplan] at hkept
    have hothers : sys'.others = sys.others := by
      unfold System.others
      rw [hkept.link, hkept.lent]
    obtain ⟨sys₁, hexecute, _⟩ := Batch.execute_engine_apply b sys'
    rw [editRoles_outcome hvalid.roles, he, hbind, hs, Sys.bind_of_ok hplan, hexecute, hothers, hkept.disk]
    refine ⟨(exists_outcome_iff hb h hrefs hunlocked hread hnodup hvalid.roles).trans (and_congr_right fun _ => ?_),
      fun f hf => isAuthz_of_outcome hb h hf⟩
    exact ⟨fun hmay => ⟨hvalid, fun entry hentry => (hmay entry hentry).2, fun entry hentry => (hmay entry hentry).1⟩,
      fun hmay entry hentry => ⟨hmay.administrates entry hentry, hmay.others entry hentry⟩⟩

end Edits

/-! ## What is stored -/

theorem Names.eq_of_text {s : Subject} (hs : Names s user) (hid : s.id = .text user) :
    s = ⟨.text "User", .text user⟩ := by
  cases hs with
  | text => rfl
  | int => cases hid

namespace Service

/-- The call answers, and makes of the tables what its service says. -/
structure Succeeds (v : Service) (c : Context) (sys : System) (user : String) (reply : Reply) : Prop where
  answered : (v.run c sys).1 = .ok reply
  performed : v.Performs c.subject user sys.disk reply (v.run c sys).2.disk

/-- The call raises a fault, and the tables stay as they were. -/
structure Raises (v : Service) (c : Context) (sys : System) : Prop where
  raised : ∃ f, (v.run c sys).1 = .error f
  unchanged : (v.run c sys).2.disk = sys.disk

/-- The call raises a fault of the authorization system, and the tables stay as they were. -/
structure IsRefused (v : Service) (c : Context) (sys : System) : Prop where
  refused : ∃ f, (v.run c sys).1 = .error f ∧ f.isAuthz = true
  unchanged : (v.run c sys).2.disk = sys.disk

/-- The call reports a failure, and the tables stay as they were. -/
structure ReportsFailure (v : Service) (c : Context) (sys : System) : Prop where
  reported : ∃ reason, (v.run c sys).1 = .ok (.reported (.failed reason))
  unchanged : (v.run c sys).2.disk = sys.disk

section Stored

variable {v : Service} {reply : Reply} {f : Fault} {dialect : Dialect}
  (he : c.evaluator = (evaluator dialect hasEngine config).toEvaluator) (hbind : c.bind = .engine true)

include he hbind

/-- A call that has raised a fault has stored nothing. -/
theorem unchanged_of_error (hrun : (v.run c sys).1 = .error f) : (v.run c sys).2.disk = sys.disk := by
  have hkept := (served_run sys v (he ▸ LocalEvaluator.observes _ : c.evaluator.Observes)).kept f hrun
  rw [hbind] at hkept
  exact hkept

/-- What a call that has answered has stored. -/
theorem performs_of_ok (hs : Names c.subject user)
    (hregistered : sys.globals.registry.lookup (.text "User") = .ok userMapping) (h : sys.disk.Meets schemas)
    (hrun : (v.run c sys).1 = .ok reply) : v.Performs c.subject user sys.disk reply (v.run c sys).2.disk := by
  have hmade := (served_run sys v (he ▸ LocalEvaluator.observes _ : c.evaluator.Observes)).made reply hrun
  have hview : c.bind.view sys = sys.disk := by
    rw [hbind]
    rfl
  have hperforms := (performs hs he hregistered (hview ▸ h) hmade).2
  rw [hbind] at hperforms
  exact hperforms

omit hbind in
/-- New roles are given only by users named by a text. -/
theorem subject_of_editRoles (hs : Names c.subject user) {n : Nat}
    (hrun : (Records.editRoles c (updatesData updates) sys).1 = .ok n) : c.subject = ⟨.text "User", .text user⟩ := by
  have hserved := served_editRoles sys (he ▸ LocalEvaluator.observes _ : c.evaluator.Observes) (updatesData updates)
  obtain ⟨_, b, hplan, _⟩ := hserved.made n hrun
  rw [he] at hplan
  exact subject_of_planned hs rfl rfl (Prod.ext hplan rfl)

theorem isRefused_of_error (hrun : (v.run c sys).1 = .error f) (hf : f.isAuthz = true) : v.IsRefused c sys :=
  ⟨⟨f, hrun, hf⟩, unchanged_of_error he hbind hrun⟩

end Stored

/-! ## The services -/

theorem Performs.eq_of_failed {v : Service} {s : Subject} {db made : Database} {reason : String}
    (h : v.Performs s user db (.reported (.failed reason)) made) : made = db := by
  cases h <;> rfl

theorem Performs.count_eq {s : Subject} {db made : Database} {n : Nat}
    (h : (Service.editRoles updates).Performs s user db (.count n) made) : n = updates.length := by
  cases h with
  | read hreads => exact absurd hreads id
  | editRoles => rfl

/-- Through an engine that nobody else holds, for a user named by a text or by a number of at most 64 bits:

* somebody is created as a user exactly if the role is one that users have, the organization is there, the name is
  not in use and the user administrates the organization; else a failure is reported;
* somebody else is deleted, exactly if the user administrates the organization of that user, and nobody deletes
  themselves;
* new roles are given, for a user named by a text without null characters, exactly if the batch is valid and the user
  administrates the organizations of all it names, and is not named. For a name with a null character every batch is
  refused, and for a number none goes through.

What is answered has had its effect and no other; where nothing is answered but a fault raised, nothing is stored. -/
theorem user_services_exact (hs : Names c.subject user) (hfits : ∀ n, c.subject.id = .int n → Value.isStorable n = true)
    (he : c.evaluator = (evaluator .sqlite hasEngine config).toEvaluator) (hbind : c.bind = .engine true)
    (hunlocked : sys.others.any Link.isWriting = false) (hread : sys.others.any Link.isReading = false)
    (h : sys.disk.Meets schemas) (hrefs : sys.disk.isConsistent = true)
    (hregistered : sys.globals.registry.lookup (.text "User") = .ok userMapping) :
    (∀ username org role,
      (MayCreateUser sys.disk user username org role →
        (createUser username org role).Succeeds c sys user (.reported (.done (.text username)))) ∧
      (¬MayCreateUser sys.disk user username org role → (createUser username org role).ReportsFailure c sys)) ∧
    (∀ username, c.subject.id = .text user ∨ username ≠ user →
      (MayDeleteUser sys.disk user username → (deleteUser username).Succeeds c sys user .done) ∧
      (¬MayDeleteUser sys.disk user username → (deleteUser username).IsRefused c sys)) ∧
    ∀ updates : List (String × String), (updates.map (·.1)).Nodup →
      (c.subject.id = .text user → '\x00' ∉ user.toList →
        (MayEditRoles (c.batchLimit sys) sys.disk user updates →
          (editRoles updates).Succeeds c sys user (.count updates.length)) ∧
        (¬MayEditRoles (c.batchLimit sys) sys.disk user updates → (editRoles updates).IsRefused c sys)) ∧
      (c.subject.id = .text user → '\x00' ∈ user.toList → (editRoles updates).IsRefused c sys) ∧
      (∀ n, c.subject.id = .int n → (editRoles updates).Raises c sys ∧
        (¬IsValidEdit (c.batchLimit sys) updates → (editRoles updates).IsRefused c sys)) := by
  have hperforms : ∀ {v : Service} {reply}, (v.run c sys).1 = .ok reply → v.Succeeds c sys user reply :=
    fun hrun => ⟨hrun, performs_of_ok he hbind hs hregistered h hrun⟩
  have hrefused : ∀ {updates}, (∃ f, (Records.editRoles c (updatesData updates) sys).1 = .error f ∧ f.isAuthz = true) →
      (editRoles updates).IsRefused c sys := by
    rintro updates ⟨f, hf, hauthz⟩
    exact isRefused_of_error he hbind (Sys.map_of_error hf) hauthz
  refine ⟨fun username org role => ?_, fun username hself => ?_, fun updates hnodup => ⟨fun hid hwhole => ?_,
    fun hid hnull => ?_, fun n hid => ⟨?_, fun hinvalid => ?_⟩⟩⟩
  · obtain ⟨hdone, hfailed⟩ := createUser_outcome hs hfits he hbind hunlocked hread h hrefs username org role
    refine ⟨fun hmay => hperforms ?_, fun hnot => ?_⟩
    · exact Sys.map_of_ok (hdone hmay)
    · obtain ⟨reason, hreason⟩ := hfailed hnot
      have hrun : ((createUser username org role).run c sys).1 = .ok (.reported (.failed reason)) :=
        Sys.map_of_ok hreason
      exact ⟨⟨reason, hrun⟩, (hperforms hrun).performed.eq_of_failed⟩
  · have hiff := deleteUser_answersIff hs hfits he hbind hunlocked hread h hrefs hself
    refine ⟨fun hmay => hperforms ?_, fun hnot => ?_⟩
    · obtain ⟨_, hdone⟩ := hiff.answers.mpr hmay
      exact Sys.map_of_ok hdone
    · obtain ⟨f, hf, hauthz⟩ := hiff.exists_of_not hnot
      exact isRefused_of_error he hbind (Sys.map_of_error hf) hauthz
  · have hiff := editRoles_answersIff hregistered hnodup (hs.eq_of_text hid) he hbind hunlocked hread h hrefs
    refine ⟨fun hmay => ?_, fun hnot => hrefused (hiff.exists_of_not fun hboth => hnot hboth.2)⟩
    obtain ⟨n, hn⟩ := hiff.answers.mpr ⟨hwhole, hmay⟩
    have hrun : ((editRoles updates).run c sys).1 = .ok (.count n) := Sys.map_of_ok hn
    exact (hperforms hrun).performed.count_eq ▸ hperforms hrun
  · have hiff := editRoles_answersIff hregistered hnodup (hs.eq_of_text hid) he hbind hunlocked hread h hrefs
    exact hrefused (hiff.exists_of_not fun hboth => hboth.1 hnull)
  · cases hrun : (Records.editRoles c (updatesData updates) sys).1 with
    | ok n' =>
      rw [subject_of_editRoles he hs hrun] at hid
      cases hid
    | error f =>
      have hraised : ((editRoles updates).run c sys).1 = .error f := Sys.map_of_error hrun
      exact ⟨⟨f, hraised⟩, unchanged_of_error he hbind hraised⟩
  · exact hrefused (exists_editRoles_of_invalid hregistered hnodup hinvalid)

/-! ### On the sample -/

/-- Bob administrates acme: he creates a user there, but not under a name that is in use; he deletes alice, but not
dave, who belongs to globex; and he makes alice and carol administrators, but not alice and erin. -/
theorem user_services_exact_bob :
    (createUser "zoe" "acme" "member").Succeeds (requestOf (.text "bob")) registeredSample "bob"
        (.reported (.done (.text "zoe"))) ∧
      (createUser "erin" "acme" "member").ReportsFailure (requestOf (.text "bob")) registeredSample ∧
      (deleteUser "alice").Succeeds (requestOf (.text "bob")) registeredSample "bob" .done ∧
      (deleteUser "dave").IsRefused (requestOf (.text "bob")) registeredSample ∧
      (editRoles [("alice", "admin"), ("carol", "admin")]).Succeeds (requestOf (.text "bob")) registeredSample "bob"
        (.count 2) ∧
      (editRoles [("alice", "admin"), ("erin", "admin")]).IsRefused (requestOf (.text "bob")) registeredSample := by
  have hregistered : registeredSample.globals.registry.lookup (.text "User") = .ok userMapping := by decide +kernel
  have hfits : ∀ n, (requestOf (.text "bob")).subject.id = .int n → Value.isStorable n = true := fun n hn => nomatch hn
  obtain ⟨hcreate, hdelete, hedit⟩ :=
    @user_services_exact (requestOf (.text "bob")) registeredSample "bob" true none (Names.text "bob") hfits rfl rfl rfl
      rfl Deed.sampleDatabase_meets Deed.sampleDatabase_isConsistent hregistered
  have hbob : HasUser sampleDatabase "bob" "acme" "admin" := by decide +kernel
  have hdave : HasUser sampleDatabase "dave" "globex" "admin" := by decide +kernel
  have herin : HasUser sampleDatabase "erin" "globex" "member" := by decide +kernel
  have hmember : ∀ name ∈ ["alice", "carol"], HasUser sampleDatabase name "acme" "member" := by decide +kernel
  have hunused : ∀ row ∈ sampleDatabase.rows users.name, row.head? ≠ some (.text "zoe") := by decide +kernel
  -- whoever belongs to globex is not bob's to manage
  have hforeign : ∀ {name role}, HasUser sampleDatabase name "globex" role →
      ¬∃ org, IsMember sampleDatabase name org ∧
        (IsGlobalAdmin sampleDatabase "bob" ∨ HasUser sampleDatabase "bob" org "admin") := by
    intro name role hname hmay
    rw [exists_isMember_iff Deed.sampleDatabase_meets hname] at hmay
    revert hmay
    decide +kernel
  have hlimit : ∀ most, (requestOf (.text "bob")).batchLimit registeredSample = some most → most.isBelow 2 = false := by
    intro most hmost
    obtain rfl := Option.some.inj hmost
    decide +kernel
  refine ⟨(hcreate _ _ _).1 ⟨by decide, by decide +kernel, ?_, .inr hbob⟩, (hcreate _ _ _).2 ?_,
    (hdelete _ (.inl rfl)).1 ⟨by decide, "acme", ⟨"member", hmember _ (by decide)⟩, .inr hbob⟩,
    (hdelete _ (.inl rfl)).2 fun hmay => hforeign hdave hmay.administrates,
    ((hedit _ (by decide)).1 rfl (by decide)).1 ⟨⟨by decide, hlimit, by decide⟩, by decide, ?_⟩,
    ((hedit _ (by decide)).1 rfl (by decide)).2 ?_⟩
  · rintro org ⟨role, hzoe⟩
    exact hunused _ hzoe rfl
  · exact fun hmay => hmay.unused _ ⟨_, herin⟩
  · intro entry hentry
    have hname : entry.1 ∈ ["alice", "carol"] := List.mem_map_of_mem (f := Prod.fst) hentry
    exact ⟨"acme", ⟨"member", hmember _ hname⟩, .inr hbob⟩
  · exact fun hmay => hforeign herin (hmay.administrates ("erin", "admin") (by decide))

/-- Two administrators of acme, one with a null character in the name and one whose name is a numeral. -/
def oddNames : Database :=
  populated [
    [[.text "acme"]],
    [["b\x00b", "acme", "admin"], ["7", "acme", "admin"], ["alice", "acme", "member"]].map (List.map .text),
    [],
    []]

def oddNamesSystem : System := { disk := oddNames, globals := { registry } }

/-- Both administrators may make alice one as well, but neither can: a null character ends the text of the condition,
and a number is not written as a text. -/
theorem administrators_cannot_edit :
    oddNames.Meets schemas ∧ oddNames.isConsistent = true ∧
      Names (requestOf (.text "b\x00b")).subject "b\x00b" ∧ Names (requestOf (.int 7)).subject "7" ∧
      (∀ user ∈ ["b\x00b", "7"],
        MayEditRoles ((requestOf (.text user)).batchLimit oddNamesSystem) oddNames user [("alice", "admin")]) ∧
      (∃ f, ((editRoles [("alice", "admin")]).run (requestOf (.text "b\x00b")) oddNamesSystem).1 = .error f) ∧
      ((editRoles [("alice", "admin")]).run (requestOf (.int 7)) oddNamesSystem).1 = .error (.sql .literal) ∧
      (Fault.sql .literal).isAuthz = false := by
  have hmeets : oddNames.Meets schemas := by decide +kernel
  have hrefs : oddNames.isConsistent = true := by decide +kernel
  have halice : HasUser oddNames "alice" "acme" "member" := by decide +kernel
  have hregistered : oddNamesSystem.globals.registry.lookup (.text "User") = .ok userMapping := by decide +kernel
  have hnames : Names (requestOf (.int 7)).subject "7" := by
    have hseven : toString (7 : Int) = "7" := by decide +kernel
    exact hseven ▸ Names.int 7
  have hmay : ∀ user ∈ ["b\x00b", "7"],
      MayEditRoles ((requestOf (.text user)).batchLimit oddNamesSystem) oddNames user [("alice", "admin")] := by
    intro user huser
    have hadmin : ∀ user ∈ ["b\x00b", "7"], user ≠ "alice" ∧ HasUser oddNames user "acme" "admin" := by
      decide +kernel
    refine ⟨⟨by simp, ?_, by decide⟩, ?_, ?_⟩
    · intro most hmost
      obtain rfl := Option.some.inj hmost
      decide +kernel
    · simpa using (hadmin user huser).1.symm
    · simpa using ⟨"acme", ⟨"member", halice⟩, .inr (hadmin user huser).2⟩
  refine ⟨hmeets, hrefs, .text _, hnames, hmay, ?_, ?_, rfl⟩
  · have hiff := @editRoles_answersIff (requestOf (.text "b\x00b")) oddNamesSystem "b\x00b" true none
      [("alice", "admin")] hregistered (by decide) rfl rfl rfl rfl rfl hmeets hrefs
    obtain ⟨f, hf, _⟩ := hiff.exists_of_not fun hboth => hboth.1 (by decide)
    exact ⟨f, Sys.map_of_error hf⟩
  · have hrun : (Records.editRoles (requestOf (.int 7)) (updatesData [("alice", "admin")]) oddNamesSystem).1 =
        .error (.sql .literal) := by
      rw [editRoles_outcome (by decide)]
      decide +kernel
    exact Sys.map_of_error hrun

end Service

end RowGuard.Records
