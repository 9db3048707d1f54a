import RowGuard.Proofs.Records.Administrators
import RowGuard.Proofs.References

/-!
# Roles on documents over runs

Whatever services users call from an empty database on, a user has at most one role on a document, and roles are
held by users that there are on documents that there are (`HoldsRoles`). Each call that succeeds makes of the roles
exactly what it says, and each that fails leaves the database as it was (`Service.MakesRoles`), so that whoever or
whatever is created under a name or number that was in use before starts without roles
(`Event.roles_on_documents`).
-/

namespace RowGuard.Records

open Link.Statement

/-! ## Rows of roles -/

/-- The rows with roles on the document. -/
def rolesOn (db : Database) (document : Int) : List Row :=
  (db.rows documentUserRoles.name).filter fun row => row[0]? == some (.int document)

/-- The rows with roles of the user. -/
def rolesOf (db : Database) (user : String) : List Row :=
  (db.rows documentUserRoles.name).filter fun row => row[1]? == some (.text user)

/-- The rows with roles of the user on the document. -/
def rolesFor (db : Database) (document : Int) (user : String) : List Row :=
  (rolesOn db document).filter fun row => row[1]? == some (.text user)

/-- Users have at most one role on a document, and rows with roles name a document and a user that there are. -/
structure HoldsRoles (db : Database) : Prop where
  atMostOne : ∀ document user, (rolesFor db document user).length ≤ 1
  named : ∀ row ∈ db.rows documentUserRoles.name, ∃ document user role,
    row = [.int document, .text user, .text role] ∧ (∃ org, BelongsTo db document org) ∧ ∃ org, IsMember db user org

section Rows

variable {db made : Database} (h : db.Meets schemas)

include h

theorem mem_rolesOn_iff {document : Int} {row : Row} : row ∈ rolesOn db document ↔
    ∃ user role, HasGrant db document user role ∧ row = [.int document, .text user, .text role] := by
  unfold rolesOn
  rw [List.mem_filter, mem_documentUserRoles_iff h]
  constructor
  · rintro ⟨⟨d, u, r, hg, rfl⟩, hpasses⟩
    obtain rfl : d = document := by simpa using hpasses
    exact ⟨u, r, hg, rfl⟩
  · rintro ⟨u, r, hg, rfl⟩
    exact ⟨⟨document, u, r, hg, rfl⟩, by simp⟩

theorem mem_rolesOf_iff {user : String} {row : Row} : row ∈ rolesOf db user ↔
    ∃ document role, HasGrant db document user role ∧ row = [.int document, .text user, .text role] := by
  unfold rolesOf
  rw [List.mem_filter, mem_documentUserRoles_iff h]
  constructor
  · rintro ⟨⟨d, u, r, hg, rfl⟩, hpasses⟩
    obtain rfl : u = user := by simpa using hpasses
    exact ⟨d, r, hg, rfl⟩
  · rintro ⟨d, r, hg, rfl⟩
    exact ⟨⟨d, user, r, hg, rfl⟩, by simp⟩

theorem mem_rolesFor_iff {document : Int} {user : String} {row : Row} : row ∈ rolesFor db document user ↔
    ∃ role, HasGrant db document user role ∧ row = [.int document, .text user, .text role] := by
  unfold rolesFor
  rw [List.mem_filter, mem_rolesOn_iff h]
  constructor
  · rintro ⟨⟨u, r, hg, rfl⟩, hpasses⟩
    obtain rfl : u = user := by simpa using hpasses
    exact ⟨r, hg, rfl⟩
  · rintro ⟨r, hg, rfl⟩
    exact ⟨⟨user, r, hg, rfl⟩, by simp⟩

/-- A user has one role on a document. -/
theorem HasGrant.unique {document : Int} {user role role' : String} (hg : HasGrant db document user role)
    (hg' : HasGrant db document user role') : role = role' := by
  have hrows := h.eq_of_keyOf names_nodup (by decide) ⟨_, List.mem_cons_self, rfl⟩ hg hg' rfl
  simpa using hrows

theorem nodup_documentUserRoles : (db.rows documentUserRoles.name).Nodup :=
  h.nodup_rows names_nodup (by decide : documentUserRoles ∈ schemas) ⟨_, List.mem_cons_self, rfl⟩

theorem nodup_rolesOn (document : Int) : (rolesOn db document).Nodup := (nodup_documentUserRoles h).filter _

theorem nodup_rolesFor (document : Int) (user : String) : (rolesFor db document user).Nodup :=
  (nodup_rolesOn h document).filter _

omit h in
/-- A list without duplicates and with one member is that member alone. -/
theorem eq_singleton_of_nodup {α : Type} {l : List α} {a : α} (hnodup : l.Nodup) (hmem : ∀ b, b ∈ l ↔ b = a) :
    l = [a] := by
  refine List.perm_singleton.mp ((List.perm_ext_iff_of_nodup hnodup (List.nodup_singleton a)).mpr ?_)
  intro b
  rw [hmem, List.mem_singleton]

theorem rolesFor_eq_singleton {document : Int} {user role : String} (hg : HasGrant db document user role) :
    rolesFor db document user = [[.int document, .text user, .text role]] := by
  refine eq_singleton_of_nodup (nodup_rolesFor h document user) ?_
  intro row
  rw [mem_rolesFor_iff h]
  constructor
  · rintro ⟨role', hg', rfl⟩
    rw [HasGrant.unique h hg hg']
  · rintro rfl
    exact ⟨role, hg, rfl⟩

theorem rolesFor_eq_nil {document : Int} {user : String} (hnone : ∀ role, ¬HasGrant db document user role) :
    rolesFor db document user = [] := by
  refine List.eq_nil_iff_forall_not_mem.mpr ?_
  intro row hrow
  obtain ⟨role, hg, _⟩ := (mem_rolesFor_iff h).mp hrow
  exact hnone role hg

theorem rolesOf_eq_nil {user : String} (hnone : ∀ document role, ¬HasGrant db document user role) :
    rolesOf db user = [] := by
  refine List.eq_nil_iff_forall_not_mem.mpr ?_
  intro row hrow
  obtain ⟨document, role, hg, _⟩ := (mem_rolesOf_iff h).mp hrow
  exact hnone document role hg

theorem rolesOn_eq_nil {document : Int} (hnone : ∀ user role, ¬HasGrant db document user role) :
    rolesOn db document = [] := by
  refine List.eq_nil_iff_forall_not_mem.mpr ?_
  intro row hrow
  obtain ⟨user, role, hg, _⟩ := (mem_rolesOn_iff h).mp hrow
  exact hnone user role hg

/-- The rows are the same where the roles are. -/
theorem rolesFor_congr (hmade : made.Meets schemas) {document : Int} {user : String}
    (hsame : ∀ role, HasGrant made document user role ↔ HasGrant db document user role) :
    rolesFor made document user = rolesFor db document user := by
  by_cases hsome : ∃ role, HasGrant db document user role
  · obtain ⟨role, hg⟩ := hsome
    rw [rolesFor_eq_singleton h hg, rolesFor_eq_singleton hmade ((hsame role).mpr hg)]
  · have hnone : ∀ role, ¬HasGrant db document user role := fun role hg => hsome ⟨role, hg⟩
    rw [rolesFor_eq_nil h hnone, rolesFor_eq_nil hmade fun role hg => hnone role ((hsame role).mp hg)]

/-- Keys and references say so. -/
theorem holdsRoles (hrefs : db.isConsistent = true) : HoldsRoles db where
  atMostOne document user := by
    by_cases hsome : ∃ role, HasGrant db document user role
    · obtain ⟨role, hg⟩ := hsome
      rw [rolesFor_eq_singleton h hg]
      simp
    · rw [rolesFor_eq_nil h fun role hg => hsome ⟨role, hg⟩]
      simp
  named row hrow := by
    obtain ⟨document, user, role, hg, rfl⟩ := (mem_documentUserRoles_iff h).mp hrow
    exact ⟨document, user, role, rfl, HasGrant.exists_document h hrefs hg, HasGrant.exists_isMember h hrefs hg⟩

/-- Whoever is not there has no role. -/
theorem rolesOf_eq_nil_of_unused (hrefs : db.isConsistent = true) {user : String} (hunused : ∀ org, ¬IsMember db user org) :
    rolesOf db user = [] := by
  refine rolesOf_eq_nil h ?_
  intro document role hg
  obtain ⟨org, hmember⟩ := HasGrant.exists_isMember h hrefs hg
  exact hunused org hmember

end Rows

/-! ## What a call makes of the roles -/

/-- The call has raised a fault or reported a failure. -/
def Failed (outcome : Except Fault Reply) : Prop :=
  (∃ f, outcome = .error f) ∨ ∃ reason, outcome = .ok (.reported (.failed reason))

/-- What a user's call makes of the roles on documents. -/
structure Service.MakesRoles (v : Service) (user : String) (outcome : Except Fault Reply) (db made : Database) :
    Prop where
  /-- A call that has failed has changed nothing, whatever it had done on the way. -/
  failed : Failed outcome → made = db
  /-- A new document has an unused number and is not public, and only its owner has a role on it. -/
  createDocument : ∀ org title value, v = .createDocument org title → outcome = .ok (.reported (.done value)) →
    ∃ id, value = .int id ∧ (∀ o, ¬BelongsTo db id o) ∧ HasDocument made id org title false ∧
      rolesOn made id = [[.int id, .text user, .text "owner"]]
  /-- Sharing gives the user this one role on the document, and changes no other row. -/
  shareDocument : ∀ id username role value, v = .shareDocument id username role →
    outcome = .ok (.reported (.done value)) →
      rolesFor made id username = [[.int id, .text username, .text role]] ∧
        (∀ d u, ¬(d = id ∧ u = username) → rolesFor made d u = rolesFor db d u) ∧
        Untouched [organizations, users, documents] db made
  /-- Nobody has a role on a document that was deleted. -/
  deleteDocument : ∀ id, v = .deleteDocument id → outcome = .ok .done → rolesOn made id = []
  /-- A user that was deleted has no role on any document. -/
  deleteUser : ∀ username, v = .deleteUser username → outcome = .ok .done → rolesOf made username = []
  /-- A new user has no role on any document. -/
  createUser : ∀ username org role value, v = .createUser username org role →
    outcome = .ok (.reported (.done value)) → rolesOf made username = []

section Calls

variable {c : Context} {sys : System} {user : String} {dialect : Dialect} {hasEngine : Bool}
  {config : Option Config} {made : Database} {db : Database}

/-- A user that was created was not there before. -/
theorem Service.Effect.unused (hs : Names c.subject user)
    (he : c.evaluator = (evaluator dialect hasEngine config).toEvaluator) (h : (c.bind.view sys).Meets schemas)
    {username org role : String} {value : Data}
    (heffect : Service.Effect c sys (.createUser username org role) (.reported (.done value)) made) :
    ∀ o, ¬IsMember (c.bind.view sys) username o := by
  cases heffect with
  | createUser hrole hmutates =>
    obtain ⟨_, checked, mutated, hseen, hrun, rfl⟩ := exists_run_of_mutates he hs h (.createUser _) hmutates
    have hmade := Sys.run_of_execute hrun
    rw [hseen] at hmade
    exact unused_of_insertUser h hrole hmade

/-- What a service performs, it makes of the roles on documents. -/
theorem Service.Performs.makesRoles {s : Subject} {v : Service} {reply : Reply} (h : db.Meets schemas)
    (hrefs : db.isConsistent = true) (hmade : made.Meets schemas) (hperforms : v.Performs s user db reply made)
    (hunused : ∀ username org role value, v = .createUser username org role → reply = .reported (.done value) →
      ∀ o, ¬IsMember db username o) :
    v.MakesRoles user (.ok reply) db made := by
  refine ⟨?_, ?_, ?_, ?_, ?_, ?_⟩
  · rintro (⟨f, hf⟩ | ⟨reason, hreason⟩)
    · simp at hf
    · obtain rfl := Except.ok.inj hreason
      cases hperforms with
      | failed | read _ => rfl
  · rintro org title value rfl houtcome
    obtain rfl := Except.ok.inj houtcome
    cases hperforms with
    | read hreads => exact hreads.elim
    | @createDocument _ _ id _ _ hfresh hdocuments hgrants _ =>
      refine ⟨id, rfl, fun o ⟨t, p, hd⟩ => hfresh o t p hd, (hdocuments _ _ _ _).mpr (.inr ⟨rfl, rfl, rfl, rfl⟩), ?_⟩
      refine eq_singleton_of_nodup (nodup_rolesOn hmade id) ?_
      intro row
      rw [mem_rolesOn_iff hmade]
      constructor
      · rintro ⟨u, r, hg, rfl⟩
        rcases (hgrants _ _ _).mp hg with hold | ⟨_, rfl, rfl⟩
        -- nobody had a role on a document that was not there
        · obtain ⟨o, t, p, hd⟩ := HasGrant.exists_document h hrefs hold
          exact absurd hd (hfresh o t p)
        · rfl
      · rintro rfl
        exact ⟨user, "owner", (hgrants _ _ _).mpr (.inr ⟨rfl, rfl, rfl⟩), rfl⟩
  · rintro id username role value rfl houtcome
    obtain rfl := Except.ok.inj houtcome
    cases hperforms with
    | read hreads => exact hreads.elim
    | shareDocument _ _ hgrants hsame =>
      refine ⟨rolesFor_eq_singleton hmade ((hgrants _ _ _).mpr (.inr ⟨rfl, rfl, rfl⟩)), ?_, hsame⟩
      intro d u hother
      refine rolesFor_congr h hmade ?_
      intro r
      rw [hgrants]
      constructor
      · rintro (⟨hg, _⟩ | ⟨hd, hu, _⟩)
        · exact hg
        · exact absurd ⟨hd, hu⟩ hother
      · exact fun hg => .inl ⟨hg, hother⟩
  · rintro id rfl houtcome
    obtain rfl := Except.ok.inj houtcome
    cases hperforms with
    | read hreads => exact hreads.elim
    | deleteDocument _ _ hgrants _ => exact rolesOn_eq_nil hmade fun u r hg => ((hgrants _ _ _).mp hg).2 rfl
  · rintro username rfl houtcome
    obtain rfl := Except.ok.inj houtcome
    cases hperforms with
    | read hreads => exact hreads.elim
    | deleteUser _ _ _ hgrants _ => exact rolesOf_eq_nil hmade fun d r hg => ((hgrants _ _ _).mp hg).2 rfl
  · rintro username org role value rfl houtcome
    obtain rfl := Except.ok.inj houtcome
    have hnew := rolesOf_eq_nil_of_unused h hrefs (hunused _ _ _ _ rfl rfl)
    cases hperforms with
    | read hreads => exact hreads.elim
    | createUser _ _ _ hsame =>
      unfold rolesOf at hnew ⊢
      rwa [hsame documentUserRoles (by decide)]

/-- Every call makes of the roles on documents what it says. -/
theorem Service.makesRoles (v : Service) (hs : Names c.subject user)
    (he : c.evaluator = (evaluator dialect hasEngine config).toEvaluator)
    (hregistered : sys.globals.registry.lookup (.text "User") = .ok userMapping)
    (h : (c.bind.view sys).Meets schemas) (hrefs : (c.bind.view sys).isConsistent = true) :
    v.MakesRoles user (v.run c sys).1 (c.bind.view sys) (c.bind.view (v.run c sys).2) := by
  have hserved := Service.served_run sys v (he ▸ LocalEvaluator.observes _ : c.evaluator.Observes)
  cases houtcome : (v.run c sys).1 with
  | error f => exact ⟨fun _ => hserved.kept f houtcome, by simp, by simp, by simp, by simp, by simp⟩
  | ok reply =>
    have heffect := hserved.made reply houtcome
    obtain ⟨hmade, hperforms⟩ := Service.performs hs he hregistered h heffect
    refine hperforms.makesRoles h hrefs hmade ?_
    rintro username org role value rfl rfl
    exact Service.Effect.unused hs he h heffect

end Calls

/-! ## Over runs -/

namespace Event

variable {sys : System} {e : Event}

/-- What lasts survives every event, if creating the tables that are missing does not end it. -/
theorem keeps_run {P : System → Prop} (hP : System.Lasting P) (htables : ∀ bind, Sys.Keeps P (createTables bind))
    (huser : e.ByUser) : P sys → P (e.run sys) := by
  cases e with
  | setUp reachable => exact keeps_setUp hP (htables _) sys
  | call c v =>
    obtain ⟨_, _, _, _, _, he⟩ := huser
    have hobserves : c.evaluator.Observes := he ▸ LocalEvaluator.observes _
    exact v.keeps_run hP hobserves.answers (he ▸ LocalEvaluator.keeps hP _) sys

theorem keeps_runAll {P : System → Prop} (hP : System.Lasting P)
    (htables : ∀ bind, Sys.Keeps P (createTables bind)) {events : List Event} (husers : ∀ e ∈ events, e.ByUser)
    (h : P sys) : P (runAll events sys) := by
  induction events generalizing sys with
  | nil => exact h
  | cons e rest ih =>
    obtain ⟨huser, hrest⟩ := List.forall_mem_cons.mp husers
    exact ih hrest (keeps_run hP htables huser h)

/-- From an empty database on, references lead somewhere. -/
theorem consistent_reached {start : System} {events : List Event} (hstart : Fresh start)
    (husers : ∀ e ∈ events, e.ByUser) : (reached start events).Consistent := by
  have hempty : start.Consistent := by
    refine ⟨by rw [hstart.disk]; rfl, ?_⟩
    intro l hl
    rcases hstart.link with hnone | hnew
    · rw [hnone] at hl
      simp at hl
    · obtain rfl := Option.some.inj (hl.symm.trans hnew)
      exact Link.checked_of_none rfl
  have hall : ∀ e ∈ setUp true :: events, e.ByUser := List.forall_mem_cons.mpr ⟨trivial, husers⟩
  have hlast := keeps_runAll System.lasting_consistent keepsConsistent_createTables hall hempty
  exact hlast

/-- From an empty database on, the connection stays sound. -/
theorem sound_reached {start : System} {events : List Event} (hstart : Fresh start)
    (husers : ∀ e ∈ events, e.ByUser) : (reached start events).Sound := by
  have hsound : start.Sound := by
    intro l hl
    rcases hstart.link with hnone | hnew
    · rw [hnone] at hl
      simp at hl
    · obtain rfl := Option.some.inj (hl.symm.trans hnew)
      rfl
  have htables : ∀ bind, Sys.Keeps System.Sound (createTables bind) := by
    intro bind
    unfold createTables
    split
    case h_1 => exact Sys.Keeps.throw _
    case h_2 => exact fun _ h => h
  have hall : ∀ e ∈ setUp true :: events, e.ByUser := List.forall_mem_cons.mpr ⟨trivial, husers⟩
  have hlast := keeps_runAll System.lasting_sound htables hall hsound
  exact hlast

/-- From an empty database on, whatever services users call and however often the database is set up again: in what
is stored and in what the connection sees, users have at most one role on a document, and hold roles only as users
that there are on documents that there are; and whatever is called next makes of the roles exactly what it says,
and stores nothing if it fails. -/
theorem roles_on_documents {start : System} {events : List Event} (hstart : Fresh start)
    (husers : ∀ e ∈ events, e.ByUser) :
    HoldsRoles (reached start events).disk ∧ HoldsRoles (reached start events).seen ∧
      ∀ c v user dialect hasEngine config, Names c.subject user →
        c.evaluator = (evaluator dialect hasEngine config).toEvaluator →
        Service.MakesRoles v user (v.run c (reached start events)).1 (c.bind.view (reached start events))
            (c.bind.view ((call c v).run (reached start events))) ∧
          (Failed (v.run c (reached start events)).1 →
            ((call c v).run (reached start events)).disk = (reached start events).disk) := by
  have hconsistent := consistent_reached hstart husers
  have hsound := sound_reached hstart husers
  have hholds : Holds (fun _ => True) (reached start events) :=
    holds_runAll (fun _ _ _ _ _ _ _ => trivial) husers (hstart.holds_setUp trivial)
  refine ⟨holdsRoles hholds.stored.1 hconsistent.stored, holdsRoles hholds.seen.1 (hconsistent.view .connection), ?_⟩
  intro c v user dialect hasEngine config hs he
  have hmakes := v.makesRoles hs he hholds.registered (hholds.view c.bind).1 (hconsistent.view c.bind)
  have hserved := Service.served_run (reached start events) v (he ▸ LocalEvaluator.observes _ : c.evaluator.Observes)
  exact ⟨hmakes, fun hfailed => hserved.disk_eq hsound (hmakes.failed hfailed)⟩

/-! ### Numbers and names that come back -/

/-- Ann's document is shared with root and deleted, ann is deleted by root, and both come back. -/
def comings : List Event := [
  .call (requestOf (.text "root")) (.createOrganization "acme"),
  .call (requestOf (.text "root")) (.createUser "ann" "acme" "member"),
  .call (requestOf (.text "ann")) (.createDocument "acme" "plan"),
  .call (requestOf (.text "ann")) (.shareDocument 1 "root" "viewer"),
  .call (requestOf (.text "ann")) (.deleteDocument 1),
  .call (requestOf (.text "root")) (.deleteUser "ann"),
  .call (requestOf (.text "root")) (.createUser "ann" "acme" "member")]

theorem byUser_requestOf (name : String) (v : Service) : (call (requestOf (.text name)) v).ByUser :=
  ⟨name, .sqlite, true, none, .text _, rfl⟩

/-- When ann makes a document after that, she alone has a role on it. -/
theorem roles_on_documents_comings : HoldsRoles (reached blank comings).disk ∧
    Service.MakesRoles (.createDocument "acme" "plot") "ann"
      ((Service.createDocument "acme" "plot").run (requestOf (.text "ann")) (reached blank comings)).1
      (reached blank comings).disk
      ((call (requestOf (.text "ann")) (.createDocument "acme" "plot")).run (reached blank comings)).disk := by
  have hstart : Fresh blank := ⟨rfl, .inl rfl, rfl, by decide +kernel⟩
  have husers : ∀ e ∈ comings, e.ByUser := by
    simp only [comings, List.forall_mem_cons, byUser_requestOf, List.not_mem_nil, false_imp_iff, implies_true,
      and_self]
  obtain ⟨hstored, _, hnext⟩ := Event.roles_on_documents hstart husers
  exact ⟨hstored, (hnext (requestOf (.text "ann")) _ "ann" .sqlite true none (.text _) rfl).1⟩

end Event

end RowGuard.Records
