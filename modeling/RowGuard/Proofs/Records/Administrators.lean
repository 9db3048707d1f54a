import RowGuard.Proofs.Globals
import RowGuard.Proofs.Records.Effects
import RowGuard.Proofs.Records.Storage
import RowGuard.Records.Sample

/-!
# Global administrators

Whatever services users call, and however often the database is set up in between, the organization `_` stays, and
so does some administrator of it, as long as nobody deletes the user that is the caller (`Event.administered`). A
deletion refuses the caller's own name, but compares it with the caller's identity as it is given: a caller that
is named by a whole number can delete itself, and then nobody may be left (`Event.nobody_administrates`).
-/

namespace RowGuard.Records

open Scope

/-- Something that happens to the application: somebody calls a service, or the database is set up through an
engine. -/
inductive Event where
  | call (c : Context) (v : Service)
  | setUp (reachable : Bool)

namespace Event

/-- The system after the event. -/
def run : Event → System → System
  | call c v, sys => (v.run c sys).2
  | setUp reachable, sys => (Records.setUp (.engine reachable) sys).2

theorem run_call (c : Context) (v : Service) (sys : System) : (call c v).run sys = (v.run c sys).2 := rfl

theorem run_setUp (reachable : Bool) (sys : System) :
    (setUp reachable).run sys = (Records.setUp (.engine reachable) sys).2 := rfl

/-- The system after events one after the other. -/
def runAll : List Event → System → System
  | [], sys => sys
  | e :: rest, sys => runAll rest (e.run sys)

/-- The system after it has been set up for the first time and further events. -/
def reached (start : System) (events : List Event) : System := runAll events ((setUp true).run start)

/-- A service is called by a user, with the application's evaluator. -/
def ByUser : Event → Prop
  | call c _ => ∃ user dialect hasEngine config, Names c.subject user ∧
      c.evaluator = (evaluator dialect hasEngine config).toEvaluator
  | setUp _ => True

/-- The event is no deletion of the user whom the caller names with a whole number. -/
def SparesCaller : Event → Prop
  | call c (.deleteUser username) => ∀ n, c.subject.id = .int n → username ≠ toString n
  | _ => True

/-- What the event makes of a database, if it does anything. -/
inductive Makes : Event → Database → Database → Prop
  | call {c : Context} {v : Service} {user : String} {reply : Reply} {db made : Database} (hs : Names c.subject user)
      (h : v.Performs c.subject user db reply made) : Makes (.call c v) db made
  | setUp {reachable : Bool} {db made : Database} (h : Completes db made) : Makes (.setUp reachable) db made

end Event

/-! ## What databases keep -/

section Databases

variable {s : Subject} {user : String} {db made : Database} {v : Service} {reply : Reply} {e : Event}

/-- No service removes an organization. -/
theorem Service.Performs.hasOrganization (h : v.Performs s user db reply made) {org : String}
    (horg : HasOrganization db org) : HasOrganization made org := by
  cases h with
  | failed | read _ => exact horg
  | createOrganization _ _ horganizations _ => exact (horganizations org).mpr (.inl horg)
  | createUser _ _ _ hsame | deleteUser _ _ _ _ hsame | editRoles _ _ _ _ hsame | createDocument _ _ _ _ hsame
  | setDocumentPublic _ _ hsame | shareDocument _ _ _ hsame | deleteDocument _ _ _ hsame =>
    exact (hsame.hasOrganization_iff (by decide)).mpr horg

/-- Whoever may do something to a global administrator is one. -/
theorem isGlobalAdmin_of_allowed (h : db.Meets schemas) {u : String} (hu : IsGlobalAdmin db u)
    (hallowed : ∃ org, IsMember db u org ∧ (IsGlobalAdmin db user ∨ HasUser db user org "admin")) :
    IsGlobalAdmin db user := by
  obtain ⟨org, ⟨role, hu'⟩, hga | hadmin⟩ := hallowed
  · exact hga
  · obtain ⟨rfl, _⟩ := HasUser.unique h hu hu'
    exact hadmin

/-- A user that differs from the caller's identity, be that a text or a whole number, is not the caller. -/
theorem Names.ne_of_ne {username : String} (hs : Names s user) (htext : s.id = .text user → username ≠ user)
    (hint : ∀ n, s.id = .int n → username ≠ toString n) : username ≠ user := by
  cases hs with
  | text => exact htext rfl
  | int n => exact hint n rfl

/-- If a service takes a global administrator away, the caller is one, and stays. -/
theorem Service.Performs.exists_isGlobalAdmin (h : v.Performs s user db reply made) (hs : Names s user)
    (hmeets : db.Meets schemas)
    (hspares : ∀ username, v = .deleteUser username → ∀ n, s.id = .int n → username ≠ toString n)
    (hadmin : ∃ u, IsGlobalAdmin db u) : ∃ u, IsGlobalAdmin made u := by
  obtain ⟨u, hu⟩ := hadmin
  cases h with
  | failed | read _ => exact ⟨u, hu⟩
  | createUser _ _ husers _ => exact ⟨u, (husers _ _ _).mpr (.inl hu)⟩
  | @deleteUser username _ hallowed hother husers _ _ =>
    by_cases hgone : u = username
    · have hcaller := isGlobalAdmin_of_allowed hmeets hu (hgone ▸ hallowed)
      have hne := hs.ne_of_ne hother (hspares username rfl)
      exact ⟨user, (husers _ _ _).mpr ⟨hcaller, hne.symm⟩⟩
    · exact ⟨u, (husers _ _ _).mpr ⟨hu, hgone⟩⟩
  | @editRoles updates _ _ hallowed _ husers _ =>
    by_cases hedited : ∃ role, (u, role) ∈ updates
    -- however many administrators lose their role at once, the caller is not among them
    · obtain ⟨role, hentry⟩ := hedited
      have hcaller := isGlobalAdmin_of_allowed hmeets hu (hallowed _ hentry).1
      exact ⟨user, (husers _ _ _).mpr (.inr ⟨hcaller, fun role' hown => (hallowed _ hown).2 rfl⟩)⟩
    · exact ⟨u, (husers _ _ _).mpr (.inr ⟨hu, fun role hentry => hedited ⟨role, hentry⟩⟩)⟩
  | createOrganization _ _ _ hsame | createDocument _ _ _ _ hsame | setDocumentPublic _ _ hsame
  | shareDocument _ _ _ hsame | deleteDocument _ _ _ hsame =>
    exact ⟨u, (hsame.hasUser_iff (by decide)).mpr hu⟩

theorem Event.Makes.hasOrganization (h : e.Makes db made) {org : String} (horg : HasOrganization db org) :
    HasOrganization made org := by
  cases h with
  | call _ h => exact h.hasOrganization horg
  | setUp h => exact h.keepsOrganizations org horg

theorem Event.Makes.exists_isGlobalAdmin (h : e.Makes db made) (hmeets : db.Meets schemas) (hspares : e.SparesCaller)
    (hadmin : ∃ u, IsGlobalAdmin db u) : ∃ u, IsGlobalAdmin made u := by
  cases h with
  | setUp h =>
    obtain ⟨u, hu⟩ := hadmin
    exact ⟨u, h.keepsUsers _ _ _ hu⟩
  | call hs h =>
    refine h.exists_isGlobalAdmin hs hmeets ?_ hadmin
    rintro username rfl
    exact hspares

end Databases

/-! ## What the system keeps -/

/-- What is stored and what is seen meet the application's schemas and have a property, and the application's users
are registered. -/
structure Holds (P : Database → Prop) (sys : System) : Prop where
  stored : sys.disk.Meets schemas ∧ P sys.disk
  seen : sys.seen.Meets schemas ∧ P sys.seen
  registered : sys.globals.registry.lookup (.text "User") = .ok userMapping

section Systems

variable {P : Database → Prop} {sys sys' : System} {e : Event}

/-- A connection that was left alone sees what it saw, or what is stored. -/
theorem seen_eq_or_of_link (hlink : sys'.link = sys.link) : sys'.seen = sys'.disk ∨ sys'.seen = sys.seen := by
  cases hl : sys.link with
  | none =>
    left
    unfold System.seen
    rw [hlink, hl]
    rfl
  | some l =>
    rw [System.seen_of_some hl, System.seen_of_some (hlink.trans hl)]
    unfold Link.view
    cases l.inTransaction with
    | false => exact .inl rfl
    | true =>
      cases l.transaction.bind (·.view) with
      | none => exact .inl rfl
      | some view => exact .inr rfl

theorem Holds.of_link {P : Database → Prop} (h : Holds P sys) (hlink : sys'.link = sys.link)
    (hstored : sys'.disk.Meets schemas ∧ P sys'.disk) (hglobals : sys'.globals = sys.globals) : Holds P sys' where
  stored := hstored
  seen := by
    rcases seen_eq_or_of_link hlink with hseen | hseen
    · rw [hseen]
      exact hstored
    · rw [hseen]
      exact h.seen
  registered := by
    rw [hglobals]
    exact h.registered

theorem Holds.view (h : Holds P sys) (bind : Bind) : (bind.view sys).Meets schemas ∧ P (bind.view sys) := by
  cases bind with
  | engine _ => exact h.stored
  | connection => exact h.seen

/-- What no event takes from a database stays with the system. -/
theorem Event.holds_run (hP : ∀ db made, db.Meets schemas → e.Makes db made → P db → P made) (huser : e.ByUser)
    (h : Holds P sys) : Holds P (e.run sys) := by
  cases e with
  | setUp reachable =>
    rw [run_setUp]
    obtain ⟨hmeets, hcompletes, hlink⟩ := completes_setUp reachable h.stored.1
    exact h.of_link hlink ⟨hmeets, hP _ _ h.stored.1 (.setUp hcompletes) h.stored.2⟩ (keepsGlobals_setUp _ sys)
  | call c v =>
    rw [run_call]
    obtain ⟨user, dialect, hasEngine, config, hs, he⟩ := huser
    have hobserves : c.evaluator.Observes := he ▸ LocalEvaluator.observes _
    have hglobals : (v.run c sys).2.globals = sys.globals :=
      v.keepsGlobals_run hobserves.answers (he ▸ LocalEvaluator.keepsGlobals _) sys
    have hserved := Service.served_run sys v hobserves
    obtain ⟨hmeets, hholds⟩ := h.view c.bind
    -- what is seen through the call's bind keeps the property, and the other side follows from it
    have hview : (c.bind.view (v.run c sys).2).Meets schemas ∧ P (c.bind.view (v.run c sys).2) := by
      cases houtcome : (v.run c sys).1 with
      | error f =>
        rw [hserved.kept f houtcome]
        exact ⟨hmeets, hholds⟩
      | ok reply =>
        obtain ⟨hmade, hperforms⟩ := Service.performs hs he h.registered hmeets (hserved.made reply houtcome)
        exact ⟨hmade, hP _ _ hmeets (.call hs hperforms) hholds⟩
    cases hbind : c.bind with
    | engine reachable =>
      rw [hbind] at hview
      exact h.of_link (hserved.own reachable hbind) hview hglobals
    | connection =>
      rw [hbind] at hview
      refine ⟨?_, hview, by rw [hglobals]; exact h.registered⟩
      rcases hserved.stored hbind with hdisk | hdisk
      · rw [hdisk]
        exact h.stored
      · rw [hdisk]
        exact hview

theorem Event.holds_runAll {events : List Event}
    (hP : ∀ e ∈ events, ∀ db made, db.Meets schemas → e.Makes db made → P db → P made)
    (husers : ∀ e ∈ events, e.ByUser) (h : Holds P sys) : Holds P (runAll events sys) := by
  induction events generalizing sys with
  | nil => exact h
  | cons e rest ih =>
    obtain ⟨huser, hrest⟩ := List.forall_mem_cons.mp husers
    obtain ⟨hown, hothers⟩ := List.forall_mem_cons.mp hP
    exact ih hothers hrest (holds_run hown huser h)

end Systems

/-! ## From an empty database on -/

/-- The application before it is set up: there is nothing in the database, no connection is in a transaction, and
the application's users are registered. -/
structure Fresh (sys : System) : Prop where
  disk : sys.disk = ⟨[]⟩
  link : sys.link = none ∨ sys.link = some {}
  lent : sys.lent = []
  registered : sys.globals.registry.lookup (.text "User") = .ok userMapping

theorem Fresh.setUp_apply {start : System} (h : Fresh start) :
    (setUp (.engine true) start).2.disk = initialDatabase ∧ (setUp (.engine true) start).2.link = start.link := by
  obtain ⟨disk, link, lent, scope, journal, globals, fragments, watch, trace⟩ := start
  obtain ⟨rfl, rfl | rfl, rfl, _⟩ := h
  · exact ⟨by with_unfolding_all rfl, by with_unfolding_all rfl⟩
  · exact ⟨by with_unfolding_all rfl, by with_unfolding_all rfl⟩

/-- Setting up an empty database makes root the administrator of the organization `_`. -/
theorem Fresh.holds_setUp {P : Database → Prop} {start : System} (h : Fresh start) (hP : P initialDatabase) :
    Holds P (Event.run (.setUp true) start) := by
  obtain ⟨hdisk, hlink⟩ := h.setUp_apply
  have hmeets : initialDatabase.Meets schemas := by decide +kernel
  rw [Event.run_setUp]
  have hseen : (setUp (.engine true) start).2.seen = initialDatabase := by
    rcases h.link with hnone | hsome
    · unfold System.seen
      rw [hlink, hnone]
      exact hdisk
    · rw [System.seen_of_some (hlink.trans hsome)]
      exact hdisk
  refine ⟨hdisk ▸ ⟨hmeets, hP⟩, hseen ▸ ⟨hmeets, hP⟩, ?_⟩
  rw [keepsGlobals_setUp _ start]
  exact h.registered

/-- From an empty database on, whatever services users call and however often the database is set up again: the
organization `_` exists, in what is stored and in what the caller's connection sees; if no caller that is named by a
whole number deletes itself, somebody administrates it; and setting the database up again only adds what is
missing. -/
theorem Event.administered {start : System} {events : List Event} (hstart : Fresh start)
    (husers : ∀ e ∈ events, e.ByUser) :
    (HasOrganization (reached start events).disk globalOrg ∧ HasOrganization (reached start events).seen globalOrg) ∧
      ((∀ e ∈ events, e.SparesCaller) →
        (∃ u, IsGlobalAdmin (reached start events).disk u) ∧ ∃ u, IsGlobalAdmin (reached start events).seen u) ∧
      ∀ reachable, Completes (reached start events).disk
        ((Event.setUp reachable).run (reached start events)).disk := by
  have horganization : Holds (fun db => HasOrganization db globalOrg) (reached start events) := by
    have hfirst : HasOrganization initialDatabase globalOrg := by decide +kernel
    refine holds_runAll ?_ husers (hstart.holds_setUp hfirst)
    exact fun e _ db made _ hmakes horg => hmakes.hasOrganization horg
  refine ⟨⟨horganization.stored.2, horganization.seen.2⟩, ?_, ?_⟩
  · intro hspares
    have hroot : ∃ u, IsGlobalAdmin initialDatabase u := ⟨rootUser, by decide +kernel⟩
    have hadministered : Holds (fun db => ∃ u, IsGlobalAdmin db u) (reached start events) := by
      refine holds_runAll ?_ husers (hstart.holds_setUp hroot)
      exact fun e he db made hmeets hmakes hadmin => hmakes.exists_isGlobalAdmin hmeets (hspares e he) hadmin
    exact ⟨hadministered.stored.2, hadministered.seen.2⟩
  · exact fun reachable => (completes_setUp reachable horganization.stored.1).2.1

/-! ### On an empty database -/

/-- An empty database and no connection. -/
def blank : System := { disk := ⟨[]⟩, globals := { registry } }

/-- Root makes ann an administrator, and ann deletes root. -/
def succession : List Event := [
  .call (requestOf (.text "root")) (.createUser "ann" "_" "admin"),
  .call (requestOf (.text "ann")) (.deleteUser "root")]

/-- Ann is left as an administrator, and root is added again when the database is set up again. -/
theorem Event.administered_succession :
    (∃ u, IsGlobalAdmin (reached blank succession).disk u) ∧
      ¬IsGlobalAdmin (reached blank succession).disk rootUser ∧
      Completes (reached blank succession).disk ((Event.setUp true).run (reached blank succession)).disk := by
  have hstart : Fresh blank := ⟨rfl, .inl rfl, rfl, by decide +kernel⟩
  have husers : ∀ e ∈ succession, e.ByUser :=
    List.forall_mem_cons.mpr ⟨⟨"root", .sqlite, true, none, .text _, rfl⟩,
      List.forall_mem_cons.mpr ⟨⟨"ann", .sqlite, true, none, .text _, rfl⟩, by simp⟩⟩
  have hspares : ∀ e ∈ succession, e.SparesCaller :=
    List.forall_mem_cons.mpr ⟨trivial, List.forall_mem_cons.mpr ⟨fun n hn => by simp [requestOf] at hn, by simp⟩⟩
  have hadministered := Event.administered hstart husers
  exact ⟨(hadministered.2.1 hspares).1, by decide +kernel, hadministered.2.2 true⟩

/-- Root makes the user 7 an administrator, who deletes root. Then 7, named by a whole number, deletes itself. -/
def selfDeletion : List Event := [
  .call (requestOf (.text "root")) (.createUser "7" "_" "admin"),
  .call (requestOf (.text "7")) (.deleteUser "root"),
  .call (requestOf (.int 7)) (.deleteUser "7")]

/-- Then there is no user at all. -/
theorem Event.nobody_administrates :
    Fresh blank ∧ (∀ e ∈ selfDeletion, e.ByUser) ∧ ¬∃ u, IsGlobalAdmin (reached blank selfDeletion).disk u := by
  have hstart : Fresh blank := ⟨rfl, .inl rfl, rfl, by decide +kernel⟩
  have husers : ∀ e ∈ selfDeletion, e.ByUser :=
    List.forall_mem_cons.mpr ⟨⟨"root", .sqlite, true, none, .text _, rfl⟩,
      List.forall_mem_cons.mpr ⟨⟨"7", .sqlite, true, none, .text _, rfl⟩,
        List.forall_mem_cons.mpr ⟨⟨"7", .sqlite, true, none, .int 7, rfl⟩, by simp⟩⟩⟩
  have hnone : (reached blank selfDeletion).disk.rows users.name = [] := by decide +kernel
  refine ⟨hstart, husers, ?_⟩
  rintro ⟨u, hu⟩
  unfold IsGlobalAdmin HasUser at hu
  rw [hnone] at hu
  exact List.not_mem_nil hu

end RowGuard.Records
