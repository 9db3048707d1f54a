import RowGuard.Proofs.Listing.Agreement
import RowGuard.Proofs.Records.Tenancy
import RowGuard.Proofs.Records.UserServices

/-!
# A user's listing of users

A user is listed the users of the organizations that it may see into, with what it may do to each, and its own row
apart from the others (`own_listing`). A stored user belongs to its own organization, so that the row to be set apart
is always among the listed ones; a subject that is no stored user is told so. Names that the conditions cannot be
written for are another matter: a number has no literal of the type of names, and a statement ends at a null character.
-/

namespace RowGuard

open Outcome Listing

/-! ## Setting the subject's row apart -/

namespace Listing

variable {R : String → PermissionVector → Prop} {names : List String} {rows : List PermissionVector}

section Named

variable (h : List.Forall₂ R names rows) (hidentity : ∀ u v, R u v → v.identity = .text u)

include h hidentity

/-- Rows are the subject's or another's as their names are. -/
theorem forall₂_filter_own (user : String) : List.Forall₂ R (names.filter fun u => u == user)
      (rows.filter fun v => v.identity.same (.text user)) ∧
    List.Forall₂ R (names.filter fun u => u != user) (rows.filter fun v => !v.identity.same (.text user)) := by
  have hsame : ∀ u v, R u v → v.identity.same (.text user) = (u == user) := by
    intro u v hv
    rw [hidentity u v hv]
    exact Data.text_beq_text u user
  constructor
  · exact List.rel_filter (fun u v hv => by simp only [hsame u v hv]) h
  · exact List.rel_filter (fun u v hv => by simp only [hsame u v hv, bne]) h

/-- Rows that show nobody twice can be split exactly if they show the subject. -/
theorem splitSelf_of_names (kind type : Data) (user : String) (hnodup : names.Nodup) :
    (user ∉ names → splitSelf ⟨kind, .text user⟩ type rows =
      .error (.drift (.selfNotListed ⟨kind, .text user⟩ type))) ∧
    (user ∈ names → ∃ own others, splitSelf ⟨kind, .text user⟩ type rows = .ok ⟨others, some own⟩ ∧ R user own ∧
      List.Forall₂ R (names.filter fun u => u != user) others) := by
  obtain ⟨hown, hothers⟩ := forall₂_filter_own h hidentity user
  rw [List.filter_beq] at hown
  constructor
  · intro hmissing
    rw [List.count_eq_zero_of_not_mem hmissing, List.replicate_zero, List.forall₂_nil_left_iff] at hown
    unfold splitSelf
    rw [hown]
  · intro hmem
    rw [List.count_eq_one_of_mem hnodup hmem, List.replicate_one] at hown
    obtain ⟨own, _, hshown, hnil, hrows⟩ := List.forall₂_cons_left_iff.mp hown
    rw [List.forall₂_nil_left_iff.mp hnil] at hrows
    refine ⟨own, _, ?_, hshown, hothers⟩
    unfold splitSelf
    rw [hrows]

end Named

end Listing

namespace Records

variable {db : Database} {user u a : String} {c : Condition} {sql : String} {hasEngine : Bool} {config : Option Config}
  {given : Config} {p : Plan}

/-- The row shows a user as it is stored, and what may be done to it. -/
structure ShowsUser (db : Database) (user u : String) (v : PermissionVector) : Prop where
  identity : v.identity = .text u
  stored : ∃ org role, HasUser db u org role ∧
    v.fields = [("username", .text u), ("org", .text org), ("role", .text role)]
  permissions : ∀ d ∈ [Deed.editRole u, .deleteUser u], ∃ b, v.allows (.text d.action) = .ok (.bool b) ∧
    (b = true ↔ d.Allowed db user)

/-- The listing shows the users that may be read, once each and in the order of their names, and sets the row of the
user who reads them apart. -/
structure ListsUsers (db : Database) (user : String) (l : Listing) : Prop where
  own : ∃ v, l.thisSubject = some v ∧ ShowsUser db user user v
  others : ∃ names, List.Forall₂ (ShowsUser db user) names l.rows ∧ names.Pairwise (· < ·) ∧ user ∉ names ∧
    ∀ u, u ∈ user :: names ↔ (Deed.readUser u).Allowed db user

/-- What a listing comes to for a user: a fault about its own row exactly if it is not stored. -/
structure ShowsItself (db : Database) (user : String) (outcome : Except Fault Listing) : Prop where
  refused_iff : (∃ cause, outcome = .error (.drift cause)) ↔ ∀ org, ¬IsMember db user org
  cause : ∀ cause, outcome = .error (.drift cause) →
    cause = .selfNotListed ⟨.text "User", .text user⟩ (.text "User")
  listed : ∀ org, IsMember db user org → ∃ l, outcome = .ok l ∧ ListsUsers db user l

/-! ## What is selected -/

/-- What an action on users compiles to for a user named by a text. -/
abbrev CompilesFor (hasEngine : Bool) (config : Option Config) (given : Config) (user a : String) (c : Condition)
    (sql : String) : Prop :=
  Compiles (evaluator .sqlite hasEngine config) given ⟨.text "User", .text user⟩ (.text "User") userMapping a c sql

/-- What is compiled for users is something that may be done to them. -/
theorem exists_deed (ha : a ∈ readPermission :: userPermissions) : ∃ d : Deed, d.action = a ∧ d.type = "User" := by
  simp only [readPermission, userPermissions, List.mem_cons, List.not_mem_nil, or_false] at ha
  rcases ha with rfl | rfl | rfl
  · exact ⟨.readUser "", rfl, rfl⟩
  · exact ⟨.editRole "", rfl, rfl⟩
  · exact ⟨.deleteUser "", rfl, rfl⟩

theorem exists_compilesFor (hasEngine : Bool) (config : Option Config) (given : Config) (user : String)
    (ha : a ∈ readPermission :: userPermissions) : ∃ c sql, CompilesFor hasEngine config given user a c sql := by
  obtain ⟨c, sql, hc, hsql, _⟩ := exists_userText hasEngine config given user ha
  exact ⟨c, sql, hc, hsql⟩

namespace CompilesFor

variable (hc : CompilesFor hasEngine config given user a c sql) (h : db.Meets schemas)

include hc h

/-- The fragment runs unless the name has a null character. -/
theorem runs_iff (ha : a ∈ readPermission :: userPermissions) :
    (placed (.text "User") userMapping a c sql).runs db userMapping.table = true ↔ '\x00' ∉ user.toList := by
  obtain ⟨c', sql', hc', hsql', hreadable, hnull⟩ := exists_userText hasEngine config given user ha
  have hcompiles : CompilesFor hasEngine config given user a c' sql' := ⟨hc', hsql'⟩
  obtain ⟨rfl, rfl⟩ := Compiles.unique hcompiles hc
  obtain ⟨d, rfl, htype⟩ := exists_deed ha
  have hdeed : (evaluator .sqlite hasEngine config).condition given ⟨.text "User", .text user⟩ (.text d.action)
      (.text d.type) = .ok c' := by rw [htype]; exact hc'
  have hruns : Condition.runs db c' = true := Deed.runs_of_condition hdeed h
  have husable : isUsableRef userMapping.table userMapping.columnRef = true := isUsableRef_users
  rw [runs_placed, hreadable, hruns, husable, ← hnull]
  simp

/-- On the row of a user the fragment says whether the deed is allowed. -/
theorem holds_iff {d : Deed} (ha : d.action = a) (htype : d.type = "User") {org role : String}
    (hx : d.Targets (userMapping.table.operand [.text u, .text org, .text role] 0)) :
    Condition.holds db Literal.written (userMapping.table.operand [.text u, .text org, .text role] 0) c = true ↔
      d.Allowed db user := by
  subst ha
  have hdeed : (evaluator .sqlite hasEngine config).condition given ⟨.text "User", .text user⟩ (.text d.action)
      (.text d.type) = .ok c := by rw [htype]; exact hc.condition
  exact Deed.holds_written_iff hdeed h (fun hd => absurd (htype.symm.trans hd) (by decide)) hx

end CompilesFor

/-! ## Rows of users -/

/-- The name of the user that a row is of. -/
def nameOf : Row → String
  | .text u :: _ => u
  | _ => ""

theorem read_user {u org role : String} (hrole : role ∈ organizationRoles) :
    userMapping.table.read [.text u, .text org, .text role] =
      .ok [("username", .text u), ("org", .text org), ("role", .text role)] := by
  simp only [organizationRoles, List.mem_cons, List.not_mem_nil, or_false] at hrole
  rcases hrole with rfl | rfl <;> rfl

theorem identityOf_user {u org role : String} (hrole : role ∈ organizationRoles) :
    userMapping.identityOf [.text u, .text org, .text role] = .text u := by
  unfold Mapping.identityOf
  rw [read_user hrole]
  rfl

/-- A selected row shows the user that it is of. -/
theorem showsUser_of_selected
    (hfor : PlannedFor (evaluator .sqlite hasEngine config) given ⟨.text "User", .text user⟩ (.text "User")
      userMapping userPermissions p) (h : db.Meets schemas) {org role : String} (hu : HasUser db u org role)
    {v : PermissionVector} (hshows : v.Shows userMapping [.text u, .text org, .text role])
    (hpermissions : v.permissions = p.extras.map fun extra =>
      (extra.1, .bool (extra.2.grants db userMapping.table 0 [.text u, .text org, .text role]))) :
    ShowsUser db user u v := by
  have hrole := HasUser.role_mem h hu
  obtain ⟨fields, hread, hfields⟩ := hshows.fields
  obtain rfl := Except.ok.inj ((read_user hrole).symm.trans hread)
  refine ⟨hshows.identity.trans (identityOf_user hrole), ⟨org, role, hu, hfields⟩, ?_⟩
  intro d hd
  have hextras : List.Forall₂ (fun a extra => ∃ f, (∃ c sql, CompilesFor hasEngine config given user a c sql ∧
      f = placed (.text "User") userMapping a c sql) ∧ extra = (Data.text a, f)) userPermissions p.extras :=
    hfor.extras.imp fun a extra ⟨c, sql, hc, hextra⟩ => ⟨_, ⟨c, sql, hc, rfl⟩, hextra⟩
  have hdeed : d.action ∈ userPermissions ∧ d.type = "User" ∧
      d.Targets (userMapping.table.operand [.text u, .text org, .text role] 0) := by
    simp only [List.mem_cons, List.not_mem_nil, or_false] at hd
    rcases hd with rfl | rfl <;> exact ⟨by simp [Deed.action, userPermissions], rfl, Operand.isText_text u⟩
  obtain ⟨haction, htype, hx⟩ := hdeed
  obtain ⟨f, ⟨c, sql, hc, rfl⟩, hlookup⟩ := lookup_permissions hextras
    (fun f => f.grants db userMapping.table 0 [.text u, .text org, .text role]) haction
  refine ⟨_, v.allows_of_lookup (hpermissions ▸ hlookup), ?_⟩
  rw [grants_placed]
  exact hc.holds_iff h rfl htype hx

/-- A listing of users selects those that may be read, once each and in the order of their names. -/
theorem exists_select_users
    (hfor : PlannedFor (evaluator .sqlite hasEngine config) given ⟨.text "User", .text user⟩ (.text "User")
      userMapping userPermissions p) (h : db.Meets schemas) (hwhole : '\x00' ∉ user.toList) :
    ∃ names vs, p.select db = .ok vs ∧ List.Forall₂ (ShowsUser db user) names vs ∧ names.Pairwise (· < ·) ∧
      ∀ u, u ∈ names ↔ (Deed.readUser u).Allowed db user := by
  obtain ⟨c, sql, hc, hread⟩ := hfor.read
  have hfragments : ∀ f ∈ p.fragments, f.runs db userMapping.table = true := by
    intro f hf
    rcases List.mem_cons.mp hf with rfl | hf
    · rw [hread]
      exact (CompilesFor.runs_iff hc h List.mem_cons_self).mpr hwhole
    · obtain ⟨extra, hextra, rfl⟩ := List.mem_map.mp hf
      obtain ⟨a, ha, c, sql, hc, rfl⟩ := exists_of_mem_right hfor.extras hextra
      exact (CompilesFor.runs_iff hc h (List.mem_cons_of_mem _ ha)).mpr hwhole
  have hstored : ∀ row ∈ db.rows users.name, (row[0]?.getD Value.null).IsOrdered ∧
      ∃ fields, userMapping.table.read row = .ok fields := by
    intro row hrow
    obtain ⟨u, org, role, hu, rfl⟩ := (mem_users_iff h).mp hrow
    exact ⟨by simp [Value.IsOrdered], _, read_user (HasUser.role_mem h hu)⟩
  obtain ⟨vs, rows, hselect, hperm, hsorted, hshown⟩ := exists_select (i := 0) hfor.mapping hfor.order
    (table?_users h) rfl hfragments (fun row hrow => (hstored row hrow).1) fun row hrow => (hstored row hrow).2
  have hadmits : ∀ u org role, p.read.admits db userMapping.table 0 [.text u, .text org, .text role] = true ↔
      (Deed.readUser u).Allowed db user := by
    intro u org role
    rw [hread, admits_placed]
    exact CompilesFor.holds_iff hc h rfl rfl (Operand.isText_text u)
  -- the selected rows are those of users that may be read
  have hrows : ∀ row, row ∈ rows ↔ ∃ u org role, HasUser db u org role ∧ (Deed.readUser u).Allowed db user ∧
      row = [.text u, .text org, .text role] := by
    intro row
    rw [hperm.mem_iff, List.mem_filter, mem_users_iff h]
    constructor
    · rintro ⟨⟨u, org, role, hu, rfl⟩, hadmitted⟩
      exact ⟨u, org, role, hu, (hadmits u org role).mp hadmitted, rfl⟩
    · rintro ⟨u, org, role, hu, hallowed, rfl⟩
      exact ⟨⟨u, org, role, hu, rfl⟩, (hadmits u org role).mpr hallowed⟩
  refine ⟨rows.map nameOf, vs, hselect, ?_, ?_, ?_⟩
  · rw [List.forall₂_map_left_iff]
    have hmem := (List.forall₂_and_left _ _).mpr ⟨fun row hrow => (hrows row).mp hrow, hshown⟩
    refine hmem.imp ?_
    rintro _ v ⟨⟨u, org, role, hu, _, rfl⟩, hshows, hpermissions⟩
    exact showsUser_of_selected hfor h hu hshows hpermissions
  · have hnodup : rows.Nodup :=
      hperm.nodup_iff.mpr ((h.nodup_rows names_nodup (by decide) ⟨_, List.mem_cons_self, rfl⟩).filter _)
    rw [List.pairwise_map]
    refine (hsorted.and hnodup).imp_of_mem ?_
    rintro a b ha hb ⟨hle, hne⟩
    obtain ⟨u, org, role, hu, _, rfl⟩ := (hrows a).mp ha
    obtain ⟨u', org', role', hu', _, rfl⟩ := (hrows b).mp hb
    -- two rows of one user are the same row
    refine lt_of_le_of_ne (not_lt.mp (of_decide_eq_false hle)) ?_
    rintro (rfl : u = u')
    obtain ⟨rfl, rfl⟩ := HasUser.unique h hu hu'
    exact hne rfl
  · intro u
    simp only [List.mem_map, hrows]
    constructor
    · rintro ⟨_, ⟨u', org, role, _, hallowed, rfl⟩, rfl⟩
      exact hallowed
    · rintro ⟨org, ⟨role, hu⟩, hsees⟩
      exact ⟨_, ⟨u, org, role, hu, ⟨org, ⟨role, hu⟩, hsees⟩, rfl⟩, rfl⟩

/-! ## The listing -/

section Outcome

variable {c : Context} {sys : System}
  (he : c.evaluator = (evaluator .sqlite hasEngine config).toEvaluator)
  (hregistered : sys.globals.registry.lookup (.text "User") = .ok userMapping)
  (hsees : c.bind.Sees sys db)

include he hsees

theorem listUsers_outcome : (listUsers c sys).1 = (do
    let p ← planned (evaluator .sqlite hasEngine config) ((evaluator .sqlite hasEngine config).configIn sys)
      sys.globals.registry c.subject (.text "User") userPermissions true
    p.listing (← Scope.report (operation p.mapping.type) (p.select db))) := by
  unfold listUsers
  rw [loggingFaults_outcome, he]
  exact list_outcome c.config hsees userPermissions true

include hregistered

/-- For a user named by a text the listing is planned. -/
theorem exists_planned_users (hsubject : c.subject = ⟨.text "User", .text user⟩) :
    ∃ p, PlannedFor (evaluator .sqlite hasEngine config) ((evaluator .sqlite hasEngine config).configIn sys)
        ⟨.text "User", .text user⟩ (.text "User") userMapping userPermissions p ∧
      (listUsers c sys).1 = (do
        splitSelf c.subject (.text "User") (← Scope.report (operation (.text "User")) (p.select db))) := by
  have hcheck : Request.check { type := .text "User", extras := userPermissions.map .text, extractSelf := true }
      ⟨.text "User", .text user⟩ = .ok () := check_of_nodup (by decide) fun _ => rfl
  obtain ⟨p, hplanned⟩ := Listing.exists_planned hregistered hcheck fun a ha =>
    exists_compilesFor hasEngine config ((evaluator .sqlite hasEngine config).configIn sys) user ha
  obtain ⟨hfor, hself⟩ := plannedFor_of_planned hregistered hplanned
  refine ⟨p, hfor, ?_⟩
  rw [listUsers_outcome he hsees, hsubject, hplanned, ok_bind, hfor.mapping]
  unfold Plan.listing
  rw [hself, hfor.subject, hfor.mapping]
  rfl

variable (h : db.Meets schemas)

include h

/-- A user whose name can be written is listed what it may read if it is stored, and is told so if it is not. -/
theorem listUsers_of_whole (hsubject : c.subject = ⟨.text "User", .text user⟩) (hwhole : '\x00' ∉ user.toList) :
    (∀ org, IsMember db user org → ∃ l, (listUsers c sys).1 = .ok l ∧ ListsUsers db user l) ∧
      ((∀ org, ¬IsMember db user org) →
        (listUsers c sys).1 = .error (.drift (.selfNotListed c.subject (.text "User")))) := by
  obtain ⟨p, hfor, houtcome⟩ := exists_planned_users he hregistered hsees hsubject
  obtain ⟨names, vs, hselect, hshown, hsorted, hnames⟩ := exists_select_users hfor h hwhole
  obtain ⟨hmissing, hfound⟩ := splitSelf_of_names hshown (fun _ _ hv => hv.identity) (.text "User") (.text "User") user
    (hsorted.imp ne_of_lt)
  have hreport : Scope.report (operation (.text "User")) (p.select db) = .ok vs := by
    rw [hselect]
    rfl
  rw [houtcome, hreport, ok_bind, hsubject]
  constructor
  · intro org hmember
    -- whoever is stored may read itself
    obtain ⟨own, others, hsplit, hown, hothers⟩ := hfound ((hnames user).mpr ⟨org, hmember, .inr hmember⟩)
    refine ⟨_, hsplit, ⟨own, rfl, hown⟩, _, hothers, hsorted.filter _, by simp, ?_⟩
    intro u
    rw [← hnames u]
    by_cases hu : u = user
    · simpa [hu] using (hnames user).mpr ⟨org, hmember, .inr hmember⟩
    · simp [hu]
  · intro hstranger
    refine hmissing fun hmem => ?_
    obtain ⟨org, hmember, _⟩ := (hnames user).mp hmem
    exact hstranger org hmember

/-- The statement ends at a null character of the name and does not run. -/
theorem listUsers_of_broken (hsubject : c.subject = ⟨.text "User", .text user⟩) (hbroken : '\x00' ∈ user.toList) :
    (listUsers c sys).1 = .error (.dataAccess "list User") := by
  obtain ⟨p, hfor, houtcome⟩ := exists_planned_users he hregistered hsees hsubject
  obtain ⟨c', sql, hc, hread⟩ := hfor.read
  have hreads : p.read.runs db userMapping.table = false := by
    rw [hread, Bool.eq_false_iff, ne_eq, CompilesFor.runs_iff hc h List.mem_cons_self]
    exact not_not_intro hbroken
  have hselect : p.select db = .error (.sql .operational) := by
    unfold Plan.select Plan.runs Plan.fragments
    rw [hfor.mapping, List.all_cons, hreads]
    simp
  rw [houtcome, hselect]
  rfl

omit h in
/-- No condition on users has a text for a subject named by a number. -/
theorem listUsers_of_int {n : Int} (hsubject : c.subject = ⟨.text "User", .int n⟩) :
    (listUsers c sys).1 = .error (.sql .literal) := by
  have hcondition := @condition_user ⟨.text "User", .int n⟩ readPermission .sqlite hasEngine config
    ((evaluator .sqlite hasEngine config).configIn sys) (Names.int n).isActor (by decide)
  rw [actorLiteral_eq] at hcondition
  have hfragment : fragment (evaluator .sqlite hasEngine config) ((evaluator .sqlite hasEngine config).configIn sys)
      ⟨.text "User", .int n⟩ (.text "User") userMapping readPermission = .error (.sql .literal) := by
    unfold fragment
    rw [hcondition, ok_bind]
    exact congrArg (· >>= _) (forColumn_int .sqlite n _ _)
  have hcheck : Request.check { type := .text "User", extras := userPermissions.map .text, extractSelf := true }
      ⟨.text "User", .int n⟩ = .ok () := check_of_nodup (by decide) fun _ => rfl
  rw [listUsers_outcome he hsees, hsubject]
  unfold planned
  rw [hregistered, ok_bind, hcheck, ok_bind, hfragment]
  rfl

end Outcome

/-- A user whose name has no null character is listed what it may read, with its own row apart, exactly if it is stored;
otherwise the fault says that its row is missing. A name with a null character breaks the statement, and a number cannot
be written as a name: there the faults are others, whether or not there is a row. -/
theorem own_listing {c : Context} {sys : System} {db : Database} {hasEngine : Bool} {config : Option Config}
    (he : c.evaluator = (evaluator .sqlite hasEngine config).toEvaluator)
    (hregistered : sys.globals.registry.lookup (.text "User") = .ok userMapping)
    (hsees : c.bind.Sees sys db) (h : db.Meets schemas) :
    (∀ user, c.subject = ⟨.text "User", .text user⟩ → '\x00' ∉ user.toList →
      ShowsItself db user (listUsers c sys).1) ∧
    (∀ user, c.subject = ⟨.text "User", .text user⟩ → '\x00' ∈ user.toList →
      (listUsers c sys).1 = .error (.dataAccess "list User")) ∧
    ∀ n : Int, c.subject = ⟨.text "User", .int n⟩ → (listUsers c sys).1 = .error (.sql .literal) := by
  refine ⟨?_, fun user => listUsers_of_broken he hregistered hsees h, fun n => listUsers_of_int he hregistered hsees⟩
  intro user hsubject hwhole
  obtain ⟨hlisted, hrefused⟩ := listUsers_of_whole he hregistered hsees h hsubject hwhole
  have hstranger : ∀ cause, (listUsers c sys).1 = .error (.drift cause) → ∀ org, ¬IsMember db user org := by
    intro cause hfault org hmember
    obtain ⟨l, hl, _⟩ := hlisted org hmember
    exact nomatch hfault.symm.trans hl
  refine ⟨⟨fun ⟨cause, hfault⟩ => hstranger cause hfault, fun hnone => ⟨_, hrefused hnone⟩⟩, ?_, hlisted⟩
  intro cause hfault
  have hcause := hfault.symm.trans (hrefused (hstranger cause hfault))
  rw [← hsubject]
  exact Fault.drift.inj (Except.error.inj hcause)

/-! ### On the sample -/

/-- Bob is listed the users of acme, his own row apart; zoe, who is not stored, is told so. -/
theorem own_listing_bob :
    (∃ l, (listUsers (requestOf (.text "bob")) registeredSample).1 = .ok l ∧ ListsUsers sampleDatabase "bob" l) ∧
      ∃ cause, (listUsers (requestOf (.text "zoe")) registeredSample).1 = .error (.drift cause) := by
  have hregistered : registeredSample.globals.registry.lookup (.text "User") = .ok userMapping := by decide +kernel
  have hlisting := fun user => @own_listing (requestOf (.text user)) registeredSample sampleDatabase true none rfl
    hregistered ⟨rfl, rfl⟩ Deed.sampleDatabase_meets
  have hbob : HasUser sampleDatabase "bob" "acme" "admin" := by decide +kernel
  have hunused : ∀ row ∈ sampleDatabase.rows users.name, row.head? ≠ some (.text "zoe") := by decide +kernel
  exact ⟨((hlisting "bob").1 "bob" rfl (by decide)).listed "acme" ⟨"admin", hbob⟩,
    ((hlisting "zoe").1 "zoe" rfl (by decide)).refused_iff.mpr fun org ⟨role, hzoe⟩ => hunused _ hzoe rfl⟩

/-- A stored user whose name has a null character is not listed, and a number that names no stored user is told
something else. -/
theorem odd_names_are_not_listed :
    Service.oddNames.Meets schemas ∧ Service.oddNames.isConsistent = true ∧
      IsMember Service.oddNames "b\x00b" "acme" ∧
      (listUsers (requestOf (.text "b\x00b")) Service.oddNamesSystem).1 = .error (.dataAccess "list User") ∧
      Names (requestOf (.int 7)).subject "7" ∧ (∀ org, ¬IsMember sampleDatabase "7" org) ∧
      (listUsers (requestOf (.int 7)) registeredSample).1 = .error (.sql .literal) := by
  have hmeets : Service.oddNames.Meets schemas := by decide +kernel
  have hstored : HasUser Service.oddNames "b\x00b" "acme" "admin" := by decide +kernel
  have hregistered : registeredSample.globals.registry.lookup (.text "User") = .ok userMapping := by decide +kernel
  have hnames : Names (requestOf (.int 7)).subject "7" := by
    have hseven : toString (7 : Int) = "7" := by decide +kernel
    exact hseven ▸ Names.int 7
  have hunused : ∀ row ∈ sampleDatabase.rows users.name, row.head? ≠ some (.text "7") := by decide +kernel
  refine ⟨hmeets, by decide +kernel, ⟨"admin", hstored⟩, ?_, hnames, fun org ⟨role, hseven⟩ => hunused _ hseven rfl, ?_⟩
  · exact @listUsers_of_broken Service.oddNames "b\x00b" true none (requestOf (.text "b\x00b"))
      Service.oddNamesSystem rfl hregistered ⟨rfl, rfl⟩ hmeets rfl (by decide)
  · exact @listUsers_of_int sampleDatabase true none (requestOf (.int 7)) registeredSample rfl hregistered
      ⟨rfl, rfl⟩ 7 rfl

end Records

end RowGuard
