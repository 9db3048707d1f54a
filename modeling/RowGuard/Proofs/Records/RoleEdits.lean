import RowGuard.Proofs.Batch.AllOrNothing
import RowGuard.Proofs.Batch.Compilation
import RowGuard.Proofs.Records.Service
import RowGuard.Proofs.Records.Statements
import RowGuard.Proofs.Records.Written

/-!
# New roles for users

A batch of new roles that has reached as many users as it has targets has given each user it names the role it is
named with, and has changed nothing else (`run_editRoles`). Whom it names is somebody whose role the subject may
edit, and not the subject. A subject named by a whole number has no such batch: the condition for it cannot be
written.
-/

namespace RowGuard.Records

variable {db made : Database} {s : Subject} {user : String} {b : Batch} {c : Condition}
  {updates : List (String × String)} {u org role : String} {t : Target}

/-! ## Whom a batch of new roles reaches -/

/-- Where users are stored. -/
def userMapping : Mapping := ⟨.text "User", users, Columns.username⟩

/-- The target that gives a user a role. -/
def roleTarget (entry : String × String) : Target := ⟨.text entry.1, [("role", .text entry.2)]⟩

theorem roleEdit_targets (updates : List (String × String)) :
    (roleEdit (Service.updatesData updates)).targets = updates.map roleTarget := by
  simp [roleEdit, Service.updatesData, roleTarget]

/-- The batch gives users new roles and leaves out the user who asks for it. -/
structure EditsRoles (b : Batch) (user : String) (updates : List (String × String)) : Prop where
  mapping : b.mapping = userMapping
  targets : b.targets = updates.map roleTarget
  excluded : b.excluded = some (.text user)
  change : b.change = .update (Batch.keysOf b.targets) []
  sets : Batch.SetsColumns b.mapping b.targets []

theorem editsRoles_of_planned
    (hplanned : b.Planned ⟨.text "User", .text user⟩ (roleEdit (Service.updatesData updates)))
    (hmapping : b.mapping = userMapping)
    (hchange : b.change = .update (Batch.keysOf (roleEdit (Service.updatesData updates)).targets) []) :
    EditsRoles b user updates := by
  have hsets : Batch.SetsColumns b.mapping (roleEdit (Service.updatesData updates)).targets [] := by
    rcases hplanned.change with hdelete | ⟨_, hsets⟩
    · rw [hdelete] at hchange
      simp at hchange
    · exact hsets
  have hown : b.targets = (roleEdit (Service.updatesData updates)).targets := hplanned.targets
  have hexcluded : b.excluded = some (.text user) := by
    rw [hplanned.excluded]
    simp [roleEdit]
  exact ⟨hmapping, hown.trans (roleEdit_targets updates), hexcluded, by rw [hown]; exact hchange,
    by rw [hown]; exact hsets⟩

section Rows

variable (he : EditsRoles b user updates)

include he

theorem isPlain_targets : ∀ t ∈ b.targets, t.identity.IsPlain := by
  intro t ht
  rw [he.targets] at ht
  obtain ⟨entry, _, rfl⟩ := List.mem_map.mp ht
  exact .inl ⟨_, rfl⟩

/-- A user's row has the user's name for its identity. -/
theorem isNamed_iff {name : String} :
    b.isNamed [.text u, .text org, .text role] (Batch.ownLiteral (.text name)) = true ↔ u = name := by
  unfold Batch.isNamed Batch.identityOf Batch.identityPosition
  rw [he.mapping]
  exact decide_eq_true_iff

theorem exists_names_iff :
    (∃ t ∈ b.targets, b.Names t [.text u, .text org, .text role]) ↔ ∃ role', (u, role') ∈ updates := by
  rw [he.targets]
  constructor
  · rintro ⟨_, ht, hnames⟩
    obtain ⟨⟨name, role'⟩, hentry, rfl⟩ := List.mem_map.mp ht
    obtain rfl : u = name := (isNamed_iff he).mp hnames
    exact ⟨role', hentry⟩
  · rintro ⟨role', hentry⟩
    exact ⟨_, List.mem_map_of_mem hentry, (isNamed_iff he).mpr rfl⟩

theorem table?_edited (h : db.Meets schemas) :
    db.table? b.mapping.table.name = some ⟨users, db.rows users.name⟩ := by
  rw [he.mapping]
  exact table?_users h

theorem apply_edited : b.apply db = db.update users.name (b.reaches db) b.updatedByChoice := by
  unfold Batch.apply
  rw [he.change, he.mapping]
  rfl

/-- No two users have the same name. -/
theorem distinct_users (h : db.Meets schemas) : b.Distinct (db.rows users.name) := by
  have hnodup := h.nodup_keyOf names_nodup (by decide : users ∈ schemas) ⟨_, List.mem_cons_self, rfl⟩
  refine (List.pairwise_map.mp hnodup).imp_of_mem ?_
  intro x y hx hy hne
  obtain ⟨u, org, role, _, rfl⟩ := (mem_users_iff h).mp hx
  obtain ⟨u', org', role', _, rfl⟩ := (mem_users_iff h).mp hy
  unfold Batch.identityOf Batch.identityPosition
  rw [he.mapping]
  refine decide_eq_false ?_
  rintro rfl
  exact hne rfl

theorem stores_users (h : db.Meets schemas) : ∀ row ∈ db.rows users.name, b.mapping.table.Stores row := by
  intro row hrow
  obtain ⟨u, org, role, _, rfl⟩ := (mem_users_iff h).mp hrow
  rw [he.mapping]
  exact ⟨rfl, rfl⟩

/-! ## What it makes of the users -/

variable (h : db.Meets schemas) (hall : b.AllPermitted db (db.rows users.name))

include h hall

/-- The users that are named are reached, and no others. -/
theorem reaches_iff_named (hu : HasUser db u org role) :
    b.reaches db [.text u, .text org, .text role] = true ↔ ∃ role', (u, role') ∈ updates := by
  rw [Batch.reaches_iff (isPlain_targets he), exists_names_iff he]
  refine ⟨fun hreached => hreached.1, fun hnamed => ⟨hnamed, ?_⟩⟩
  obtain ⟨t, ht, hname⟩ : ∃ t ∈ b.targets, b.Names t [.text u, .text org, .text role] :=
    (exists_names_iff he).mpr hnamed
  exact hall.permits (distinct_users he h) ht hu hname

/-- A user that is named gets the role it is named with. -/
theorem stored_updatedByChoice (hu : HasUser db u org role) {role' : String} (hentry : (u, role') ∈ updates) :
    users.stored (b.updatedByChoice [.text u, .text org, .text role]) = [.text u, .text org, .text role'] := by
  have ht : roleTarget (u, role') ∈ b.targets := he.targets ▸ List.mem_map_of_mem hentry
  have hnamed : b.Names (roleTarget (u, role')) [.text u, .text org, .text role] := (isNamed_iff he).mpr rfl
  have hchosen := Batch.targetOf?_of_names hall ht hu hnamed
  have hrewrites := Batch.rewrites_updatedByChoice he.change he.sets (stores_users he h _ hu) ht hchosen
  have htable : b.mapping.table = users := by
    rw [he.mapping]
    rfl
  have hcolumns : b.mapping.table.columns = [Columns.username, Columns.org, Columns.userRole] := by
    rw [htable]
    rfl
  have hstored : b.storedValue Columns.userRole (.text role') = .text role' := by
    unfold Batch.storedValue Batch.columnLiteral
    rw [he.mapping]
    rfl
  have hname := hrewrites.other 0 Columns.username (by rw [hcolumns]; rfl) (by rfl) (by rfl)
  have horg := hrewrites.other 1 Columns.org (by rw [hcolumns]; rfl) (by rfl) (by rfl)
  have hrole := hrewrites.own 2 Columns.userRole (.text role') (by rw [hcolumns]; rfl) (by rfl)
  obtain ⟨x, y, z, hrow⟩ := List.length_eq_three.mp hrewrites.length
  rw [hrow] at hname horg hrole
  rw [← htable, hrow]
  simp only [List.getElem?_cons_zero, List.getElem?_cons_succ, Option.some.injEq, hstored] at hname horg hrole
  rw [hname, horg, hrole]

/-- What becomes of a user that is reached is a user again, under the same name. -/
theorem accepts_updatedByChoice (hroles : ∀ entry ∈ updates, entry.2 ∈ organizationRoles) {row : Row}
    (hrow : row ∈ db.rows users.name) (hreached : b.reaches db row = true) :
    users.Accepts (users.stored (b.updatedByChoice row)) ∧
      users.keyOf (users.stored (b.updatedByChoice row)) = users.keyOf row := by
  obtain ⟨u, org, role, hu, rfl⟩ := (mem_users_iff h).mp hrow
  obtain ⟨role', hentry⟩ := (reaches_iff_named he h hall hu).mp hreached
  rw [stored_updatedByChoice he h hall hu hentry]
  exact ⟨accepts_users_iff.mpr ⟨u, org, role', hroles _ hentry, rfl⟩, rfl⟩

/-- The users named have their new roles, and all others are as they were. -/
theorem hasUser_iff_of_replaced (hreplaced : db.Replaced users ((db.rows users.name).map fun row =>
      if b.reaches db row then users.stored (b.updatedByChoice row) else row) made) :
    HasUser made u org role ↔
      (u, role) ∈ updates ∧ IsMember db u org ∨ HasUser db u org role ∧ ∀ role', (u, role') ∉ updates := by
  rw [HasUser, hreplaced.own, List.mem_map, exists_mem_users_iff h]
  constructor
  · rintro ⟨u', org', role₀, hu, heq⟩
    by_cases hreached : b.reaches db [.text u', .text org', .text role₀] = true
    · obtain ⟨role', hentry⟩ := (reaches_iff_named he h hall hu).mp hreached
      rw [if_pos hreached, stored_updatedByChoice he h hall hu hentry] at heq
      simp only [List.cons.injEq, Value.text.injEq, and_true] at heq
      obtain ⟨rfl, rfl, rfl⟩ := heq
      exact .inl ⟨hentry, role₀, hu⟩
    · rw [if_neg hreached] at heq
      simp only [List.cons.injEq, Value.text.injEq, and_true] at heq
      obtain ⟨rfl, rfl, rfl⟩ := heq
      exact .inr ⟨hu, fun role' hentry => hreached ((reaches_iff_named he h hall hu).mpr ⟨role', hentry⟩)⟩
  · rintro (⟨hentry, role₀, hu⟩ | ⟨hu, hnone⟩)
    · refine ⟨u, org, role₀, hu, ?_⟩
      rw [if_pos ((reaches_iff_named he h hall hu).mpr ⟨role, hentry⟩),
        stored_updatedByChoice he h hall hu hentry]
    · refine ⟨u, org, role, hu, if_neg fun hreached => ?_⟩
      obtain ⟨role', hentry⟩ := (reaches_iff_named he h hall hu).mp hreached
      exact hnone role' hentry

end Rows

/-! ## The batch as a whole -/

/-- The users' rows that pass the fragment are those whose role the subject may edit. -/
theorem admits_iff_allowed {dialect : Dialect} {hasEngine : Bool} {config : Option Config} {given : Config}
    (h : db.Meets schemas) (hmapping : b.mapping = userMapping)
    (hcompiled : Batch.Compiled (evaluator dialect hasEngine config) given ⟨.text "User", .text user⟩
      (roleEdit (Service.updatesData updates)) b c) :
    b.fragment.admits db b.mapping.table b.identityPosition [.text u, .text org, .text role] = true ↔
      (Deed.editRole u).Allowed db user := by
  have hrefs : (Deed.editRole u).type = "Document" → db.isConsistent = true := fun hd =>
    absurd (show "User" = "Document" from hd) (by decide)
  refine Iff.trans ?_
    (Deed.holds_written_iff (d := .editRole u) hcompiled.condition h hrefs (Operand.isText_text u))
  have hoperand : userMapping.table.operand [.text u, .text org, .text role]
      ((userMapping.table.position? userMapping.identity.name).getD 0) = Operand.text u := rfl
  unfold Fragment.admits Fragment.valueOn Batch.identityPosition
  rw [hcompiled.predicate, hmapping, hoperand]
  dsimp only
  cases Condition.holds db Literal.written (Operand.text u) c <;> decide

/-- Where the batch lets those pass whose role the user may edit, all that it names may be edited if all is
permitted. -/
theorem allowed_of_allPermitted (he : EditsRoles b user updates) (h : db.Meets schemas)
    (hadmits : ∀ u org role, b.fragment.admits db b.mapping.table b.identityPosition
      [.text u, .text org, .text role] = true ↔ (Deed.editRole u).Allowed db user)
    (hall : b.AllPermitted db (db.rows users.name)) :
    ∀ entry ∈ updates, (Deed.editRole entry.1).Allowed db user ∧ entry.1 ≠ user := by
  rintro ⟨name, role'⟩ hentry
  obtain ⟨row, hrow, hnames, hpermits⟩ := hall.permitted _ (he.targets ▸ List.mem_map_of_mem hentry)
  obtain ⟨u, org, role, _, rfl⟩ := (mem_users_iff h).mp hrow
  obtain rfl : u = name := (isNamed_iff he).mp hnames
  refine ⟨(hadmits _ _ _).mp hpermits.admitted, ?_⟩
  intro hown
  have hnot := hpermits.notOwn _ he.excluded
  rw [(isNamed_iff he).mpr hown] at hnot
  simp at hnot

/-- A batch that was planned is one for a subject named by a text: the condition could be written. -/
theorem subject_of_planned {dialect : Dialect} {hasEngine : Bool} {config given : Option Config} {sys sys' : System}
    {r : Batch.Request} (hs : Names s user) (haction : r.action = .text "edit_role") (htype : r.type = .text "User")
    (hplanned : Batch.planUpdate (evaluator dialect hasEngine config).toEvaluator given s r sys = (.ok b, sys')) :
    s = ⟨.text "User", .text user⟩ := by
  obtain ⟨_, _, _, _, c, hcompiled⟩ := Batch.compiled_of_planUpdate hplanned
  obtain ⟨sql, hsql⟩ := hcompiled.text
  have hcondition := hcompiled.condition
  rw [haction, htype] at hcondition
  exact eq_text_of_forColumn hs (actorLiteral_mem_of_editRole hs hcondition) hsql

theorem run_editRoles {dialect : Dialect} {hasEngine : Bool} {config : Option Config} {given : Config}
    (h : db.Meets schemas) (he : EditsRoles b user updates)
    (hcompiled : Batch.Compiled (evaluator dialect hasEngine config) given ⟨.text "User", .text user⟩
      (roleEdit (Service.updatesData updates)) b c)
    (hroles : ∀ entry ∈ updates, entry.2 ∈ organizationRoles)
    (hrun : b.statement.run db = .ok (b.targets.length, made)) :
    made.Meets schemas ∧
      (∀ entry ∈ updates, (Deed.editRole entry.1).Allowed db user ∧ entry.1 ≠ user) ∧
      (∀ u o r, HasUser made u o r ↔
        (u, r) ∈ updates ∧ IsMember db u o ∨ HasUser db u o r ∧ ∀ r', (u, r') ∉ updates) ∧
      Untouched [organizations, documents, documentUserRoles] db made := by
  have htable := table?_edited he h
  obtain ⟨_, _, happly⟩ := (Batch.run_eq_ok_iff htable).mp hrun
  have hcount := Batch.eq_counted_of_apply htable happly
  have hall : b.AllPermitted db (db.rows users.name) :=
    ((Batch.counted_eq_iff (isPlain_targets he) (distinct_users he h)).mp hcount.symm).permitted
  rw [apply_edited he] at happly
  obtain ⟨hreplaced, hmeets⟩ := h.update names_nodup (by decide : users ∈ schemas) happly
  exact ⟨hmeets fun row hrow hreached => (accepts_updatedByChoice he h hall hroles hrow hreached).1,
    allowed_of_allPermitted he h (fun _ _ _ => admits_iff_allowed h he.mapping hcompiled) hall,
    fun u o r => hasUser_iff_of_replaced he h hall hreplaced, untouched_of_replaced hreplaced (by decide)⟩

end RowGuard.Records
