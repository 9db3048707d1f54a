import RowGuard.Proofs.Session.Run

/-!
# What a scope does

A connection that nothing has gone wrong with (`Link.Usable`) answers a statement by running it on what it
sees (`Link.execute_reading`). A scope on a connection of its own leaves the system as the operation made it,
with the connection and scope from before, and reports a fault of the database under the operation's name
(`within_engine_apply`).
-/

namespace RowGuard

/-- The connections in use beside one that an operation gets for itself. -/
def System.others (sys : System) : List Link := sys.link.toList ++ sys.lent

namespace Link

variable {α : Type} {l : Link} {disk : Database} {others : List Link} {st : Statement α}

/-- Nothing has gone wrong with the connection. -/
structure Usable (l : Link) : Prop where
  sound : l.health = .sound
  running : l.stage = .running

theorem usable_new : (({} : Link)).Usable := ⟨rfl, rfl⟩

/-- What a usable connection sees: what its transaction has looked at, else what is stored. -/
theorem Usable.view_eq (h : l.Usable) : l.view disk = (l.transaction.bind (·.view)).getD disk := by
  unfold view inTransaction
  rw [h.running]
  cases l.transaction <;> rfl

theorem Usable.touch_eq (h : l.Usable) : l.touch = (.ok (), l) := by
  unfold touch
  rw [h.sound]

/-- A statement that only reads answers what it says of the database seen, and the connection stays
usable. -/
theorem execute_reading (h : l.Usable) (hrefused : st.refused = none) (hwrites : st.writes = false) :
    (l.execute disk others st).1 = (st.run (l.view disk)).map (·.1) ∧
      (l.execute disk others st).2.Usable := by
  have hseen : ((l.transaction.getD {}).view).getD disk = l.view disk := by
    rw [h.view_eq]
    cases l.transaction <;> rfl
  unfold execute
  rw [h.touch_eq, hrefused]
  simp only [h.running, hwrites, Bool.false_and, Bool.not_false, Bool.or_true, Bool.true_or,
    Bool.false_eq_true, if_false, hseen]
  cases st.run (l.view disk) with
  | error f => exact ⟨rfl, h.sound, rfl⟩
  | ok outcome => exact ⟨rfl, h.sound, rfl⟩

end Link

namespace Scope

variable {α : Type} {operation : String} {body : Sys α} {sys sys' : System}

/-- How an operation's outcome reaches the caller: a fault of the database is one of the operation. -/
def report (operation : String) : Except Fault α → Except Fault α
  | .ok a => .ok a
  | .error f => .error (if f.isSql then .dataAccess operation else f)

/-- The state in which a scope's operation begins on a connection. -/
def opened (sys : System) (l : Link) (lent : List Link) (operation : String) : System :=
  { sys with link := some l, lent, scope := some { operation } }

/-- The record of an operation's failure. -/
def failure (operation : String) : Record := ⟨.error, .dataAccess, "Data access failed during " ++ operation⟩

/-- What is logged about a fault that an operation reports. -/
def blame (operation : String) (f : Fault) : List Record := if f.isSql then [failure operation] else []

theorem fail_apply :
    (fail operation : Sys α) sys =
      (.error (.dataAccess operation), { sys with journal := failure operation :: sys.journal }) := rfl

/-- A fault is raised as it is reported, after it was logged if it is one of the database. -/
theorem raise_apply (operation : String) (f : Fault) (sys : System) :
    (if f.isSql then fail operation else throw f : Sys α) sys =
      (report operation (.error f), { sys with journal := blame operation f ++ sys.journal }) := by
  cases hsql : f.isSql with
  | false => simp [report, blame, hsql]
  | true => simp [report, blame, hsql, fail_apply]

/-- The scope's own transaction, if it has one, is outermost. -/
def OwnsOutermost (sys : System) : Prop :=
  ∃ scope, sys.scope = some scope ∧ (scope.handle = none ∨ scope.handle = some .outermost)

theorem current_of_some {scope : Scope} (hscope : sys.scope = some scope) :
    current sys = (.ok scope, sys) := by
  unfold current
  simp [hscope]

theorem requireHandle_of_some {scope : Scope} {h : Handle} (hscope : sys.scope = some scope)
    (hhandle : scope.handle = some h) : requireHandle sys = (.ok h, sys) := by
  unfold requireHandle
  rw [Sys.bind_of_ok (current_of_some hscope)]
  simp [hhandle]

theorem commitHere_apply {l : Link} (hlink : sys.link = some l) (h : Handle) :
    Sys.commitHere h sys =
      ((l.commit sys.disk sys.lent h).1.mapError .sql,
        { sys with
          disk := (l.commit sys.disk sys.lent h).2.2,
          link := some (l.commit sys.disk sys.lent h).2.1 }) := by
  rw [Sys.commitHere, Sys.bind_of_ok (Sys.currentLink_of_some hlink)]
  simp [Sys.settle]

theorem rollbackHere_apply {l : Link} (hlink : sys.link = some l) (h : Handle) :
    Sys.rollbackHere h sys =
      ((l.rollback h).1.mapError .sql, { sys with link := some (l.rollback h).2 }) := by
  rw [Sys.rollbackHere, Sys.bind_of_ok (Sys.currentLink_of_some hlink)]
  simp [Sys.settle]

theorem inTransaction_apply {scope : Scope} {l : Link} (hscope : sys.scope = some scope)
    (hlink : sys.link = some l) :
    inTransaction sys = (.ok ((scope.handle.map l.isAlive).getD false), sys) := by
  unfold inTransaction
  simp only [Sys.get_bind_apply, hscope, hlink, Option.bind_some]
  cases scope.handle <;> rfl

theorem setHandle_apply {scope : Scope} (hscope : sys.scope = some scope) (h : Option Handle) :
    setHandle h sys = (.ok (), { sys with scope := some { scope with handle := h } }) := by
  unfold setHandle
  rw [Sys.modify_apply, hscope]
  rfl

theorem rollbackOpen_of_ended {scope : Scope} {l : Link} (hscope : sys.scope = some scope)
    (hlink : sys.link = some l)
    (hended : (scope.handle.map l.isAlive).getD false = false) : rollbackOpen sys = (.ok (), sys) := by
  unfold rollbackOpen
  rw [Sys.bind_of_ok (inTransaction_apply hscope hlink), hended]
  rfl

theorem rollbackOpen_of_alive {l : Link} {h : Handle}
    (hscope : sys.scope = some { operation, handle := some h })
    (hlink : sys.link = some l) (halive : l.isAlive h = true) :
    rollbackOpen sys = ((l.rollback h).1.mapError .sql,
      { sys with link := some (l.rollback h).2, scope := some { operation } }) := by
  have hopen : inTransaction sys = (.ok true, sys) := by
    rw [inTransaction_apply hscope hlink]
    simp [halive]
  have hlink' : ({ sys with scope := some { operation } } : System).link = some l := hlink
  unfold rollbackOpen
  rw [Sys.bind_of_ok hopen, if_pos rfl, Sys.bind_of_ok (requireHandle_of_some hscope rfl),
    Sys.bind_of_ok (setHandle_apply hscope none), rollbackHere_apply hlink']

/-- Rolling back the outermost transaction of a connection that is sound succeeds. -/
theorem rollback_outermost {l : Link} (hl : l.health = .sound) :
    (l.rollback .outermost).1 = .ok () ∧ (l.rollback .outermost).2.health = .sound := by
  unfold Link.rollback
  cases hstage : l.stage <;> simp [hl, Link.cleared]

/-- A scope that is left on a sound connection rolls back without a fault, and only the connection and
the scope change by it. -/
theorem rollbackOpen_apply {l : Link} (hlink : sys.link = some l) (hl : l.health = .sound)
    (howns : OwnsOutermost sys) :
    ∃ l' scope, l'.health = .sound ∧
      rollbackOpen sys = (.ok (), { sys with link := some l', scope }) := by
  obtain ⟨⟨operation, handle⟩, hscope, hhandle⟩ := howns
  have hkept : ({ sys with link := some l, scope := some ⟨operation, handle⟩ } : System) = sys := by
    rw [← hlink, ← hscope]
  cases hended : (handle.map l.isAlive).getD false with
  | false =>
    refine ⟨l, some ⟨operation, handle⟩, hl, ?_⟩
    rw [hkept]
    exact rollbackOpen_of_ended hscope hlink hended
  | true =>
    rcases hhandle with rfl | rfl
    · simp at hended
    · obtain ⟨hok, hsound⟩ := rollback_outermost hl
      refine ⟨(l.rollback .outermost).2, some { operation }, hsound, ?_⟩
      rw [rollbackOpen_of_alive hscope hlink (by simpa using hended), hok]
      rfl

theorem rollbackAll_apply {l : Link} (hlink : sys.link = some l) (hl : l.health = .sound) :
    ∃ l', l'.health = .sound ∧ rollbackAll sys = (.ok (), { sys with link := some l' }) := by
  unfold rollbackAll
  rw [Sys.bind_of_ok (Sys.currentLink_of_some hlink)]
  cases l.inTransaction with
  | false => exact ⟨l, hl, by rw [← hlink]; rfl⟩
  | true =>
    obtain ⟨hok, hsound⟩ := rollback_outermost hl
    refine ⟨_, hsound, ?_⟩
    show Sys.rollbackHere .outermost sys = _
    rw [rollbackHere_apply hlink, hok]
    rfl

/-- What is done when a scope on a connection of its own is left. -/
def closing : Sys Unit := do
  let outcome ← Sys.attempt rollbackOpen
  rollbackAll
  Sys.ofExcept outcome

theorem closing_apply {l : Link} (hlink : sys.link = some l) (hl : l.health = .sound)
    (howns : OwnsOutermost sys) :
    ∃ l' scope, closing sys = (.ok (), { sys with link := l', scope }) := by
  obtain ⟨l₁, scope, hl₁, hopen⟩ := rollbackOpen_apply hlink hl howns
  have hlink₁ : ({ sys with link := some l₁, scope } : System).link = some l₁ := rfl
  obtain ⟨l₂, _, hall⟩ := rollbackAll_apply hlink₁ hl₁
  refine ⟨some l₂, scope, ?_⟩
  unfold closing
  rw [Sys.attempt_bind_apply, hopen, Sys.bind_of_ok hall]
  rfl

/-- A scope that cleans up without a fault is left by what it reports of its operation's fault. -/
theorem leave_error {cleanup : Sys Unit} (hcleanup : cleanup sys = (.ok (), sys')) (operation : String) (f : Fault) :
    (leave operation cleanup (.error f) sys : Except Fault α × System) =
      (report operation (.error f), { sys' with journal := blame operation f ++ sys'.journal }) := by
  unfold leave
  rw [Sys.attempt_bind_apply, hcleanup]
  exact raise_apply operation f sys'

/-- A scope that cleans up without a fault ends as its operation did. -/
theorem leave_apply {cleanup : Sys Unit} (hcleanup : cleanup sys = (.ok (), sys'))
    (operation : String) (outcome : Except Fault α) :
    ∃ journal, leave operation cleanup outcome sys =
      (report operation outcome, { sys' with journal }) := by
  cases outcome with
  | ok a =>
    unfold leave
    rw [Sys.attempt_bind_apply, hcleanup]
    exact ⟨_, rfl⟩
  | error f => exact ⟨_, leave_error hcleanup operation f⟩

theorem held_apply {cleanup : Sys Unit} :
    held operation cleanup body sys =
      ((leave operation cleanup (body { sys with scope := some { operation } }).1
          (body { sys with scope := some { operation } }).2).1,
        { (leave operation cleanup (body { sys with scope := some { operation } }).1
          (body { sys with scope := some { operation } }).2).2 with scope := sys.scope }) := rfl

/-- A scope on a connection of its own ends as its operation did. Only what the operation did to the rest
of the system stays. -/
theorem within_engine_apply {outcome : Except Fault α} {l : Link}
    (hbody : body (opened sys {} (sys.link.toList ++ sys.lent) operation) = (outcome, sys'))
    (hlink : sys'.link = some l) (hl : l.health = .sound) (howns : OwnsOutermost sys') :
    ∃ journal, within (.engine true) operation body sys = (report operation outcome,
      { sys' with link := sys.link, lent := sys.lent, scope := sys.scope, journal }) := by
  obtain ⟨l', scope, hclosing⟩ := closing_apply hlink hl howns
  obtain ⟨journal, hleave⟩ := leave_apply hclosing operation outcome
  refine ⟨journal, ?_⟩
  unfold opened at hbody
  show Sys.onLink {} (held operation closing body) sys = _
  rw [Sys.onLink_apply, held_apply, hbody, hleave]

/-- A scope on a lent connection ends as its operation did. -/
theorem within_connection_apply {outcome : Except Fault α} {l : Link}
    (hbody : body { sys with scope := some { operation } } = (outcome, sys'))
    (hlink : sys'.link = some l) (hl : l.health = .sound) (howns : OwnsOutermost sys') :
    ∃ link journal, within .connection operation body sys =
      (report operation outcome, { sys' with link, scope := sys.scope, journal }) := by
  obtain ⟨l', scope, _, hopen⟩ := rollbackOpen_apply hlink hl howns
  obtain ⟨journal, hleave⟩ := leave_apply hopen operation outcome
  refine ⟨some l', journal, ?_⟩
  show held operation rollbackOpen body sys = _
  rw [held_apply, hbody, hleave]

/-- A scope that gives a value gives the one that its operation gave. -/
theorem eq_ok_of_leave {cleanup : Sys Unit} {outcome : Except Fault α} {a : α}
    (h : (leave operation cleanup outcome sys).1 = .ok a) : outcome = .ok a := by
  unfold leave at h
  rw [Sys.attempt_bind_apply] at h
  generalize (cleanup sys).1 = cleaned at h
  cases outcome with
  | ok b =>
    cases cleaned with
    | error _ => cases h
    | ok _ => exact h
  | error f =>
    -- a fault is raised again, or reported as the failure of the operation
    cases hsql : f.isSql <;> cases cleaned <;> simp only [hsql] at h <;> cases h

theorem exists_of_within_ok {bind : Bind} {a : α} (h : (within bind operation body sys).1 = .ok a) :
    ∃ start, (body start).1 = .ok a := by
  cases bind with
  | engine reachable =>
    cases reachable with
    | false => cases h
    | true => exact ⟨_, eq_ok_of_leave h⟩
  | connection => exact ⟨_, eq_ok_of_leave h⟩

/-- What one operation has reported, the others let pass. -/
theorem report_report (other operation : String) (outcome : Except Fault α) :
    report other (report operation outcome) = report operation outcome := by
  cases outcome with
  | ok a => rfl
  | error f => cases f <;> rfl

section Reporting

variable {l l' : Link} {st : Link.Statement α} {outcome : Except Fault α}

theorem reporting_error {f : Fault} (hbody : body sys = (.error f, sys')) (operation : String) :
    reporting operation body sys =
      (report operation (.error f), { sys' with journal := blame operation f ++ sys'.journal }) := by
  unfold reporting Sys.handling
  simp only [hbody]
  exact raise_apply operation f sys'

/-- Reporting turns a fault of the database into one of the operation. -/
theorem reporting_apply (hbody : body sys = (outcome, sys')) :
    ∃ journal, reporting operation body sys =
      (report operation outcome, { sys' with journal }) := by
  cases outcome with
  | ok a =>
    unfold reporting Sys.handling
    simp only [hbody]
    exact ⟨_, rfl⟩
  | error f => exact ⟨_, reporting_error hbody operation⟩

/-- A statement of a scope ends as it does on the connection. -/
theorem execute_apply {scope : Scope} (hlink : sys.link = some l) (hscope : sys.scope = some scope)
    (hexecute : l.execute sys.disk sys.lent st = (outcome, l')) :
    ∃ journal, execute st sys =
      (report scope.operation outcome, { sys with link := some l', journal }) := by
  have hhere : Sys.execute st sys = (outcome, { sys with link := some l' }) := by
    rw [Sys.execute_of_some hlink, hexecute]
  unfold execute
  rw [Sys.bind_of_ok (current_of_some hscope)]
  exact reporting_apply hhere

end Reporting

/-! ## Reading in a scope -/

section Reading

variable {st : Link.Statement α} {a : α} {db db' : Database}

theorem execute_reading_apply {l : Link} (hlink : sys.link = some l) (hl : l.Usable)
    (hrefused : st.refused = none) (hwrites : st.writes = false)
    (hrun : st.run (l.view sys.disk) = .ok (a, db')) :
    ∃ l', l'.Usable ∧ Sys.execute st sys = (.ok a, { sys with link := some l' }) := by
  obtain ⟨houtcome, husable⟩ := Link.execute_reading hl hrefused hwrites
  refine ⟨_, husable, ?_⟩
  rw [Sys.execute_of_some hlink, houtcome, hrun]
  rfl

/-- An operation that gives a value gives it in a scope as well. -/
theorem execute_of_ok (hscope : ∃ scope, sys.scope = some scope)
    (h : Sys.execute st sys = (.ok a, sys')) : execute st sys = (.ok a, sys') := by
  obtain ⟨scope, hscope⟩ := hscope
  unfold execute
  rw [Sys.bind_of_ok (current_of_some hscope)]
  unfold reporting Sys.handling
  simp only [h]

end Reading

end Scope

/-- The database that an operation sees on the connection it is given. -/
def Bind.Sees (bind : Bind) (sys : System) (db : Database) : Prop :=
  match bind with
  | .engine reachable => reachable = true ∧ sys.disk = db
  | .connection => ∃ l, sys.link = some l ∧ l.Usable ∧ l.view sys.disk = db

namespace Scope

variable {α : Type} {sys : System} {bind : Bind} {st : Link.Statement α} {db : Database}

/-- A statement that only reads comes in a scope to what it says of the database seen there. -/
theorem within_execute_reading (hbind : bind.Sees sys db) (hrefused : st.refused = none)
    (hwrites : st.writes = false) (operation : String) :
    (within bind operation (execute st) sys).1 = report operation ((st.run db).map (·.1)) := by
  cases bind with
  | engine reachable =>
    obtain ⟨rfl, rfl⟩ := hbind
    have hopened : (opened sys {} (sys.link.toList ++ sys.lent) operation).link = some {} := rfl
    obtain ⟨houtcome, husable⟩ := @Link.execute_reading α {} sys.disk
      (sys.link.toList ++ sys.lent) st Link.usable_new hrefused hwrites
    obtain ⟨_, hexecute⟩ := execute_apply hopened rfl (Prod.ext houtcome rfl)
    obtain ⟨_, hwithin⟩ := within_engine_apply hexecute rfl husable.sound ⟨_, rfl, .inl rfl⟩
    rw [hwithin, report_report]
    rfl
  | connection =>
    obtain ⟨l, hlink, hl, rfl⟩ := hbind
    have hopened : ({ sys with scope := some { operation } } : System).link = some l := hlink
    obtain ⟨houtcome, husable⟩ := @Link.execute_reading α l sys.disk sys.lent st hl hrefused hwrites
    obtain ⟨_, hexecute⟩ := execute_apply hopened rfl (Prod.ext houtcome rfl)
    obtain ⟨_, _, hwithin⟩ := within_connection_apply hexecute rfl husable.sound ⟨_, rfl, .inl rfl⟩
    rw [hwithin, report_report]
    rfl

end Scope

end RowGuard
