import RowGuard.Proofs.Session.Inside

/-!
# The outermost transaction

On a connection that is idle, what is begun is the outermost transaction. Its commit stores what it has made,
unless something stands in the way (`Link.canCommit`); then the connection is of no use until it is rolled
back (`Link.Resting`). A scope that is left in the transaction gives it up, and one that is left
after a commit or a rollback leaves the connection as it is (`Scope.within_engine_of_ends`,
`Scope.within_connection_of_ends`).
-/

namespace RowGuard

namespace Link

variable {α : Type} {l : Link} {disk : Database} {others : List Link} {st : Statement α}

/-- No transaction has been begun on the connection, or it has ended. -/
structure Idle (l : Link) : Prop where
  ended : l.transaction = none
  running : l.stage = .running

theorem idle_new : (({} : Link)).Idle := ⟨rfl, rfl⟩

theorem Idle.inTransaction_eq (h : l.Idle) : l.inTransaction = false := by
  unfold inTransaction
  rw [h.ended]
  rfl

/-- An idle connection sees what is stored. -/
theorem Idle.view_eq (h : l.Idle) : l.view disk = disk := by
  unfold view
  rw [h.inTransaction_eq]
  rfl

/-- No transaction is in progress on the connection: it is idle, or a commit has failed on it. -/
inductive Resting (l : Link) : Prop
  | idle (h : l.Idle)
  | failed (h : l.stage = .failed)

theorem Resting.inTransaction_eq (h : l.Resting) : l.inTransaction = false := by
  cases h with
  | idle h => exact h.inTransaction_eq
  | failed h => simp [inTransaction, h]

/-- A connection at rest begins a new transaction, unless it cannot be used. -/
theorem Resting.begin_cases (h : l.Resting) :
    l.begin = (.ok .outermost, begun) ∨ ∃ e l', l.begin = (.error e, l') ∧ l'.Resting := by
  obtain ⟨health, transaction, stage⟩ := l
  cases h with
  | failed h =>
    obtain rfl : stage = .failed := h
    exact .inr ⟨_, _, rfl, .failed rfl⟩
  | idle h =>
    obtain ⟨rfl, rfl⟩ := h
    cases health with
    | sound => exact .inl rfl
    | broken => exact .inr ⟨_, _, rfl, .idle ⟨rfl, rfl⟩⟩
    | lost => exact .inl rfl
    | closed => exact .inr ⟨_, _, rfl, .idle ⟨rfl, rfl⟩⟩

/-- Rolling back the outermost transaction leaves the connection idle, even where it finds out that the
connection is broken. -/
theorem idle_rollback (h : l.inTransaction = true) : (l.rollback .outermost).2.Idle := by
  unfold rollback
  rw [(inTransaction_iff.mp h).2]
  dsimp only
  split <;> exact ⟨rfl, rfl⟩

theorem InProgress.rollback_eq (h : l.InProgress) : l.rollback .outermost = (.ok (), {}) := by
  unfold rollback
  rw [h.usable.running, h.usable.sound]
  simp [cleared, h.usable.sound]

/-- Whether the outermost transaction can be committed beside other connections: its connection is intact,
references whose check was put off lead somewhere, and if it has changed the database, no other
connection relies on that as it was. -/
def canCommit (l : Link) (disk : Database) (others : List Link) : Bool :=
  l.health == .sound && (!(l.transaction.any (·.deferred)) || (l.view disk).isConsistent) &&
    !(l.isWriting && others.any isReading)

/-- What a statement that writes has made can be committed unless another connection relies on what it has
seen. -/
theorem HasMade.canCommit_eq {made : Database} (h : l.HasMade made) :
    l.canCommit disk others = !others.any isReading := by
  unfold canCommit isWriting
  rw [h.usable.sound, h.transaction]
  rfl

/-- A commit stores what the transaction has made, and leaves the connection as good as new. -/
theorem commit_of_canCommit (h : l.inTransaction = true) (hcan : l.canCommit disk others = true) :
    l.commit disk others .outermost = (.ok (), {}, l.view disk) := by
  obtain ⟨hopen, hrunning⟩ := inTransaction_iff.mp h
  simp only [canCommit, Bool.and_eq_true, beq_iff_eq, Bool.not_eq_true'] at hcan
  obtain ⟨⟨hsound, hchecked⟩, hunread⟩ := hcan
  have hdeferred : ((l.transaction.map (·.deferred)).getD false && !(l.view disk).isConsistent) =
      false := by
    rw [Bool.or_eq_true] at hchecked
    cases ht : l.transaction with
    | none => rfl
    | some t =>
      rw [ht] at hchecked
      rcases hchecked with hnow | hconsistent
      · simp_all
      · simp [hconsistent]
  unfold commit
  rw [isAlive_outermost h, (Usable.mk hsound hrunning).touch_eq]
  simp only [Bool.not_true, Bool.false_eq_true, if_false, hdeferred, hunread, hsound, hrunning]

/-- A commit that cannot be made stores nothing, and the connection waits to be rolled back. -/
theorem commit_of_not_canCommit (h : l.inTransaction = true) (hcannot : l.canCommit disk others = false) :
    ∃ e l', l.commit disk others .outermost = (.error e, l', disk) ∧ l'.stage = .failed := by
  obtain ⟨hopen, hrunning⟩ := inTransaction_iff.mp h
  unfold commit
  rw [isAlive_outermost h]
  simp only [Bool.not_true, Bool.false_eq_true, if_false]
  obtain ⟨touched, l', htouch⟩ : ∃ outcome l', l.touch = (outcome, l') := ⟨_, _, rfl⟩
  cases touched with
  | error e =>
    rw [htouch]
    exact ⟨e, _, rfl, rfl⟩
  | ok _ =>
    -- the connection is intact, so one of the two tests that follow fails
    have hsound : l.health = .sound := by
      unfold touch at htouch
      cases hhealth : l.health with
      | sound => rfl
      | _ => simp_all
    rw [(Usable.mk hsound hrunning).touch_eq]
    dsimp only
    split
    case isTrue => exact ⟨_, _, rfl, rfl⟩
    case isFalse hchecked =>
      split
      case isTrue => exact ⟨_, _, rfl, rfl⟩
      case isFalse hunread =>
        refine absurd hcannot ?_
        rw [Bool.not_eq_false]
        simp only [canCommit, hsound, beq_self_eq_true, Bool.true_and, Bool.and_eq_true,
          Bool.not_eq_true', Bool.or_eq_true]
        refine ⟨?_, by simpa using hunread⟩
        cases ht : l.transaction with
        | none => exact .inl rfl
        | some t =>
          rw [ht] at hchecked
          cases hdeferred : t.deferred <;> simp_all

/-- A first use changes at most what is known of the connection's health. -/
theorem touch_eq (l : Link) : ∃ outcome health, l.touch = (outcome, { l with health }) := by
  unfold touch
  cases l.health with
  | lost => cases l.transaction.isSome <;> exact ⟨_, _, rfl⟩
  | _ => exact ⟨_, _, rfl⟩

/-- A statement that gives an answer has made of what its connection saw what it says. -/
theorem run_of_execute {a : α} {l' : Link} (h : l.execute disk others st = (.ok a, l')) :
    st.run (l.view disk) = .ok (a, l'.view disk) := by
  obtain ⟨touched, health, htouch⟩ := l.touch_eq
  obtain ⟨found, transaction, stage⟩ := l
  unfold execute at h
  rw [htouch] at h
  cases touched with
  | error e => simp at h
  | ok _ =>
    cases hrefused : st.refused with
    | some e => simp [hrefused] at h
    | none =>
      cases stage with
      | failed => simp [hrefused] at h
      | abandoned => simp [hrefused] at h
      | running =>
        have hseen : view ⟨found, transaction, .running⟩ disk = (transaction.getD {}).view.getD disk := by
          cases transaction <;> rfl
        rw [hseen]
        simp only [hrefused] at h
        split at h
        case isTrue => simp at h
        case isFalse =>
          cases hrun : st.run ((transaction.getD {}).view.getD disk) with
          | error f => simp [hrun] at h
          | ok outcome =>
            simp only [hrun] at h
            split at h
            case isTrue =>
              obtain ⟨hanswer, rfl⟩ := Prod.mk.inj h
              obtain rfl := Except.ok.inj hanswer
              rfl
            case isFalse => simp at h

end Link

/-- The database as the connection in use sees it. -/
def System.seen (sys : System) : Database := (sys.link.map (·.view sys.disk)).getD sys.disk

/-- Whether what has been made on the connection in use can be committed. -/
def System.canCommit (sys : System) : Bool := sys.link.any (·.canCommit sys.disk sys.lent)

theorem System.seen_of_some {sys : System} {l : Link} (h : sys.link = some l) :
    sys.seen = l.view sys.disk := by
  unfold seen
  rw [h]
  rfl

/-- A statement that gives an answer has made of what was seen what it says. -/
theorem Sys.run_of_execute {α : Type} {st : Link.Statement α} {sys sys' : System} {a : α}
    (h : Sys.execute st sys = (.ok a, sys')) : st.run sys.seen = .ok (a, sys'.seen) := by
  cases hlink : sys.link with
  | none =>
    unfold Sys.execute Sys.currentLink at h
    simp only [hlink, bind_assoc, Sys.get_bind_apply] at h
    exact absurd (congrArg Prod.fst h) (by simp)
  | some l =>
    rw [Sys.execute_of_some hlink, Prod.mk.injEq] at h
    obtain ⟨hanswer, rfl⟩ := h
    rw [System.seen_of_some hlink, System.seen_of_some rfl]
    exact Link.run_of_execute (Prod.ext hanswer rfl)

theorem System.canCommit_of_some {sys : System} {l : Link} (h : sys.link = some l) :
    sys.canCommit = l.canCommit sys.disk sys.lent := by
  unfold canCommit
  rw [h]
  rfl

namespace Scope

variable {α : Type} {operation : String} {sys sys' : System} {l : Link}

/-- The system when a scope has begun the outermost transaction on its connection. -/
def started (operation : String) (sys : System) : System :=
  { sys with link := some Link.begun, scope := some { operation, handle := some .outermost } }

/-- The transaction that a scope has begun on a system goes on. -/
def GoesOn (operation : String) (sys sys' : System) : Prop :=
  System.Amid sys.disk sys.lent (some { operation, handle := some .outermost }) sys'

theorem goesOn_started (operation : String) (sys : System) :
    GoesOn operation sys (started operation sys) :=
  ⟨rfl, rfl, rfl, _, rfl, rfl⟩

/-- An operation that stays inside the transaction lets it go on. -/
theorem GoesOn.after {x : Sys α} (h : GoesOn operation sys sys') (hx : x.StaysInside) :
    GoesOn operation sys (x sys').2 :=
  hx _ _ _ _ h

/-! ## Ending the outermost transaction -/

/-- A transaction is begun on a connection that has none. -/
theorem begin_apply (hscope : sys.scope = some { operation }) (hlink : sys.link = some {}) :
    begin sys = (.ok (), started operation sys) :=
  begin_of_ok hscope hlink rfl rfl

/-- A scope begins the outermost transaction on a connection at rest, unless the connection cannot be used. -/
theorem begin_of_resting (hscope : sys.scope = some { operation }) (hlink : sys.link = some l)
    (hl : l.Resting) :
    begin sys = (.ok (), started operation sys) ∨
      ∃ l' journal, begin sys = (.error (.dataAccess operation), { sys with link := some l', journal }) ∧
        l'.Resting := by
  rcases hl.begin_cases with hbegin | ⟨e, l', hbegin, hl'⟩
  · exact .inl (begin_of_ok hscope hlink rfl hbegin)
  · obtain ⟨journal, hfailed⟩ := begin_of_error hscope hlink rfl hbegin
    exact .inr ⟨l', journal, hfailed, hl'⟩

/-- Rolling back leaves an intact connection as good as new. -/
theorem rollback_outermost_apply (hscope : sys.scope = some { operation, handle := some .outermost })
    (hlink : sys.link = some l) (hl : l.InProgress) :
    ∃ journal, rollback sys = (.ok (), { sys with link := some {}, scope := some { operation }, journal }) := by
  have hlink' : ({ sys with scope := some { operation } } : System).link = some l := hlink
  obtain ⟨journal, hending⟩ := ending_apply hscope (rollbackHere_apply hlink' .outermost)
  refine ⟨journal, ?_⟩
  unfold rollback
  rw [hending, hl.rollback_eq]
  rfl

/-- Committing stores what was made and leaves the connection as good as new, or stores nothing. -/
theorem commit_outermost_apply (hscope : sys.scope = some { operation, handle := some .outermost })
    (hlink : sys.link = some l) (hl : l.inTransaction = true) :
    ∃ l' journal, commit sys =
        (if sys.canCommit then .ok () else .error (.dataAccess operation), { sys with
          disk := if sys.canCommit then sys.seen else sys.disk,
          link := some l', scope := some { operation }, journal }) ∧
      if sys.canCommit then l' = {} else l'.stage = .failed := by
  have hlink' : ({ sys with scope := some { operation } } : System).link = some l := hlink
  rw [System.canCommit_of_some hlink, System.seen_of_some hlink]
  have hhere := commitHere_apply hlink' .outermost
  cases hcan : l.canCommit sys.disk sys.lent with
  | true =>
    rw [Link.commit_of_canCommit hl hcan] at hhere
    obtain ⟨journal, hending⟩ := ending_apply hscope hhere
    exact ⟨_, journal, hending, rfl⟩
  | false =>
    obtain ⟨e, l', hcommit, hfailed⟩ := Link.commit_of_not_canCommit hl hcan
    rw [hcommit] at hhere
    obtain ⟨journal, hending⟩ := ending_apply hscope hhere
    exact ⟨l', journal, hending, hfailed⟩

/-! ## Leaving the scope -/

/-- A scope whose transaction is in progress, or has ended, so that the connection is idle unless its
commit failed. -/
inductive Settled (sys : System) : Prop
  | inProgress {operation : String} {l : Link}
      (hscope : sys.scope = some { operation, handle := some .outermost }) (hlink : sys.link = some l)
      (hopen : l.inTransaction = true)
  | ended {operation : String} {l : Link} (hscope : sys.scope = some { operation })
      (hlink : sys.link = some l) (hl : l.Resting)

/-- What the scope's operation has made of the outermost transaction that was begun for it: its outcome, and
what is stored. An operation that gives a value has ended the transaction and left the connection idle. -/
structure Ends (operation : String) (sys : System) (body : Sys α) (outcome : Except Fault α)
    (stored : Database) : Prop where
  result : (body (started operation sys)).1 = outcome
  disk : (body (started operation sys)).2.disk = stored
  lent : (body (started operation sys)).2.lent = sys.lent
  settled : Settled (body (started operation sys)).2
  ended : ∀ a, outcome = .ok a → (body (started operation sys)).2.scope = some { operation } ∧
    ∃ l, (body (started operation sys)).2.link = some l ∧ l.Idle

namespace Ends

variable {body : Sys α} {outcome : Except Fault α} {stored : Database}

theorem of_run (hrun : body (started operation sys) = (outcome, sys')) (hdisk : sys'.disk = stored)
    (hlent : sys'.lent = sys.lent) (hsettled : Settled sys')
    (hended : ∀ a, outcome = .ok a → sys'.scope = some { operation } ∧ ∃ l, sys'.link = some l ∧ l.Idle) :
    Ends operation sys body outcome stored where
  result := congrArg Prod.fst hrun
  disk := (congrArg (·.2.disk) hrun).trans hdisk
  lent := (congrArg (·.2.lent) hrun).trans hlent
  settled := by rwa [hrun]
  ended := by rwa [hrun]

/-- An operation that is stopped by a fault while the transaction goes on. -/
theorem of_stopped {f : Fault} (hrun : body (started operation sys) = (.error f, sys'))
    (hsys' : GoesOn operation sys sys') : Ends operation sys body (.error f) sys.disk := by
  obtain ⟨l, hlink, hopen⟩ := hsys'.link
  exact of_run hrun hsys'.disk hsys'.lent (.inProgress hsys'.scope hlink hopen) (by simp)

/-- An operation that rolls back on an intact connection, and then stops. -/
theorem of_refused {f : Fault} {refuse : Sys α}
    (hrun : body (started operation sys) = (do rollback; refuse) sys')
    (hrefuse : ∀ sys, ∃ journal, refuse sys = (.error f, { sys with journal }))
    (hsys' : GoesOn operation sys sys') (hlink : sys'.link = some l) (hl : l.InProgress) :
    Ends operation sys body (.error f) sys.disk := by
  obtain ⟨journal, hrollback⟩ := rollback_outermost_apply hsys'.scope hlink hl
  obtain ⟨journal', hstopped⟩ :=
    hrefuse { sys' with link := some {}, scope := some { operation }, journal }
  rw [Sys.bind_of_ok hrollback, hstopped] at hrun
  exact of_run hrun hsys'.disk hsys'.lent (.ended rfl rfl (.idle Link.idle_new)) (by simp)

/-- An operation that commits, and then gives a value. -/
theorem of_finished {a : α} (hrun : body (started operation sys) = (do commit; return a) sys')
    (hsys' : GoesOn operation sys sys') :
    Ends operation sys body (if sys'.canCommit then .ok a else .error (.dataAccess operation))
      (if sys'.canCommit then sys'.seen else sys.disk) := by
  obtain ⟨l, hlink, hopen⟩ := hsys'.link
  obtain ⟨l', journal, hcommit, hl'⟩ := commit_outermost_apply hsys'.scope hlink hopen
  cases hcan : sys'.canCommit with
  | false =>
    rw [hcan] at hcommit hl'
    rw [Sys.bind_of_error hcommit] at hrun
    exact of_run hrun hsys'.disk hsys'.lent (.ended rfl rfl (.failed hl')) (by simp)
  | true =>
    rw [hcan] at hcommit hl'
    obtain rfl : l' = {} := hl'
    rw [Sys.bind_of_ok hcommit] at hrun
    exact of_run hrun rfl hsys'.lent (.ended rfl rfl (.idle Link.idle_new))
      fun _ _ => ⟨rfl, _, rfl, Link.idle_new⟩

end Ends

theorem rollbackOpen_of_settled (h : Settled sys) :
    ∃ cleaned l scope, rollbackOpen sys = (cleaned, { sys with link := some l, scope }) ∧
      l.Resting ∧
      ∀ operation, sys.scope = some { operation } → cleaned = .ok () ∧ sys.link = some l := by
  cases h with
  | @inProgress operation l hscope hlink hopen =>
    have halive := Link.isAlive_outermost hopen
    refine ⟨_, _, _, rollbackOpen_of_alive hscope hlink halive, .idle (Link.idle_rollback hopen), ?_⟩
    intro other hother
    rw [hscope] at hother
    simp at hother
  | @ended operation l hscope hlink hl =>
    refine ⟨.ok (), l, sys.scope, ?_, hl, fun _ _ => ⟨rfl, hlink⟩⟩
    rw [← hlink]
    exact rollbackOpen_of_ended hscope hlink rfl

/-- Nothing is left to be rolled back on a connection without a transaction in progress. -/
theorem closing_of_settled (h : Settled sys) : closing sys = rollbackOpen sys := by
  obtain ⟨cleaned, l, scope, hopen, hl, _⟩ := rollbackOpen_of_settled h
  have hended := hl.inTransaction_eq
  have hall : rollbackAll { sys with link := some l, scope } = (.ok (), { sys with link := some l, scope }) := by
    unfold rollbackAll
    rw [Sys.bind_of_ok (Sys.currentLink_of_some rfl), hended]
    rfl
  unfold closing
  rw [Sys.attempt_bind_apply, hopen, Sys.bind_of_ok hall]
  exact Sys.ofExcept_apply cleaned

/-- A scope ends as its operation did, unless a value was given that cleaning up takes back. -/
theorem leave_of_cleaned {cleanup : Sys Unit} {cleaned : Except Fault Unit} {outcome : Except Fault α}
    (hcleanup : cleanup sys = (cleaned, sys')) (hok : ∀ a, outcome = .ok a → cleaned = .ok ())
    (operation : String) :
    ∃ journal, leave operation cleanup outcome sys = (report operation outcome, { sys' with journal }) := by
  cases cleaned with
  | ok _ => exact leave_apply hcleanup operation outcome
  | error _ =>
    unfold leave
    rw [Sys.attempt_bind_apply, hcleanup]
    cases outcome with
    | ok a => simp at hok
    | error f => exact ⟨_, raise_apply operation f _⟩

/-- The system as a scope on a lent connection leaves it after the outermost transaction. -/
theorem within_connection_of_settled {body : Sys α} {outcome : Except Fault α}
    (hbody : body { sys with scope := some { operation } } = (outcome, sys')) (hsettled : Settled sys')
    (hended : ∀ a, outcome = .ok a → sys'.scope = some { operation }) :
    ∃ l journal, within .connection operation body sys = (report operation outcome,
        { sys' with link := some l, scope := sys.scope, journal }) ∧
      l.Resting ∧ (sys'.scope = some { operation } → sys'.link = some l) := by
  obtain ⟨cleaned, l, scope, hopen, hl, hcleaned⟩ := rollbackOpen_of_settled hsettled
  obtain ⟨journal, hleave⟩ :=
    leave_of_cleaned hopen (fun a ha => (hcleaned operation (hended a ha)).1) operation
  refine ⟨l, journal, ?_, hl, fun hscope => (hcleaned operation hscope).2⟩
  show held operation rollbackOpen body sys = _
  rw [held_apply, hbody, hleave]

/-- The system as a scope on a connection of its own leaves it: the connection is gone. -/
theorem within_engine_of_settled {body : Sys α} {outcome : Except Fault α}
    (hbody : body (opened sys {} sys.others operation) = (outcome, sys'))
    (hsettled : Settled sys') (hended : ∀ a, outcome = .ok a → sys'.scope = some { operation }) :
    ∃ journal, within (.engine true) operation body sys = (report operation outcome,
      { sys' with link := sys.link, lent := sys.lent, scope := sys.scope, journal }) := by
  obtain ⟨cleaned, l, scope, hopen, hl, hcleaned⟩ := rollbackOpen_of_settled hsettled
  have hclosing := (closing_of_settled hsettled).trans hopen
  obtain ⟨journal, hleave⟩ :=
    leave_of_cleaned hclosing (fun a ha => (hcleaned operation (hended a ha)).1) operation
  refine ⟨journal, ?_⟩
  unfold opened System.others at hbody
  show Sys.onLink {} (held operation closing body) sys = _
  rw [Sys.onLink_apply, held_apply, hbody, hleave]

/-- What a scope on a connection of its own comes to depends on what its operation does there. -/
theorem within_engine_congr {body other : Sys α}
    (h : body (opened sys {} sys.others operation) =
      other (opened sys {} sys.others operation)) :
    within (.engine true) operation body sys = within (.engine true) operation other sys := by
  unfold opened System.others at h
  show Sys.onLink {} (held operation closing body) sys = Sys.onLink {} (held operation closing other) sys
  rw [Sys.onLink_apply, Sys.onLink_apply, held_apply, held_apply, h]

/-! ## Operations in a transaction of their own -/

variable {body : Sys α} {outcome : Except Fault α} {stored : Database}

/-- On a connection of its own an operation's outcome is reported, what is stored is what it has stored, and
the connection is released. -/
theorem within_engine_of_ends
    (h : Ends operation { sys with lent := sys.others } body outcome stored) :
    ∃ sys', within (.engine true) operation (do begin; body) sys = (report operation outcome, sys') ∧
      sys'.disk = stored ∧ sys'.link = sys.link ∧ sys'.lent = sys.lent ∧ sys'.scope = sys.scope := by
  obtain ⟨sys₁, hrun⟩ : ∃ sys₁, body (started operation { sys with lent := sys.others }) =
      (outcome, sys₁) := ⟨_, Prod.ext h.result rfl⟩
  have hbegin : begin (opened sys {} sys.others operation) =
      (.ok (), started operation { sys with lent := sys.others }) := begin_apply rfl rfl
  obtain ⟨_, hdisk, _, hsettled, hended⟩ := h
  rw [hrun] at hdisk hsettled hended
  have hbody : (do begin; body) (opened sys {} sys.others operation) =
      (outcome, sys₁) := (Sys.bind_of_ok hbegin).trans hrun
  obtain ⟨journal, hwithin⟩ := within_engine_of_settled hbody hsettled fun a ha => (hended a ha).1
  exact ⟨_, hwithin, hdisk, rfl, rfl, rfl⟩

/-- On a connection at rest that was lent it is the same, and the connection is at rest again. If nothing can
be begun on it, the operation does not run. -/
theorem within_connection_of_ends (hlink : sys.link = some l) (hl : l.Resting)
    (h : Ends operation sys body outcome stored) :
    ∃ sys' l', sys'.link = some l' ∧ sys'.lent = sys.lent ∧ sys'.scope = sys.scope ∧
      l'.Resting ∧
      ((within .connection operation (do begin; body) sys = (report operation outcome, sys') ∧
          sys'.disk = stored ∧ ∀ a, outcome = .ok a → l'.Idle) ∨
        (within .connection operation (do begin; body) sys = (.error (.dataAccess operation), sys') ∧
          sys'.disk = sys.disk)) := by
  have hopened : ({ sys with scope := some { operation } } : System).link = some l := hlink
  rcases begin_of_resting rfl hopened hl with hbegin | ⟨l', journal, hbegin, hl'⟩
  · obtain ⟨sys₁, hrun⟩ : ∃ sys₁, body (started operation sys) = (outcome, sys₁) :=
      ⟨_, Prod.ext h.result rfl⟩
    obtain ⟨_, hdisk, hlent, hsettled, hended⟩ := h
    rw [hrun] at hdisk hlent hsettled hended
    have hbody : (do begin; body) { sys with scope := some { operation } } = (outcome, sys₁) :=
      (Sys.bind_of_ok hbegin).trans hrun
    obtain ⟨l', journal, hwithin, hl', hkept⟩ :=
      within_connection_of_settled hbody hsettled fun a ha => (hended a ha).1
    refine ⟨_, l', by rfl, by exact hlent, by rfl, hl', .inl ⟨hwithin, hdisk, ?_⟩⟩
    intro a ha
    obtain ⟨hscope, l'', hlink'', hidle⟩ := hended a ha
    have hsame : some l'' = some l' := hlink''.symm.trans (hkept hscope)
    obtain rfl := Option.some.inj hsame
    exact hidle
  · have hfailed : (begin >>= fun _ => body) { sys with scope := some { operation } } = _ :=
      Sys.bind_of_error hbegin
    obtain ⟨l'', journal', hwithin, hl'', _⟩ :=
      within_connection_of_settled hfailed (.ended rfl rfl hl') (by simp)
    exact ⟨_, l'', by rfl, by rfl, by rfl, hl'', .inr ⟨hwithin, by rfl⟩⟩

end Scope

end RowGuard
