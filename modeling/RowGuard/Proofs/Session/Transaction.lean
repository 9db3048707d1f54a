import RowGuard.Proofs.Session.Savepoint

/-!
# In a transaction of either kind

What a scope begins is the outermost transaction or a savepoint, according to its connection
(`Scope.Begins`). Either way its operation is stopped by a fault, rolls back and refuses, or commits
(`Scope.Proceeds`); and either way what is seen through the scope's bind becomes what the operation has made,
if it gives a value, and else stays as it was (`System.Served`, `Scope.serves_of_proceeds`).
-/

namespace RowGuard

/-- What is seen through a bind: what its connection sees, or what is stored. -/
def Bind.view (bind : Bind) (sys : System) : Database :=
  match bind with
  | .engine _ => sys.disk
  | .connection => sys.seen

/-- How an operation on a bind has left the system: what is seen through the bind is something that the operation
makes when it gives the value that it has given, and what was seen before if it has failed. A connection
that was lent with a transaction in progress is given back with it. -/
structure System.Served {α : Type} (bind : Bind) (makes : α → Database → Prop) (before : System)
    (outcome : Except Fault α) (after : System) : Prop where
  lent : after.lent = before.lent
  scope : after.scope = before.scope
  made : ∀ a, outcome = .ok a → makes a (bind.view after)
  kept : ∀ f, outcome = .error f → bind.view after = bind.view before
  own : ∀ reachable, bind = .engine reachable → after.link = before.link
  stored : bind = .connection → after.disk = before.disk ∨ after.disk = after.seen
  returned : ∀ l, bind = .connection → before.link = some l → l.InProgress →
    Returned l before after.seen after

theorem Bind.view_of_kept {a b : System} (hab : a.Kept b) (bind : Bind) : bind.view b = bind.view a := by
  cases bind with
  | engine _ => exact hab.disk
  | connection =>
    show b.seen = a.seen
    unfold System.seen
    rw [hab.link, hab.disk]

namespace System.Served

open Sys

variable {α β : Type} {bind : Bind} {makes : α → Database → Prop} {makes' : β → Database → Prop}
  {before after sys : System} {outcome : Except Fault α} {x : Sys α}

/-- Whatever is done aside afterwards changes nothing. -/
theorem of_kept (h : Served bind makes before outcome after) {last : System} (hkept : after.Kept last) :
    Served bind makes before outcome last where
  lent := hkept.lent.trans h.lent
  scope := hkept.scope.trans h.scope
  made a ha := by
    rw [Bind.view_of_kept hkept]
    exact h.made a ha
  kept f hf := (Bind.view_of_kept hkept bind).trans (h.kept f hf)
  own reachable hbind := hkept.link.trans (h.own reachable hbind)
  stored hbind := by
    rw [hkept.disk, show last.seen = after.seen from Bind.view_of_kept hkept .connection]
    exact h.stored hbind
  returned l hbind hlink hl := by
    rw [show last.seen = after.seen from Bind.view_of_kept hkept .connection]
    exact (h.returned l hbind hlink hl).of_kept hkept

/-- Whatever was done aside before has changed nothing. -/
theorem of_kept_before (h : Served bind makes before outcome after) {first : System}
    (hkept : first.Kept before) : Served bind makes first outcome after where
  lent := h.lent.trans hkept.lent
  scope := h.scope.trans hkept.scope
  made := h.made
  kept f hf := (h.kept f hf).trans (Bind.view_of_kept hkept bind)
  own reachable hbind := (h.own reachable hbind).trans hkept.link
  stored hbind := by
    rw [← hkept.disk]
    exact h.stored hbind
  returned l hbind hlink hl := by
    have hreturned := h.returned l hbind (hkept.link.trans hlink) hl
    exact ⟨hreturned.disk.trans hkept.disk, hreturned.lent.trans hkept.lent,
      hreturned.scope.trans hkept.scope, by rw [← hkept.disk]; exact hreturned.link⟩

/-- Another outcome is served as well if it makes what was made, or has left what was there. -/
theorem congr (h : Served bind makes before outcome after) {outcome' : Except Fault β}
    (hmade : ∀ b, outcome' = .ok b → makes' b (bind.view after))
    (hkept : ∀ f, outcome' = .error f → bind.view after = bind.view before) :
    Served bind makes' before outcome' after :=
  ⟨h.lent, h.scope, hmade, hkept, h.own, h.stored, h.returned⟩

/-- An operation that works aside is served in any way in which nothing changes. -/
theorem of_aside (hx : Aside x) (hmakes : ∀ a, (x sys).1 = .ok a → makes a (bind.view sys)) :
    Served bind makes sys (x sys).1 (x sys).2 := by
  have hsame : Served bind makes sys (x sys).1 sys :=
    ⟨rfl, rfl, hmakes, fun _ _ => rfl, fun _ _ => rfl, fun _ => .inl rfl,
      fun l _ hlink hl => .refl hlink hl⟩
  exact hsame.of_kept (hx.kept sys)

/-- Something is prepared aside, and then served. -/
theorem after_aside {y : Sys β} {f : β → Sys α} (hy : Aside y)
    (hf : ∀ b sys₁, y sys = (.ok b, sys₁) → Served bind makes sys₁ (f b sys₁).1 (f b sys₁).2) :
    Served bind makes sys ((y >>= f) sys).1 ((y >>= f) sys).2 := by
  have hkept := hy.kept sys
  obtain ⟨outcome, sys₁, hrun⟩ : ∃ outcome sys₁, y sys = (outcome, sys₁) := ⟨_, _, rfl⟩
  cases outcome with
  | error e =>
    have hsame : Served bind (fun _ _ => True) sys (y sys).1 (y sys).2 := of_aside hy (by simp)
    rw [hrun] at hsame
    rw [bind_of_error hrun]
    exact hsame.congr (by simp) fun _ _ => hsame.kept e rfl
  | ok b =>
    rw [hrun] at hkept
    rw [bind_of_ok hrun]
    exact (hf b sys₁ hrun).of_kept_before hkept

/-- Something is served, and then finished aside. -/
theorem then_aside {f : α → Sys β} (h : Served bind makes sys (x sys).1 (x sys).2)
    (hf : ∀ a, Aside (f a)) (hmakes : ∀ a sys₁ b, (f a sys₁).1 = .ok b → ∀ db, makes a db → makes' b db)
    (hfails : ∀ a sys₁ e, (f a sys₁).1 = .error e → ∀ db, makes a db → db = bind.view sys) :
    Served bind makes' sys ((x >>= f) sys).1 ((x >>= f) sys).2 := by
  obtain ⟨outcome, sys₁, hrun⟩ : ∃ outcome sys₁, x sys = (outcome, sys₁) := ⟨_, _, rfl⟩
  rw [hrun] at h
  cases outcome with
  | error e =>
    rw [bind_of_error hrun]
    exact h.congr (by simp) fun _ _ => h.kept e rfl
  | ok a =>
    rw [bind_of_ok hrun]
    have hkept := (hf a).kept sys₁
    have hview := Bind.view_of_kept hkept bind
    refine (h.of_kept hkept).congr ?_ ?_
    · intro b hb
      rw [hview]
      exact hmakes a sys₁ b hb _ (h.made a rfl)
    · intro e he
      rw [hview]
      exact hfails a sys₁ e he _ (h.made a rfl)

/-- Another value is given for the one that an operation has given. -/
theorem map {f : α → β} (h : Served bind makes sys (x sys).1 (x sys).2)
    (hmakes : ∀ a db, makes a db → makes' (f a) db) :
    Served bind makes' sys ((f <$> x) sys).1 ((f <$> x) sys).2 := by
  rw [map_eq_pure_bind]
  refine h.then_aside (fun a => Aside.pure (f a)) ?_ (fun _ _ _ he => by simp at he)
  intro a _ b hb db ha
  obtain rfl := Except.ok.inj hb
  exact hmakes a db ha

/-- Faults that are turned aside into values have changed nothing. -/
theorem handling {handle : Fault → Sys α} (h : Served bind makes sys (x sys).1 (x sys).2)
    (hhandle : ∀ f, Aside (handle f))
    (hmakes : ∀ f sys₁ a, (handle f sys₁).1 = .ok a → makes a (bind.view sys)) :
    Served bind makes sys (Sys.handling x handle sys).1 (Sys.handling x handle sys).2 := by
  unfold Sys.handling
  obtain ⟨outcome, sys₁, hrun⟩ : ∃ outcome sys₁, x sys = (outcome, sys₁) := ⟨_, _, rfl⟩
  rw [hrun] at h ⊢
  cases outcome with
  | ok a => exact h
  | error f =>
    have hkept := (hhandle f).kept sys₁
    have hview := (Bind.view_of_kept hkept bind).trans (h.kept f rfl)
    refine (h.of_kept hkept).congr ?_ fun _ _ => hview
    intro a ha
    rw [hview]
    exact hmakes f sys₁ a ha

end System.Served

namespace Link

variable {l : Link}

/-- A connection begins a savepoint in the transaction in progress, or a transaction, or neither; then it sees
what it saw before. -/
theorem begin_cases (l : Link) :
    l.InProgress ∨ (l.Resting ∧ l.begin = (.ok .outermost, begun)) ∨
      (¬ l.InProgress ∧ ∃ e l', l.begin = (.error e, l') ∧ ∀ disk, l'.view disk = l.view disk) := by
  obtain ⟨health, transaction, stage⟩ := l
  cases stage with
  | failed => exact .inr (.inr ⟨fun h => by simpa using h.usable.running, _, _, rfl, fun _ => rfl⟩)
  | abandoned =>
    refine .inr (.inr ⟨fun h => by simpa using h.usable.running, _, _, rfl, fun disk => ?_⟩)
    simp [view, inTransaction, cleared]
  | running =>
    have hunsound : health ≠ .sound → ¬ InProgress ⟨health, transaction, .running⟩ :=
      fun hhealth h => hhealth h.usable.sound
    cases transaction with
    | none =>
      have hidle : Idle ⟨health, none, .running⟩ := ⟨rfl, rfl⟩
      have hnone : ¬ InProgress ⟨health, none, .running⟩ := fun h => by simpa using h.open_
      cases health with
      | sound => exact .inr (.inl ⟨.idle hidle, rfl⟩)
      | lost => exact .inr (.inl ⟨.idle hidle, rfl⟩)
      | broken => exact .inr (.inr ⟨hnone, _, _, rfl, fun _ => rfl⟩)
      | closed => exact .inr (.inr ⟨hnone, _, _, rfl, fun _ => rfl⟩)
    | some t =>
      cases health with
      | sound => exact .inl ⟨⟨rfl, rfl⟩, rfl⟩
      | lost => exact .inr (.inr ⟨hunsound (by simp), _, _, rfl, fun _ => rfl⟩)
      | broken => exact .inr (.inr ⟨hunsound (by simp), _, _, rfl, fun _ => rfl⟩)
      | closed => exact .inr (.inr ⟨hunsound (by simp), _, _, rfl, fun _ => rfl⟩)

/-- At rest a connection sees what is stored. -/
theorem Resting.view_eq (h : l.Resting) (disk : Database) : l.view disk = disk := by
  unfold view
  rw [h.inTransaction_eq]
  rfl

theorem Resting.not_inProgress (h : l.Resting) : ¬ l.InProgress := by
  intro hl
  have hopen := hl.inTransaction_eq
  rw [h.inTransaction_eq] at hopen
  simp at hopen

end Link

namespace Scope

open Sys

variable {α : Type} {operation : String} {bind : Bind} {sys sys' start : System} {l : Link}

theorem report_eq_ok {outcome : Except Fault α} {a : α} (h : report operation outcome = .ok a) :
    outcome = .ok a := by
  cases outcome with
  | ok b => exact h
  | error f => simp [report] at h

theorem exists_of_report_eq_error {outcome : Except Fault α} {f : Fault}
    (h : report operation outcome = .error f) : ∃ own, outcome = .error own := by
  cases outcome with
  | ok a => simp [report] at h
  | error own => exact ⟨own, rfl⟩

theorem seen_started (operation : String) (sys : System) : (started operation sys).seen = sys.disk := by
  rw [System.seen_of_some rfl]
  rfl

theorem seen_marked (operation : String) (hlink : sys.link = some l) (hl : l.InProgress) :
    (marked operation l sys).seen = sys.seen := by
  rw [System.seen_of_some hlink, ← hl.view_marked]
  exact System.seen_of_some rfl

/-- The state in which the operation of a scope on the bind starts: the outermost transaction or a savepoint was
begun. -/
inductive Begins (operation : String) (sys : System) : Bind → System → Prop
  | own {reachable : Bool} :
      Begins operation sys (.engine reachable) (started operation { sys with lent := sys.others })
  | savepoint {l : Link} (hlink : sys.link = some l) (hl : l.InProgress) :
      Begins operation sys .connection (marked operation l sys)
  | outermost {l : Link} (hlink : sys.link = some l) (hl : l.Resting) :
      Begins operation sys .connection (started operation sys)

/-- In the transaction or savepoint the operation is still in: it has stored nothing and ended neither the
transaction nor a savepoint that was set before. -/
def Stays (start sys' : System) : Prop :=
  ∃ l, start.link = some l ∧ System.Inside start.disk start.lent start.scope l.marks sys'

/-- A contained operation stays where it is. -/
theorem Stays.after {x : Sys α} (h : Stays start sys') (hx : x.Contained) : Stays start (x sys').2 := by
  obtain ⟨l, hlink, hinside⟩ := h
  exact ⟨l, hlink, hx _ _ _ _ _ hinside⟩

/-- What is seen at the start is what is seen through the bind. -/
theorem Begins.seen_eq (h : Begins operation sys bind start) : start.seen = bind.view sys := by
  cases h with
  | own => exact seen_started _ _
  | savepoint hlink hl => exact seen_marked operation hlink hl
  | outermost hlink hl => exact (seen_started _ _).trans ((System.seen_of_some hlink).trans (hl.view_eq _)).symm

theorem Begins.stays (h : Begins operation sys bind start) : Stays start start := by
  cases h with
  | own => exact ⟨_, rfl, rfl, rfl, rfl, _, rfl, Link.inProgress_begun, List.suffix_refl _⟩
  | savepoint hlink hl => exact ⟨_, rfl, rfl, rfl, rfl, _, rfl, hl.marked, List.suffix_refl _⟩
  | outermost hlink hl => exact ⟨_, rfl, rfl, rfl, rfl, _, rfl, Link.inProgress_begun, List.suffix_refl _⟩

theorem Stays.inProgress (h : Stays start sys') : ∃ l, sys'.link = some l ∧ l.InProgress := by
  obtain ⟨_, _, hinside⟩ := h
  obtain ⟨l, hlink, hl, _⟩ := hinside.link
  exact ⟨l, hlink, hl⟩

theorem Begins.exists_scope (h : Begins operation sys bind start) : ∃ scope, start.scope = some scope := by
  cases h with
  | own => exact ⟨_, rfl⟩
  | savepoint => exact ⟨_, rfl⟩
  | outermost => exact ⟨_, rfl⟩

/-- A statement of the scope stays in the transaction whatever it comes to, and if it gives an answer, it has made
of what was seen what it says. -/
theorem Stays.execute {scope : Scope} (h : Stays start sys') (hscope : sys'.scope = some scope)
    (st : Link.Statement α) :
    Stays start (Scope.execute st sys').2 ∧
      ∀ a, (Scope.execute st sys').1 = .ok a → st.run sys'.seen = .ok (a, (Scope.execute st sys').2.seen) := by
  obtain ⟨outcome, sys'', hexecute⟩ : ∃ outcome sys'', Sys.execute st sys' = (outcome, sys'') := ⟨_, _, rfl⟩
  obtain ⟨journal, hreported⟩ : ∃ journal, reporting scope.operation (Sys.execute st) sys' = _ :=
    reporting_apply hexecute
  have hstatement : Scope.execute st sys' = (report scope.operation outcome, { sys'' with journal }) := by
    unfold Scope.execute
    rw [bind_of_ok (current_of_some hscope), hreported]
  have hstays := h.after (Contained.execute st)
  rw [hexecute] at hstays
  rw [hstatement]
  constructor
  · obtain ⟨l, hlink, hinside⟩ := hstays
    exact ⟨l, hlink, hinside.of_kept (.logged sys'' journal)⟩
  · intro a ha
    obtain rfl := report_eq_ok ha
    have hmade := Sys.run_of_execute hexecute
    exact hmade

/-- How the operation of a scope goes on once it has begun, what it comes to, and what is seen at the end: it is
stopped by a fault, it rolls back and refuses, or it commits and gives a value. -/
inductive Proceeds (body : Sys α) (start : System) : Except Fault α → Database → Prop
  | stopped {f : Fault} {sys' : System} (hrun : body start = (.error f, sys')) (h : Stays start sys') :
      Proceeds body start (.error f) start.seen
  | refused {f : Fault} {refuse : Sys α} {sys' : System}
      (hrun : body start = (do Scope.rollback; refuse) sys')
      (hrefuse : ∀ sys, ∃ journal, refuse sys = (.error f, { sys with journal })) (h : Stays start sys') :
      Proceeds body start (.error f) start.seen
  | finished {a : α} {sys' : System} (hrun : body start = (do Scope.commit; return a) sys')
      (h : Stays start sys') : Proceeds body start (.ok a) sys'.seen

namespace Proceeds

variable {body : Sys α} {own : Except Fault α} {made : Database}

theorem kept {f : Fault} (h : Proceeds body start own made) (hf : own = .error f) : made = start.seen := by
  cases h with
  | finished => simp at hf
  | _ => rfl

/-- In a savepoint an operation comes to what it proceeds to. -/
theorem comes (h : Proceeds body (marked operation l sys) own made) (hl : l.InProgress) :
    Comes operation l sys body own made := by
  have hseen : (marked operation l sys).seen = l.view sys.disk :=
    (System.seen_of_some rfl).trans hl.view_marked
  have hstays : ∀ {sys'}, Stays (marked operation l sys) sys' → StaysMarked operation l sys sys' := by
    rintro sys' ⟨l₀, hlink₀, hinside⟩
    obtain rfl : l.marked = l₀ := Option.some.inj hlink₀
    rw [hl.marks_marked] at hinside
    exact hinside
  cases h with
  | stopped hrun h =>
    rw [hseen]
    exact .of_stopped hrun (hstays h)
  | refused hrun hrefuse h =>
    rw [hseen]
    exact .of_refused hl hrun hrefuse (hstays h)
  | finished hrun h => exact .of_finished hrun (hstays h)

/-- In the outermost transaction it does too, unless what it has made cannot be committed. -/
theorem ends (h : Proceeds body (started operation sys) own made) :
    ∃ outcome stored, Ends operation sys body outcome stored ∧
      (∀ a, outcome = .ok a → own = .ok a ∧ stored = made) ∧ ∀ f, outcome = .error f → stored = sys.disk := by
  have hstays : ∀ {sys'}, Stays (started operation sys) sys' →
      GoesOn operation sys sys' ∧ ∃ l, sys'.link = some l ∧ l.InProgress := by
    intro sys' hstays
    obtain ⟨_, _, hinside⟩ := hstays
    obtain ⟨l, hlink, hl, _⟩ := hinside.link
    exact ⟨⟨hinside.disk, hinside.lent, hinside.scope, l, hlink, hl.inTransaction_eq⟩, l, hlink, hl⟩
  cases h with
  | stopped hrun h => exact ⟨_, _, .of_stopped hrun (hstays h).1, by simp, fun _ _ => rfl⟩
  | refused hrun hrefuse h =>
    obtain ⟨hgoes, l, hlink, hl⟩ := hstays h
    exact ⟨_, _, .of_refused hrun hrefuse hgoes hlink hl, by simp, fun _ _ => rfl⟩
  | @finished a sys' hrun h =>
    have hends := Ends.of_finished hrun (hstays h).1
    refine ⟨_, _, hends, ?_, ?_⟩
    · cases sys'.canCommit with
      | false => simp
      | true => simp
    · cases sys'.canCommit with
      | false => simp
      | true => simp

end Proceeds

/-! ## The scope as a whole -/

variable {body : Sys α} {own : Except Fault α} {made : Database} {makes : α → Database → Prop}

/-- A scope that has begun nothing ends as its operation did. -/
theorem within_connection_of_unbegun {outcome : Except Fault α} {sys₁ : System}
    (hbody : body { sys with scope := some { operation } } = (outcome, sys₁))
    (hscope : sys₁.scope = some { operation }) :
    ∃ journal, within .connection operation body sys =
      (report operation outcome, { sys₁ with scope := sys.scope, journal }) := by
  have hopen : rollbackOpen sys₁ = (.ok (), sys₁) := by
    unfold rollbackOpen inTransaction
    simp only [bind_assoc, get_bind_apply, hscope]
    rfl
  obtain ⟨journal, hleave⟩ := leave_apply hopen operation outcome
  refine ⟨journal, ?_⟩
  show held operation rollbackOpen _ sys = _
  rw [held_apply, hbody, hleave]

theorem currentLink_of_none (hlink : sys.link = none) :
    currentLink sys = (.error (.scope .inactive), sys) := by
  unfold currentLink
  simp [hlink]

theorem inTransaction_of_none (h : sys.scope = none ∨ sys.link = none) : inTransaction sys = (.ok false, sys) := by
  unfold inTransaction
  rcases h with h | h
  · simp [h]
  · cases sys.scope.bind (·.handle) <;> simp [h]

/-- Without a connection nothing is begun. -/
theorem begin_of_none {scope : Scope} (hscope : sys.scope = some scope) (hlink : sys.link = none) :
    begin sys = (.error (.scope .inactive), sys) := by
  have hhere : reporting scope.operation beginHere sys = (.error (.scope .inactive), sys) := by
    unfold reporting Sys.handling beginHere
    rw [bind_of_error (currentLink_of_none hlink)]
    rfl
  unfold begin
  rw [bind_of_ok (inTransaction_of_none (.inr hlink))]
  show (current >>= _) sys = _
  rw [bind_of_ok (current_of_some hscope), bind_of_error hhere]

/-- The operation is served through the bind, in a transaction or savepoint that the scope begins. -/
def Serves (bind : Bind) (operation : String) (body : Sys α) (makes : α → Database → Prop)
    (sys : System) : Prop :=
  ∃ outcome sys', within bind operation (do begin; body) sys = (outcome, sys') ∧
    System.Served bind makes sys outcome sys'

section Served

variable (hmakes : ∀ a, own = .ok a → makes a made)

include hmakes

theorem serves_engine (h : Proceeds body (started operation { sys with lent := sys.others }) own made) :
    Serves (.engine true) operation body makes sys := by
  obtain ⟨outcome, stored, hends, hok, herror⟩ := h.ends
  obtain ⟨sys₁, hwithin, rfl, hlink, hlent, hscope⟩ := within_engine_of_ends hends
  refine ⟨_, sys₁, hwithin, hlent, hscope, ?_, ?_, fun _ _ => hlink, by simp, by simp⟩
  · intro a ha
    obtain ⟨hown, hstored⟩ := hok a (report_eq_ok ha)
    show makes a sys₁.disk
    rw [hstored]
    exact hmakes a hown
  · intro f hf
    obtain ⟨own', hown'⟩ := exists_of_report_eq_error hf
    exact herror own' hown'

/-- On a connection with a transaction in progress the operation works in a savepoint. -/
theorem serves_inProgress (hlink : sys.link = some l) (hl : l.InProgress)
    (h : Proceeds body (marked operation l sys) own made) :
    Serves .connection operation body makes sys := by
  obtain ⟨sys', hwithin, hreturned⟩ := within_connection_of_comes hlink hl (h.comes hl)
  have hseen := hreturned.seen_eq
  refine ⟨_, sys', hwithin, hreturned.lent, hreturned.scope, ?_, ?_, by simp,
    fun _ => .inl hreturned.disk, ?_⟩
  · intro a ha
    show makes a sys'.seen
    rw [hseen]
    exact hmakes a (report_eq_ok ha)
  · intro f hf
    obtain ⟨own', hown'⟩ := exists_of_report_eq_error hf
    show sys'.seen = sys.seen
    rw [hseen, h.kept hown', System.seen_of_some hlink]
    exact (System.seen_of_some rfl).trans hl.view_marked
  · intro l₀ _ hlink₀ _
    obtain rfl := Option.some.inj (hlink.symm.trans hlink₀)
    rw [hseen]
    exact hreturned

/-- On a connection at rest it works in a transaction of its own. -/
theorem serves_resting (hlink : sys.link = some l) (hl : l.Resting)
    (h : Proceeds body (started operation sys) own made) :
    Serves .connection operation body makes sys := by
  obtain ⟨outcome, stored, hends, hok, herror⟩ := h.ends
  have hbefore : sys.seen = sys.disk := (System.seen_of_some hlink).trans (hl.view_eq _)
  obtain ⟨sys', l', hlink', hlent, hscope, hl', hdone⟩ := within_connection_of_ends hlink hl hends
  have hafter : sys'.seen = sys'.disk := (System.seen_of_some hlink').trans (hl'.view_eq _)
  have hreturned : ∀ l₀, Bind.connection = .connection → sys.link = some l₀ → l₀.InProgress →
      System.Returned l₀ sys sys'.seen sys' := by
    intro l₀ _ hlink₀ hl₀
    obtain rfl := Option.some.inj (hlink.symm.trans hlink₀)
    exact absurd hl₀ hl.not_inProgress
  rcases hdone with ⟨hwithin, rfl, _⟩ | ⟨hwithin, hdisk⟩
  · refine ⟨_, sys', hwithin, hlent, hscope, ?_, ?_, by simp, fun _ => .inr hafter.symm, hreturned⟩
    · intro a ha
      obtain ⟨hown, hstored⟩ := hok a (report_eq_ok ha)
      show makes a sys'.seen
      rw [hafter, hstored]
      exact hmakes a hown
    · intro f hf
      obtain ⟨own', hown'⟩ := exists_of_report_eq_error hf
      show sys'.seen = sys.seen
      rw [hafter, hbefore]
      exact herror own' hown'
  · refine ⟨_, sys', hwithin, hlent, hscope, by simp, ?_, by simp, fun _ => .inl hdisk, hreturned⟩
    intro f _
    show sys'.seen = sys.seen
    rw [hafter, hbefore, hdisk]

end Served

/-- On a connection on which nothing can be begun it does not run. -/
theorem serves_of_begin_error {e : SqlFault} {l' : Link} (hlink : sys.link = some l) (hl : ¬ l.InProgress)
    (hbegin : l.begin = (.error e, l')) (hview : ∀ disk, l'.view disk = l.view disk) :
    Serves .connection operation body makes sys := by
  have hopened : ({ sys with scope := some { operation } } : System).link = some l := hlink
  obtain ⟨journal, hfailed⟩ := begin_of_error rfl hopened rfl hbegin
  obtain ⟨journal', hwithin⟩ := within_connection_of_unbegun
    (bind_of_error hfailed : (begin >>= fun _ => body) _ = _) rfl
  refine ⟨_, _, hwithin, rfl, rfl, by simp [report], ?_, by simp, fun _ => .inl rfl, ?_⟩
  · intro f _
    show System.seen _ = System.seen _
    rw [System.seen_of_some rfl, System.seen_of_some hlink]
    exact hview sys.disk
  · intro l₀ _ hlink₀ hl₀
    obtain rfl := Option.some.inj (hlink.symm.trans hlink₀)
    exact absurd hl₀ hl

/-- What is seen through the bind becomes what the operation of the scope has made, if the scope gives a value. -/
theorem serves_of_proceeds (h : ∀ start, Begins operation sys bind start →
    ∃ own made, Proceeds body start own made ∧ ∀ a, own = .ok a → makes a made) :
    Serves bind operation body makes sys := by
  cases bind with
  | engine reachable =>
    cases reachable with
    | false => exact ⟨_, _, fail_apply, rfl, rfl, by simp, fun _ _ => rfl, fun _ _ => rfl, by simp, by simp⟩
    | true =>
      obtain ⟨own, made, hproceeds, hmakes⟩ := h _ .own
      exact serves_engine hmakes hproceeds
  | connection =>
    cases hlink : sys.link with
    | none =>
      have hopened : ({ sys with scope := some { operation } } : System).link = none := hlink
      obtain ⟨journal, hwithin⟩ := within_connection_of_unbegun
        (bind_of_error (begin_of_none rfl hopened) : (begin >>= fun _ => body) _ = _) rfl
      exact ⟨_, _, hwithin, rfl, rfl, by simp [report], fun _ _ => rfl, by simp, fun _ => .inl rfl,
        by simp [hlink]⟩
    | some l =>
      rcases l.begin_cases with hl | ⟨hl, _⟩ | ⟨hl, e, l', hbegin, hview⟩
      · obtain ⟨own, made, hproceeds, hmakes⟩ := h _ (.savepoint hlink hl)
        exact serves_inProgress hmakes hlink hl hproceeds
      · obtain ⟨own, made, hproceeds, hmakes⟩ := h _ (.outermost hlink hl)
        exact serves_resting hmakes hlink hl hproceeds
      · exact serves_of_begin_error hlink hl hbegin hview

end Scope

end RowGuard
