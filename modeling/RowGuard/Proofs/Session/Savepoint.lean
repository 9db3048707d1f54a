import RowGuard.Proofs.Session.Outermost

/-!
# Savepoints

Inside a transaction a scope works in a savepoint, on top of those that are set already (`Link.marks`). An
operation that ends no transaction and no savepoint but those that it has begun itself is contained
(`Sys.Contained`). A scope whose operation is contained gives the transaction back: it stores nothing, the
savepoints around it are as they were, and what is seen changes only if the operation gives a value
(`Scope.within_connection_of_comes`).
-/

namespace RowGuard

namespace Link

variable {α : Type} {l : Link} {disk : Database} {others : List Link} {st : Statement α}

/-- What was seen at each savepoint of the connection's transaction, the innermost first. -/
def marks (l : Link) : List (Option Database) := (l.transaction.map (·.marks)).getD []

/-- What the connection's transaction has looked at. -/
def looked (l : Link) : Option Database := l.transaction.bind (·.view)

/-- The connection with one more savepoint. -/
def marked (l : Link) : Link :=
  { l with transaction := l.transaction.map fun t => { t with marks := t.view :: t.marks } }

theorem InProgress.begin_eq (h : l.InProgress) :
    l.begin = (.ok (.savepoint (l.marks.length + 1)), l.marked) := by
  obtain ⟨t, ht⟩ := Option.isSome_iff_exists.mp h.open_
  unfold Link.begin
  rw [h.usable.running, h.usable.touch_eq]
  dsimp only
  rw [ht]
  simp [marks, marked, ht]

theorem InProgress.marked (h : l.InProgress) : l.marked.InProgress :=
  ⟨⟨h.usable.sound, h.usable.running⟩, by simpa [Link.marked] using h.open_⟩

theorem InProgress.marks_marked (h : l.InProgress) : l.marked.marks = l.looked :: l.marks := by
  obtain ⟨t, ht⟩ := Option.isSome_iff_exists.mp h.open_
  simp [marks, Link.marked, looked, ht]

theorem InProgress.view_eq (h : l.InProgress) : l.view disk = l.looked.getD disk := h.usable.view_eq

theorem InProgress.view_marked (h : l.InProgress) : l.marked.view disk = l.view disk := by
  obtain ⟨t, ht⟩ := Option.isSome_iff_exists.mp h.open_
  rw [h.marked.view_eq, h.view_eq]
  simp [looked, Link.marked, ht]

/-- What was begun inside a transaction is in progress until something outside of it is ended. -/
theorem InProgress.isAlive_savepoint (h : l.InProgress) {depth : Nat} (hdepth : depth ≤ l.marks.length) :
    l.isAlive (.savepoint depth) = true := by
  obtain ⟨t, ht⟩ := Option.isSome_iff_exists.mp h.open_
  simp only [marks, ht, Option.map_some, Option.getD_some] at hdepth
  unfold isAlive
  rw [h.inTransaction_eq]
  simp [ht, hdepth]

theorem marksBelow_append (inner : List (Option Database)) (mark : Option Database)
    (outer : List (Option Database)) : marksBelow (outer.length + 1) (inner ++ mark :: outer) = outer := by
  have hcount : (inner ++ mark :: outer).length + 1 - (outer.length + 1) = (inner ++ [mark]).length := by
    simp only [List.length_append, List.length_cons, List.length_nil]
    omega
  have hsplit : inner ++ mark :: outer = (inner ++ [mark]) ++ outer := by simp
  unfold marksBelow
  rw [hcount, hsplit, List.drop_left]

section Ending

variable {inner outer : List (Option Database)} {mark : Option Database}

/-- Committing a savepoint leaves what is seen, and the savepoints outside of it. -/
theorem InProgress.commit_savepoint (disk : Database) (others : List Link) (h : l.InProgress)
    (hmarks : inner ++ mark :: outer = l.marks) :
    ∃ l', l.commit disk others (.savepoint (outer.length + 1)) = (.ok (), l', disk) ∧ l'.InProgress ∧
      l'.marks = outer ∧ l'.view disk = l.view disk := by
  obtain ⟨t, ht⟩ := Option.isSome_iff_exists.mp h.open_
  have halive : l.isAlive (.savepoint (outer.length + 1)) = true := by
    refine h.isAlive_savepoint ?_
    rw [← hmarks]
    simp
  have hbelow : marksBelow (outer.length + 1) t.marks = outer := by
    have hown : t.marks = inner ++ mark :: outer := by simpa [marks, ht] using hmarks.symm
    rw [hown, marksBelow_append]
  have hafter : ({ l with transaction := some { t with marks := outer } } : Link).InProgress :=
    ⟨⟨h.usable.sound, h.usable.running⟩, rfl⟩
  refine ⟨_, ?_, hafter, rfl, ?_⟩
  · unfold commit
    rw [halive, h.usable.touch_eq]
    simp [ht, hbelow]
  · rw [hafter.view_eq, h.view_eq]
    simp [looked, ht]

/-- Rolling back to a savepoint gives back what was seen when it was set, and the savepoints outside of it. -/
theorem InProgress.rollback_savepoint (h : l.InProgress) (hmarks : inner ++ mark :: outer = l.marks) :
    ∃ l', l.rollback (.savepoint (outer.length + 1)) = (.ok (), l') ∧ l'.InProgress ∧ l'.marks = outer ∧
      ∀ disk, l'.view disk = mark.getD disk := by
  obtain ⟨t, ht⟩ := Option.isSome_iff_exists.mp h.open_
  have halive : l.isAlive (.savepoint (outer.length + 1)) = true := by
    refine h.isAlive_savepoint ?_
    rw [← hmarks]
    simp
  have hown : t.marks = inner ++ mark :: outer := by simpa [marks, ht] using hmarks.symm
  have hbelow : marksBelow (outer.length + 1) t.marks = outer := by rw [hown, marksBelow_append]
  have hmark : t.marks[t.marks.length - (outer.length + 1)]? = some mark := by
    have hposition : t.marks.length - (outer.length + 1) = inner.length := by
      rw [hown, List.length_append, List.length_cons]
      omega
    rw [hposition, hown]
    simp
  have hafter : ({ l with transaction := some { t with view := mark, marks := outer } } : Link).InProgress :=
    ⟨⟨h.usable.sound, h.usable.running⟩, rfl⟩
  refine ⟨_, ?_, hafter, rfl, ?_⟩
  · unfold rollback
    simp [halive, ht, h.usable.sound, hmark, hbelow]
  · intro disk
    rw [hafter.view_eq]
    rfl

end Ending

/-- A statement sets no savepoint and ends none. -/
theorem InProgress.marks_execute (h : l.InProgress) (disk : Database) (others : List Link)
    (st : Statement α) : (l.execute disk others st).2.marks = l.marks := by
  obtain ⟨t, ht⟩ := Option.isSome_iff_exists.mp h.open_
  have hmarks : l.marks = t.marks := by simp [marks, ht]
  unfold Link.execute
  rw [h.usable.touch_eq]
  cases st.refused with
  | some e => rfl
  | none =>
    dsimp only
    rw [h.usable.running]
    dsimp only
    rw [ht]
    split
    case isTrue => exact hmarks.symm
    case isFalse =>
      split
      case h_1 => exact hmarks.symm
      case h_2 => split <;> exact hmarks.symm

end Link

/-- The system inside some savepoints of a transaction: nothing has been stored meanwhile, the scope and the
other connections are as they were, the transaction is in progress on an intact connection, and the
savepoints are still set. -/
structure System.Inside (disk : Database) (lent : List Link) (scope : Option Scope)
    (marks : List (Option Database)) (sys : System) : Prop where
  disk : sys.disk = disk
  lent : sys.lent = lent
  scope : sys.scope = scope
  link : ∃ l, sys.link = some l ∧ l.InProgress ∧ marks <:+ l.marks

theorem System.Inside.of_kept {disk : Database} {lent : List Link} {scope : Option Scope}
    {marks : List (Option Database)} {a b : System} (hab : a.Kept b) (h : a.Inside disk lent scope marks) :
    b.Inside disk lent scope marks :=
  ⟨hab.disk.trans h.disk, hab.lent.trans h.lent, hab.scope.trans h.scope, by rw [hab.link]; exact h.link⟩

namespace Sys

variable {α β : Type} {x : Sys α} {f : α → Sys β}

/-- The operation is contained: whatever it comes to, it stores nothing, leaves the scope and the other
connections alone, and ends no transaction and no savepoint that it has not begun. -/
def Contained (x : Sys α) : Prop :=
  ∀ disk lent scope marks, Keeps (System.Inside disk lent scope marks) x

namespace Contained

theorem bind (hx : Contained x) (hf : ∀ a, Contained (f a)) : Contained (x >>= f) :=
  fun disk lent scope marks => (hx disk lent scope marks).bind fun a => hf a disk lent scope marks

theorem pure (a : α) : Contained (Pure.pure a : Sys α) := fun _ _ _ _ => Keeps.pure a

theorem throw (e : Fault) : Contained (MonadExcept.throw e : Sys α) := fun _ _ _ _ => Keeps.throw e

theorem ofExcept (r : Except Fault α) : Contained (Sys.ofExcept r) := fun _ _ _ _ => Keeps.ofExcept r

theorem handling {handle : Fault → Sys α} (hx : Contained x) (hhandle : ∀ f, Contained (handle f)) :
    Contained (Sys.handling x handle) :=
  fun disk lent scope marks => (hx disk lent scope marks).handling fun f => hhandle f disk lent scope marks

theorem execute (st : Link.Statement α) : Contained (Sys.execute st) := by
  rintro disk lent scope marks sys ⟨hdisk, hlent, hscope, l, hlink, hl, hmarks⟩
  rw [execute_of_some hlink]
  refine ⟨hdisk, hlent, hscope, _, rfl, (hl.execute _ _ st).1, ?_⟩
  rwa [hl.marks_execute]

end Contained

/-- What is done aside is contained. -/
theorem Aside.contained (hx : Aside x) : Contained x := fun _ _ _ _ => hx.keeps System.Inside.of_kept

/-- An operation that catches its own faults is contained if it is without that. -/
theorem Contained.attempt (hx : Contained x) : Contained (Sys.attempt x) := hx

end Sys

/-- A script is contained. -/
theorem Script.contained_run (script : Script) : Sys.Contained script.run :=
  fun disk lent scope marks => script.keeps_run fun st => Sys.Contained.execute st disk lent scope marks

/-- The lender's transaction is given back: it is in progress on an intact connection, the savepoints that were
set are set, and the given database is seen. Nothing has been stored, and the scope and the other connections
are as they were. -/
structure System.Returned (l : Link) (before : System) (seen : Database) (after : System) : Prop where
  disk : after.disk = before.disk
  lent : after.lent = before.lent
  scope : after.scope = before.scope
  link : ∃ l', after.link = some l' ∧ l'.InProgress ∧ l'.marks = l.marks ∧ l'.view before.disk = seen

namespace System.Returned

variable {l : Link} {before after last : System} {seen : Database}

theorem seen_eq (h : Returned l before seen after) : after.seen = seen := by
  obtain ⟨l', hlink, _, _, hview⟩ := h.link
  rw [seen_of_some hlink, h.disk, hview]

theorem of_kept (hkept : after.Kept last) (h : Returned l before seen after) : Returned l before seen last :=
  ⟨hkept.disk.trans h.disk, hkept.lent.trans h.lent, hkept.scope.trans h.scope, by
    rw [hkept.link]
    exact h.link⟩

/-- What was seen is still seen when nothing but aside was worked. -/
theorem refl (hlink : before.link = some l) (hl : l.InProgress) : Returned l before before.seen before :=
  ⟨rfl, rfl, rfl, l, hlink, hl, rfl, (seen_of_some hlink).symm⟩

end System.Returned

/-! ## A scope in a savepoint -/

namespace Scope

open Sys

variable {α : Type} {operation : String} {sys sys' : System} {l : Link} {seen : Database}

/-- The system when a scope has set a savepoint on its connection. -/
def marked (operation : String) (l : Link) (sys : System) : System :=
  { sys with
    link := some l.marked
    scope := some { operation, handle := some (.savepoint (l.marks.length + 1)) } }

/-- The savepoint that a scope has set on a system is still set. -/
def StaysMarked (operation : String) (l : Link) (sys sys' : System) : Prop :=
  System.Inside sys.disk sys.lent (some { operation, handle := some (.savepoint (l.marks.length + 1)) })
    (l.looked :: l.marks) sys'

/-- A contained operation leaves the savepoint set. -/
theorem StaysMarked.after {x : Sys α} (h : StaysMarked operation l sys sys') (hx : x.Contained) :
    StaysMarked operation l sys (x sys').2 :=
  hx _ _ _ _ _ h

theorem begin_of_inProgress (hscope : sys.scope = some { operation }) (hlink : sys.link = some l)
    (hl : l.InProgress) : begin sys = (.ok (), marked operation l sys) :=
  begin_of_ok hscope hlink rfl hl.begin_eq

/-- Rolling back to the scope's savepoint gives the transaction back as it was. -/
theorem StaysMarked.rollback (h : StaysMarked operation l sys sys') (hl : l.InProgress) :
    ∃ sys'', Scope.rollback sys' = (.ok (), sys'') ∧
      System.Returned l { sys with scope := some { operation } } (l.view sys.disk) sys'' := by
  obtain ⟨l₁, hlink, hl₁, inner, hmarks⟩ := h.link
  obtain ⟨l₂, hrollback, hl₂, hmarks₂, hview⟩ := hl₁.rollback_savepoint hmarks
  have hlink' : ({ sys' with scope := some { operation } } : System).link = some l₁ := hlink
  have hhere := rollbackHere_apply hlink' (.savepoint (l.marks.length + 1))
  rw [hrollback] at hhere
  obtain ⟨journal, hending⟩ := ending_apply h.scope hhere
  exact ⟨_, hending, h.disk, h.lent, rfl, l₂, rfl, hl₂, hmarks₂, (hview sys.disk).trans hl.view_eq.symm⟩

/-- Committing the scope's savepoint gives the transaction back with what has been made in it. -/
theorem StaysMarked.commit (h : StaysMarked operation l sys sys') :
    ∃ sys'', Scope.commit sys' = (.ok (), sys'') ∧
      System.Returned l { sys with scope := some { operation } } sys'.seen sys'' := by
  obtain ⟨l₁, hlink, hl₁, inner, hmarks⟩ := h.link
  obtain ⟨l₂, hcommit, hl₂, hmarks₂, hview⟩ := hl₁.commit_savepoint sys'.disk sys'.lent hmarks
  have hlink' : ({ sys' with scope := some { operation } } : System).link = some l₁ := hlink
  have hhere := commitHere_apply hlink' (.savepoint (l.marks.length + 1))
  rw [hcommit] at hhere
  obtain ⟨journal, hending⟩ := ending_apply h.scope hhere
  refine ⟨_, hending, h.disk, h.lent, rfl, l₂, rfl, hl₂, hmarks₂, ?_⟩
  rw [System.seen_of_some hlink, ← hview, h.disk]

/-- How an operation leaves the savepoint that was set for it, and what is seen when the scope is left: the
operation has been stopped in the savepoint, or the savepoint has ended. -/
inductive Leaves (operation : String) (l : Link) (sys : System) : Database → System → Prop
  | stopped {sys' : System} (h : StaysMarked operation l sys sys') :
      Leaves operation l sys (l.view sys.disk) sys'
  | ended {seen : Database} {sys' : System}
      (h : System.Returned l { sys with scope := some { operation } } seen sys') :
      Leaves operation l sys seen sys'

/-- What is left of a savepoint is rolled back. -/
theorem Leaves.rollbackOpen (h : Leaves operation l sys seen sys') (hl : l.InProgress) :
    ∃ sys'' scope, Scope.rollbackOpen sys' = (.ok (), sys'') ∧
      System.Returned l { sys with scope } seen sys'' := by
  cases h with
  | stopped h =>
    obtain ⟨l₁, hlink, hl₁, inner, hmarks⟩ := h.link
    have halive : l₁.isAlive (.savepoint (l.marks.length + 1)) = true := by
      refine hl₁.isAlive_savepoint ?_
      rw [← hmarks]
      simp
    obtain ⟨l₂, hrollback, hl₂, hmarks₂, hview⟩ := hl₁.rollback_savepoint hmarks
    have hopen := rollbackOpen_of_alive h.scope hlink halive
    rw [hrollback] at hopen
    exact ⟨_, some { operation }, hopen, h.disk, h.lent, rfl, l₂, rfl, hl₂, hmarks₂,
      (hview sys.disk).trans hl.view_eq.symm⟩
  | ended h =>
    obtain ⟨l', hlink, _⟩ := h.link
    exact ⟨sys', _, rollbackOpen_of_ended h.scope hlink rfl, h⟩

/-- What the operation of a scope comes to in the savepoint that was set for it, and what is seen then. -/
def Comes (operation : String) (l : Link) (sys : System) (body : Sys α) (outcome : Except Fault α)
    (seen : Database) : Prop :=
  ∃ sys', body (marked operation l sys) = (outcome, sys') ∧ Leaves operation l sys seen sys'

namespace Comes

variable {body : Sys α} {outcome : Except Fault α}

/-- An operation that is stopped by a fault in its savepoint. -/
theorem of_stopped {f : Fault} (hrun : body (marked operation l sys) = (.error f, sys'))
    (h : StaysMarked operation l sys sys') :
    Comes operation l sys body (.error f) (l.view sys.disk) :=
  ⟨sys', hrun, .stopped h⟩

/-- An operation that rolls its savepoint back, and then stops. -/
theorem of_refused {f : Fault} {refuse : Sys α} (hl : l.InProgress)
    (hrun : body (marked operation l sys) = (do Scope.rollback; refuse) sys')
    (hrefuse : ∀ sys, ∃ journal, refuse sys = (.error f, { sys with journal }))
    (h : StaysMarked operation l sys sys') :
    Comes operation l sys body (.error f) (l.view sys.disk) := by
  obtain ⟨sys₁, hrollback, hreturned⟩ := h.rollback hl
  obtain ⟨journal, hstopped⟩ := hrefuse sys₁
  rw [bind_of_ok hrollback, hstopped] at hrun
  exact ⟨_, hrun, .ended (hreturned.of_kept (.logged sys₁ journal))⟩

/-- An operation that commits its savepoint, and then gives a value. -/
theorem of_finished {a : α} (hrun : body (marked operation l sys) = (do Scope.commit; return a) sys')
    (h : StaysMarked operation l sys sys') : Comes operation l sys body (.ok a) sys'.seen := by
  obtain ⟨sys₁, hcommit, hreturned⟩ := h.commit
  rw [bind_of_ok hcommit] at hrun
  exact ⟨_, hrun, .ended hreturned⟩

end Comes

/-- A scope on a connection with a transaction in progress ends as its operation did in its savepoint, and gives
the transaction back. -/
theorem within_connection_of_comes {body : Sys α} {outcome : Except Fault α} (hlink : sys.link = some l)
    (hl : l.InProgress) (h : Comes operation l sys body outcome seen) :
    ∃ sys', within .connection operation (do begin; body) sys = (report operation outcome, sys') ∧
      System.Returned l sys seen sys' := by
  obtain ⟨sys₁, hrun, hleaves⟩ := h
  have hopened : ({ sys with scope := some { operation } } : System).link = some l := hlink
  have hbody : (do begin; body) { sys with scope := some { operation } } = (outcome, sys₁) :=
    (bind_of_ok (begin_of_inProgress rfl hopened hl)).trans hrun
  obtain ⟨sys₂, scope, hopen, hreturned⟩ := hleaves.rollbackOpen hl
  obtain ⟨journal, hleave⟩ := leave_apply hopen operation outcome
  refine ⟨{ sys₂ with journal, scope := sys.scope }, ?_, hreturned.disk, hreturned.lent, rfl, hreturned.link⟩
  show held operation rollbackOpen _ sys = _
  rw [held_apply, hbody, hleave]

end Scope

end RowGuard
