import RowGuard.Proofs.Session.Scope

/-!
# Operations that only look

An operation finds an outcome on a database if it comes to that outcome wherever its connection sees the database,
and leaves everything but the connection as it is (`Sys.Finds`). Statements that only read do, and so do sequences
of what does. In a scope of its own such an operation comes to the same outcome (`Sys.Finds.within_engine`).
-/

namespace RowGuard

namespace Link

variable {α : Type} {l : Link} {disk : Database} {st : Statement α}

/-- The statement gives back the database that it reads. -/
structure Statement.OnlyReads (st : Statement α) : Prop where
  writes : st.writes = false
  same : ∀ db a db', st.run db = .ok (a, db') → db' = db

/-- What the statement comes to on a database. -/
def Statement.outcomeOn (st : Statement α) (db : Database) : Except Fault α :=
  match st.refused with
  | some e => .error (.sql e)
  | none => (st.run db).map (·.1)

theorem execute_of_onlyReads (others : List Link) (h : l.Usable) (hst : st.OnlyReads) :
    (l.execute disk others st).1 = st.outcomeOn (l.view disk) ∧ (l.execute disk others st).2.Usable ∧
      (l.execute disk others st).2.view disk = l.view disk := by
  have hseen : ((l.transaction.getD {}).view).getD disk = l.view disk := by
    rw [h.view_eq]
    cases l.transaction <;> rfl
  unfold execute Statement.outcomeOn
  rw [h.touch_eq]
  cases st.refused with
  | some e => exact ⟨rfl, h, rfl⟩
  | none =>
    simp only [h.running, hst.writes, Bool.false_and, Bool.not_false, Bool.or_true, Bool.true_or,
      Bool.false_eq_true, if_false, hseen]
    cases hrun : st.run (l.view disk) with
    | error f => exact ⟨rfl, ⟨h.sound, rfl⟩, rfl⟩
    | ok outcome =>
      obtain ⟨a, db⟩ := outcome
      exact ⟨rfl, ⟨h.sound, rfl⟩, hst.same _ _ _ hrun⟩

end Link

namespace Sys

variable {α β : Type} {db : Database}

/-- What comes after an operation only makes something of its value. -/
theorem outcome_bind_of_ok {x : Sys α} {k : α → Sys β} {g : α → β} (hk : ∀ a sys, (k a sys).1 = .ok (g a))
    (sys : System) : ((x >>= k) sys).1 = (x sys).1.map g := by
  obtain ⟨outcome, sys', hrun⟩ : ∃ outcome sys', x sys = (outcome, sys') := ⟨_, _, rfl⟩
  rw [hrun]
  cases outcome with
  | error f => rw [bind_of_error hrun]; rfl
  | ok a => rw [bind_of_ok hrun]; exact hk a sys'

/-- Wherever its connection sees the database, the operation comes to the outcome, and only the connection changes,
which sees the database afterwards too. -/
def Finds (x : Sys α) (db : Database) (outcome : Except Fault α) : Prop :=
  ∀ sys, Bind.connection.Sees sys db →
    ∃ l, l.Usable ∧ l.view sys.disk = db ∧ x sys = (outcome, { sys with link := some l })

namespace Finds

variable {x : Sys α} {outcome : Except Fault α}

theorem ofExcept (outcome : Except Fault α) : Finds (ofExcept outcome) db outcome := by
  rintro sys ⟨l, hlink, hl, hview⟩
  refine ⟨l, hl, hview, ?_⟩
  rw [ofExcept_apply, ← hlink]

theorem pure (a : α) : Finds (pure a : Sys α) db (.ok a) := ofExcept (.ok a)

theorem throw (f : Fault) : Finds (throw f : Sys α) db (.error f) := ofExcept (.error f)

theorem bind {f : α → Sys β} {g : α → Except Fault β} (hx : Finds x db outcome)
    (hf : ∀ a, Finds (f a) db (g a)) : Finds (x >>= f) db (outcome >>= g) := by
  intro sys hsees
  obtain ⟨l, hl, hview, hrun⟩ := hx sys hsees
  cases outcome with
  | error e => exact ⟨l, hl, hview, bind_of_error hrun⟩
  | ok a =>
    obtain ⟨l', hl', hview', hrun'⟩ := hf a { sys with link := some l } ⟨l, rfl, hl, hview⟩
    exact ⟨l', hl', hview', (bind_of_ok hrun).trans hrun'⟩

theorem mapM {f : α → Sys β} {g : α → Except Fault β} (hf : ∀ a, Finds (f a) db (g a)) (as : List α) :
    Finds (as.mapM f) db (as.mapM g) := by
  induction as with
  | nil => exact pure []
  | cons a rest ih =>
    rw [List.mapM_cons, List.mapM_cons]
    exact (hf a).bind fun b => ih.bind fun bs => pure (b :: bs)

theorem execute {st : Link.Statement α} (hst : st.OnlyReads) : Finds (execute st) db (st.outcomeOn db) := by
  rintro sys ⟨l, hlink, hl, rfl⟩
  obtain ⟨houtcome, husable, hview⟩ := Link.execute_of_onlyReads sys.lent hl hst
  refine ⟨_, husable, hview, ?_⟩
  rw [execute_of_some hlink, houtcome]

/-- On a lent connection the operation comes to the outcome as it is. -/
theorem outcome_eq {sys : System} (hx : Finds x db outcome) (hsees : Bind.connection.Sees sys db) :
    (x sys).1 = outcome := by
  obtain ⟨l, _, _, hrun⟩ := hx sys hsees
  rw [hrun]

/-- In a scope with a connection of its own the operation comes to the outcome on what is stored. -/
theorem within_engine {sys : System} (hx : Finds x sys.disk outcome) (operation : String) :
    (Scope.within (.engine true) operation x sys).1 = Scope.report operation outcome := by
  have hopened : Bind.connection.Sees (Scope.opened sys {} (sys.link.toList ++ sys.lent) operation) sys.disk :=
    ⟨{}, rfl, Link.usable_new, rfl⟩
  obtain ⟨l, hl, _, hrun⟩ := hx _ hopened
  obtain ⟨journal, hwithin⟩ := Scope.within_engine_apply hrun rfl hl.sound ⟨_, rfl, .inl rfl⟩
  rw [hwithin]

end Finds

end Sys

end RowGuard
