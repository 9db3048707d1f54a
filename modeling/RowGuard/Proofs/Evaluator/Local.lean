import RowGuard.Evaluator.Local
import RowGuard.Proofs.Condition.Meaning
import RowGuard.Proofs.Outcome
import RowGuard.Proofs.Session.Keeps
import RowGuard.Proofs.Session.Scope

/-!
# What the local evaluator answers

A point check answers whether the condition for the action holds of the identity as it is bound
(`answer_eq`), on the database that is seen where it is asked. Compiling a condition adds a fragment with
it and changes nothing else of what operations read (`compile_apply`).
-/

namespace RowGuard

theorem System.Kept.sees {a b : System} (h : a.Kept b) {bind : Bind} {db : Database}
    (hsees : bind.Sees a db) : bind.Sees b db := by
  unfold Bind.Sees at *
  rw [h.disk, h.link]
  exact hsees

namespace LocalEvaluator

variable {ν : Type} [BEq ν] [ReflBEq ν] [Name ν] {e : LocalEvaluator ν} {sys : System}
  {bind : Bind} {db : Database} {s : Subject} {action type : Data} {r : Resource} {c : Condition}

/-- The configuration that the evaluator works with. -/
def configIn (e : LocalEvaluator ν) (sys : System) : Config := e.config.getD sys.globals.config

/-- The outcome of a point check that is asked where the connection is given. -/
def answer (e : LocalEvaluator ν) (bind : Bind) (sys : System) (s : Subject) (action : Data)
    (r : Resource) : Except Fault Bool :=
  (e.check (decide (bind = .connection)) s action r sys).1

/-- The condition can be tested on a bound identity. -/
structure Testable (c : Condition) (target : Literal) (db : Database) : Prop where
  named : Clause.nameFault?.ofAll c = none
  parameterless : c.hasParameters = false
  binds : Condition.bindFault? (c.literals (some target)) = none
  runs : c.runs db = true
  fits : Condition.allFit (c.literals (some target)) = true

theorem ask_of_testable {target : Literal} (h : Testable c target db) :
    ask c target = Sys.execute (test c target) ∧ (test c target).refused = none ∧
      (test c target).run db = .ok (c.holds db Literal.bound (.bare target.bound), db) := by
  refine ⟨?_, ?_, ?_⟩
  · unfold ask
    rw [h.named]
  · unfold test
    simp [h.parameterless, h.binds]
  · unfold test
    simp [h.runs, h.fits]

omit [BEq ν] [ReflBEq ν] [Name ν] in
/-- The test of a condition in a scope of the evaluator's own. -/
theorem within_ask_apply {target : Literal} (htest : Testable c target sys.disk) :
    ∃ sys', Scope.within (.engine true) "policy check" (ask c target) sys =
      (.ok (c.holds sys.disk Literal.bound (.bare target.bound)), sys') := by
  obtain ⟨hask, hrefused, hrun⟩ := ask_of_testable htest
  have hopened : (Scope.opened sys {} (sys.link.toList ++ sys.lent) "policy check").link =
      some {} := rfl
  obtain ⟨l', hl', hexecute⟩ :=
    Scope.execute_reading_apply hopened Link.usable_new hrefused rfl hrun
  obtain ⟨journal, hwithin⟩ :=
    Scope.within_engine_apply hexecute rfl hl'.sound ⟨_, rfl, .inl rfl⟩
  rw [hask]
  exact ⟨_, hwithin⟩

omit [BEq ν] [ReflBEq ν] [Name ν] in
/-- The test of a condition on a lent connection. -/
theorem ask_apply {target : Literal} {l : Link} (hlink : sys.link = some l) (hl : l.Usable)
    (htest : Testable c target (l.view sys.disk)) :
    ∃ sys', ask c target sys =
      (.ok (c.holds (l.view sys.disk) Literal.bound (.bare target.bound)), sys') := by
  obtain ⟨hask, hrefused, hrun⟩ := ask_of_testable htest
  obtain ⟨l', _, hexecute⟩ := Scope.execute_reading_apply hlink hl hrefused rfl hrun
  rw [hask]
  exact ⟨_, hexecute⟩

omit [BEq ν] [ReflBEq ν] [Name ν] in
theorem logged_apply (config : Config) (b : Bool) :
    ((do
      if config.logs then logCheck s action r b
      return b : Sys Bool) sys).1 = .ok b := by
  cases config.logs with
  | false => rfl
  | true =>
    unfold logCheck
    cases b with
    | false => rfl
    | true => rfl

/-- A point check answers whether the condition holds of the bound identity. -/
theorem answer_eq (hsees : bind.Sees sys db) (hengine : bind = .connection ∨ e.hasEngine = true)
    (hcondition : e.condition (e.configIn sys) s action r.type = .ok c)
    (htest : Testable c (e.target r) db) :
    e.answer bind sys s action r = .ok (c.holds db Literal.bound (.bare (e.target r).bound)) := by
  unfold answer check
  rw [configIn] at hcondition
  rw [Sys.bind_of_ok (Sys.configOr_apply _), hcondition, Sys.ofExcept_ok, Sys.pure_bind_apply]
  cases bind with
  | engine reachable =>
    obtain ⟨_, rfl⟩ := hsees
    obtain ⟨sys', hallowed⟩ := within_ask_apply htest
    have hown : e.hasEngine = true := hengine.resolve_left (by simp)
    simp only [reduceCtorEq, decide_false, Bool.false_eq_true, if_false, hown, if_true]
    rw [Sys.bind_of_ok hallowed]
    exact logged_apply _ _
  | connection =>
    obtain ⟨l, hlink, hl, rfl⟩ := hsees
    obtain ⟨sys', hallowed⟩ := ask_apply hlink hl htest
    simp only [decide_true, if_true]
    rw [Sys.bind_of_ok hallowed]
    exact logged_apply _ _

/-- The fragment that an action is compiled to for a column. -/
def fragmentFor (action type columnRef : Data) (c : Condition) (sql : String) : Fragment :=
  { columnRef, sql := .text sql, action, resourceType := type, predicate := .condition c }

/-- Compiling adds a fragment and changes nothing else of what operations read. -/
theorem compile_apply {columnRef : Data} {sql : String}
    (hcondition : e.condition (e.configIn sys) s action type = .ok c)
    (hsql : c.forColumn e.dialect columnRef = .ok sql) :
    ∃ sys', e.compile s action type columnRef sys = (.ok sys.fragments.all.size, sys') ∧
      sys.Kept sys' ∧
      sys'.fragments.all = sys.fragments.all.push (fragmentFor action type columnRef c sql) := by
  unfold compile
  rw [configIn] at hcondition
  rw [Sys.bind_of_ok (Sys.configOr_apply _), hcondition, Sys.ofExcept_ok, Sys.pure_bind_apply, hsql,
    Sys.ofExcept_ok, Sys.pure_bind_apply]
  cases (e.config.getD sys.globals.config).logs with
  | false => exact ⟨_, rfl, ⟨rfl, rfl, rfl, rfl, rfl⟩, rfl⟩
  | true => exact ⟨_, rfl, ⟨rfl, rfl, rfl, rfl, rfl⟩, rfl⟩

/-- The fragment for an action as it is placed on a column, or the fault of compiling it. -/
def placed (e : LocalEvaluator ν) (config : Config) (s : Subject) (action type columnRef : Data) :
    Except Fault Fragment := do
  let c ← e.condition config s action type
  let sql ← c.forColumn e.dialect columnRef
  return { fragmentFor action type columnRef c sql with embedded := true }

/-- A fragment is placed when the condition is made up and written. -/
theorem placed_eq_ok_iff {columnRef : Data} {config : Config} {f : Fragment} :
    e.placed config s action type columnRef = .ok f ↔
      ∃ c sql, e.condition config s action type = .ok c ∧ c.forColumn e.dialect columnRef = .ok sql ∧
        f = { fragmentFor action type columnRef c sql with embedded := true } := by
  unfold placed
  simp only [Outcome.bind_eq_ok_iff, Outcome.pure_eq_ok, Except.ok.injEq]
  constructor
  · rintro ⟨c, hc, sql, hsql, rfl⟩
    exact ⟨c, sql, hc, hsql, rfl⟩
  · rintro ⟨c, sql, hc, hsql, rfl⟩
    exact ⟨c, hc, sql, hsql, rfl⟩

/-- What cannot be compiled leaves everything as it was. -/
theorem compile_of_placed_error {columnRef : Data} {f : Fault}
    (h : e.placed (e.configIn sys) s action type columnRef = .error f) :
    e.compile s action type columnRef sys = (.error f, sys) := by
  unfold placed configIn at h
  unfold compile
  rw [Sys.bind_of_ok (Sys.configOr_apply _)]
  cases hc : e.condition (e.config.getD sys.globals.config) s action type with
  | error g =>
    rw [hc] at h
    obtain rfl : g = f := Except.error.inj h
    rfl
  | ok c =>
    rw [hc, Outcome.ok_bind] at h
    rw [Sys.ofExcept_ok, Sys.pure_bind_apply]
    cases hsql : c.forColumn e.dialect columnRef with
    | error g =>
      rw [hsql] at h
      obtain rfl := Except.error.inj h
      rfl
    | ok sql =>
      rw [hsql] at h
      cases h

end LocalEvaluator

end RowGuard
