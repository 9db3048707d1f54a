import RowGuard.Proofs.Evaluator.Testing
import RowGuard.Proofs.Session.Finding

/-!
# Verdicts

What the test of a condition comes to depends on the database that is seen alone (`LocalEvaluator.verdict`), and a
point check comes to the verdict on its condition (`LocalEvaluator.answer_eq_verdict`): to its answer, but also to
each of its faults. A verdict is given exactly if the condition can be tested (`LocalEvaluator.verdict_eq_ok_iff`).
-/

namespace RowGuard.LocalEvaluator

open Outcome

/-- What the test of a condition on an identity comes to on a database. -/
def verdict (c : Condition) (target : Literal) (db : Database) : Except Fault Bool :=
  match Clause.nameFault?.ofAll c with
  | some f => .error f
  | none => (test c target).outcomeOn db

section Tests

variable {c : Condition} {target : Literal} {db : Database}

theorem onlyReads_test (c : Condition) (target : Literal) : (test c target).OnlyReads where
  writes := rfl
  same db a db' hrun := by
    unfold test at hrun
    dsimp only at hrun
    split at hrun
    case isTrue => simp at hrun
    case isFalse =>
      split at hrun
      case isTrue => simp at hrun
      case isFalse => exact (Prod.mk.inj (Except.ok.inj hrun)).2.symm

theorem finds_ask (c : Condition) (target : Literal) (db : Database) :
    Sys.Finds (ask c target) db (verdict c target db) := by
  unfold ask verdict
  cases Clause.nameFault?.ofAll c with
  | some f => exact .throw f
  | none => exact .execute (onlyReads_test c target)

/-- A verdict is given exactly if the condition can be tested, and says whether it holds. -/
theorem verdict_eq_ok_iff {b : Bool} :
    verdict c target db = .ok b ↔
      Testable c target db ∧ c.holds db Literal.bound (.bare target.bound) = b := by
  constructor
  · intro h
    unfold verdict at h
    split at h
    case h_1 => simp at h
    case h_2 hnamed =>
      unfold Link.Statement.outcomeOn at h
      split at h
      case h_1 => simp at h
      case h_2 hrefused =>
        unfold test at h hrefused
        dsimp only at h hrefused
        have hparameterless : c.hasParameters = false := by
          by_contra hparameters
          rw [if_pos (by simpa using hparameters)] at hrefused
          simp at hrefused
        rw [if_neg (by simp [hparameterless])] at hrefused
        split at h
        case isTrue => simp [Except.map] at h
        case isFalse hruns =>
          split at h
          case isTrue => simp [Except.map] at h
          case isFalse hfits =>
            exact ⟨⟨hnamed, hparameterless, hrefused, by simpa using hruns, by simpa using hfits⟩,
              Except.ok.inj h⟩
  · rintro ⟨h, rfl⟩
    obtain ⟨_, hrefused, hrun⟩ := ask_of_testable h
    rw [verdict, h.named, Link.Statement.outcomeOn, hrefused]
    exact congrArg (Except.map (·.1)) hrun

end Tests

variable {ν : Type} [BEq ν] [ReflBEq ν] [Name ν] {e : LocalEvaluator ν} {sys : System} {bind : Bind}
  {db : Database} {s : Subject} {action : Data} {r : Resource}

/-- What an operation that only looks comes to where it is given a connection: on one that is lent to its outcome,
else in a scope of the evaluator's own, if the evaluator has an engine. -/
def reached {α : Type} (e : LocalEvaluator ν) (bind : Bind) (operation : String) (absent : UsageFault)
    (outcome : Except Fault α) : Except Fault α :=
  match bind with
  | .connection => outcome
  | .engine _ => if e.hasEngine then Scope.report operation outcome else .error (.usage absent)

omit [BEq ν] [ReflBEq ν] [Name ν] in
theorem reached_apply {α β : Type} {x : Sys α} {outcome : Except Fault α} {k : α → Sys β} {g : α → β}
    (hsees : bind.Sees sys db) (hx : Sys.Finds x db outcome) (operation : String) (absent : UsageFault)
    (hk : ∀ a sys, (k a sys).1 = .ok (g a)) :
    ((if decide (bind = .connection) then x >>= k
      else if e.hasEngine then Scope.within (.engine true) operation x >>= k
      else throw (.usage absent) >>= k) sys).1 = (e.reached bind operation absent outcome).map g := by
  cases bind with
  | engine reachable =>
    obtain ⟨_, rfl⟩ := hsees
    simp only [reduceCtorEq, decide_false, Bool.false_eq_true, if_false, reached]
    cases e.hasEngine with
    | true => exact (Sys.outcome_bind_of_ok hk sys).trans (congrArg _ (hx.within_engine operation))
    | false => rfl
  | connection =>
    simp only [decide_true, if_true, reached]
    exact (Sys.outcome_bind_of_ok hk sys).trans (congrArg _ (hx.outcome_eq hsees))

omit [BEq ν] [ReflBEq ν] [Name ν] in
theorem reached_eq_ok_iff {α : Type} {outcome : Except Fault α} {operation : String} {absent : UsageFault} {a : α} :
    e.reached bind operation absent outcome = .ok a ↔
      (bind = .connection ∨ e.hasEngine = true) ∧ outcome = .ok a := by
  cases bind with
  | connection => simp [reached]
  | engine reachable =>
    cases hengine : e.hasEngine with
    | false => simp [reached, hengine]
    | true => cases outcome <;> simp [reached, hengine, Scope.report]

/-- A point check comes to the verdict on its condition, unless there is no condition. -/
theorem answer_eq_verdict (hsees : bind.Sees sys db) :
    e.answer bind sys s action r = (do
      let c ← e.condition (e.configIn sys) s action r.type
      e.reached bind "policy check" .checkWithoutConnection (verdict c (e.target r) db)) := by
  unfold answer check
  rw [Sys.bind_of_ok (Sys.configOr_apply _)]
  cases hcondition : e.condition (e.configIn sys) s action r.type with
  | error f =>
    rw [configIn] at hcondition
    rw [hcondition]
    rfl
  | ok c =>
    rw [configIn] at hcondition
    rw [hcondition, Sys.ofExcept_ok, Sys.pure_bind_apply, ok_bind]
    refine (reached_apply hsees (finds_ask c (e.target r) db) _ _ fun b sys => logged_apply _ b).trans ?_
    cases e.reached bind "policy check" .checkWithoutConnection (verdict c (e.target r) db) <;> rfl

/-- A point check answers exactly if there is a condition that can be tested where it is asked. -/
theorem answer_eq_ok_iff {b : Bool} (hsees : bind.Sees sys db) :
    e.answer bind sys s action r = .ok b ↔
      (bind = .connection ∨ e.hasEngine = true) ∧
        ∃ c, e.condition (e.configIn sys) s action r.type = .ok c ∧ verdict c (e.target r) db = .ok b := by
  rw [answer_eq_verdict hsees, bind_eq_ok_iff]
  simp only [reached_eq_ok_iff]
  constructor
  · rintro ⟨c, hc, hreached, hverdict⟩
    exact ⟨hreached, c, hc, hverdict⟩
  · rintro ⟨hreached, c, hc, hverdict⟩
    exact ⟨c, hc, hreached, hverdict⟩

end RowGuard.LocalEvaluator
