import RowGuard.Proofs.Evaluator.Testing
import RowGuard.Proofs.Session.Outermost

/-!
# Checks that have answered

A check that has answered on the caller's connection has tested the action's condition on the database that was
seen there: all of its values could be handed over, and the answer is whether the condition holds
(`LocalEvaluator.holds_of_check`).
-/

namespace RowGuard.LocalEvaluator

open Outcome

variable {e : LocalEvaluator} {s : Subject} {action : Data} {r : Resource} {start checked : System} {b : Bool}

/-- A test that has answered. -/
theorem holds_of_ask {c : Condition} {target : Literal} (h : ask c target start = (.ok b, checked)) :
    Condition.allFit (c.literals (some target)) = true ∧
      b = c.holds start.seen Literal.bound (.bare target.bound) := by
  unfold ask at h
  cases hname : Clause.nameFault?.ofAll c with
  | some f =>
    rw [hname] at h
    exact absurd (congrArg Prod.fst h) (by simp)
  | none =>
    rw [hname] at h
    have hrun := Sys.run_of_execute h
    unfold test at hrun
    dsimp only at hrun
    split at hrun
    case isTrue => simp at hrun
    case isFalse =>
      split at hrun
      case isTrue => simp at hrun
      case isFalse hfit =>
        exact ⟨by simpa using hfit, (congrArg Prod.fst (Except.ok.inj hrun)).symm⟩

/-- A check that has answered has compiled its condition, and has answered what came of asking for it on the
connection that it was given, or on one of its own. -/
theorem exists_answer_of_check {onCallersLink : Bool}
    (h : e.check onCallersLink s action r start = (.ok b, checked)) :
    ∃ c answered, e.condition (e.configIn start) s action r.type = .ok c ∧
      (if onCallersLink then ask c (e.target r)
        else if e.hasEngine then Scope.within (.engine true) "policy check" (ask c (e.target r))
        else throw (.usage .checkWithoutConnection) : Sys Bool) start = (.ok b, answered) := by
  unfold check at h
  rw [Sys.bind_of_ok (Sys.configOr_apply _)] at h
  obtain ⟨c, sys₁, hcondition, h⟩ := Sys.bind_eq_ok h
  obtain ⟨hcondition, rfl⟩ := Sys.ofExcept_eq_ok hcondition
  -- logging the answer does not change it
  have hlogged : ∀ {answer : Sys Bool}, (answer >>= fun allowed => do
      if (e.config.getD sys₁.globals.config).logs then logCheck s action r allowed
      return allowed) sys₁ = (.ok b, checked) → ∃ answered, answer sys₁ = (.ok b, answered) := by
    intro answer hrun
    obtain ⟨allowed, answered, hanswer, hlog⟩ := Sys.bind_eq_ok hrun
    obtain rfl : allowed = b := Except.ok.inj ((logged_apply _ allowed).symm.trans (congrArg Prod.fst hlog))
    exact ⟨answered, hanswer⟩
  cases onCallersLink with
  | true =>
    obtain ⟨answered, hanswer⟩ := hlogged h
    exact ⟨c, answered, hcondition, hanswer⟩
  | false =>
    simp only [Bool.false_eq_true, if_false] at h ⊢
    split at h
    case isTrue hengine =>
      obtain ⟨answered, hanswer⟩ := hlogged h
      exact ⟨c, answered, hcondition, by rwa [if_pos hengine]⟩
    case isFalse => cases congrArg Prod.fst h

/-- A check on the caller's connection that has answered. -/
theorem holds_of_check (h : e.check true s action r start = (.ok b, checked)) :
    ∃ c, e.condition (e.configIn start) s action r.type = .ok c ∧
      Condition.allFit (c.literals (some (e.target r))) = true ∧
      b = c.holds start.seen Literal.bound (.bare (e.target r).bound) := by
  obtain ⟨c, answered, hcondition, hask⟩ := exists_answer_of_check h
  exact ⟨c, hcondition, holds_of_ask hask⟩

/-- A check has asked for its condition somewhere, whatever connection it was given. -/
theorem exists_ask_of_check {onCallersLink : Bool} (h : (e.check onCallersLink s action r start).1 = .ok b) :
    ∃ c asked, e.condition (e.configIn start) s action r.type = .ok c ∧ (ask c (e.target r) asked).1 = .ok b := by
  obtain ⟨c, answered, hcondition, hanswer⟩ := exists_answer_of_check (Prod.ext h rfl)
  cases onCallersLink with
  | true => exact ⟨c, start, hcondition, congrArg Prod.fst hanswer⟩
  | false =>
    simp only [Bool.false_eq_true, if_false] at hanswer
    split at hanswer
    case isTrue =>
      obtain ⟨asked, hasked⟩ := Scope.exists_of_within_ok (congrArg Prod.fst hanswer)
      exact ⟨c, asked, hcondition, hasked⟩
    case isFalse => cases congrArg Prod.fst hanswer

end RowGuard.LocalEvaluator
