import RowGuard.Proofs.Mutation.CheckThenAct
import RowGuard.Proofs.Outcome

/-!
# Mutations of one statement

A check of the local evaluator writes nothing, so that a statement that follows it is the first one of its
transaction to write. A mutation that consists of one such statement succeeds exactly if the check allows it and the
statement runs on the stored database (`Mutation.guarded_statement`).
-/

namespace RowGuard

open Sys

/-- A transaction is in progress on the connection in use, and has not written anything. -/
def System.Looking (sys : System) : Prop := ∃ l, sys.link = some l ∧ l.HasLooked

namespace LocalEvaluator

variable {ν : Type} [BEq ν] [ReflBEq ν] [Name ν]

theorem keeps_looking_ask (c : Condition) (target : Literal) : Keeps System.Looking (ask c target) := by
  unfold ask
  cases Clause.nameFault?.ofAll c with
  | some f => exact Keeps.throw f
  | none =>
    rintro sys ⟨l, hlink, hl⟩
    dsimp only
    rw [execute_of_some hlink]
    exact ⟨_, rfl, hl.execute_reading rfl rfl⟩

theorem keeps_looking_check (e : LocalEvaluator ν) (s : Subject) (action : Data) (r : Resource) :
    Keeps System.Looking (e.toEvaluator.check true s action r) := by
  refine check_of_ask (fun hx => hx.keeps ?_) Keeps.bind keeps_looking_ask e s action r
  rintro a b hkept ⟨l, hlink, hl⟩
  exact ⟨l, hkept.link.trans hlink, hl⟩

end LocalEvaluator

namespace Mutation

variable {α β : Type} {e : Evaluator} {s : Subject} {r : Request} {st : Link.Statement α} {g : α → β}
  {sys : System}

theorem staysInside_statement (st : Link.Statement α) (g : α → β) :
    StaysInside (Sys.execute st >>= fun a => pure (g a)) :=
  (StaysInside.execute st).bind fun _ => (Aside.pure _).staysInside

/-- A request on a connection of its own takes one of its courses, whose outcome it reports. -/
theorem exists_course_of_guarded {mutation : Sys β} (hcheck : Looks (e.check true s r.action r.resource))
    (hmutation : StaysInside mutation) (given : Option Config) (sys : System) :
    ∃ own sys', guarded e (.engine true) given s r mutation sys = (Scope.report r.operation own, sys') ∧
      Course e s r mutation { sys with lent := sys.others } own sys'.disk := by
  obtain ⟨own, stored, hcourse, hends⟩ := exists_course hcheck hmutation { sys with lent := sys.others }
  obtain ⟨sys₁, hwithin, hdisk, _⟩ := Scope.within_engine_of_ends hends
  obtain ⟨journal, hguarded⟩ := guarded_of_within hwithin given
  exact ⟨own, _, hguarded, hdisk ▸ hcourse⟩

section Statement

variable (hlooks : Looks (e.check true s r.action r.resource))
  (hkeeps : Keeps System.Looking (e.check true s r.action r.resource)) (hwrites : st.writes = true)
  (hdefers : st.defers = false)

include hlooks hkeeps hwrites hdefers

/-- After a check that has answered, the statement comes to what it comes to on the stored database. -/
theorem exists_mutated {answer : Data} {checked : System} (hasked : asked e s r sys = (.ok answer, checked)) :
    ∃ mutated, (Sys.execute st >>= fun a => pure (g a)) checked =
        ((st.tried sys.lent sys.disk).map fun outcome => g outcome.1, mutated) ∧
      ∀ outcome, st.tried sys.lent sys.disk = .ok outcome →
        mutated.seen = outcome.2 ∧ mutated.canCommit = !sys.lent.any Link.isReading := by
  have hgoes := goesOn_of_asked hlooks hasked
  obtain ⟨l, hlink, hl⟩ : checked.Looking := by
    have hkept := hkeeps (Scope.started r.operation sys) ⟨_, rfl, Link.hasLooked_begun⟩
    rwa [show e.check true s r.action r.resource _ = (.ok answer, checked) from hasked] at hkept
  have hview : l.view checked.disk = sys.disk :=
    (System.seen_of_some hlink).symm.trans (intact_of_asked hlooks hasked).1
  obtain ⟨l', hexecute, _, hmade⟩ :=
    @Link.HasLooked.execute _ st checked.lent checked.disk _ hl hwrites hdefers
  rw [hview, hgoes.lent] at hexecute hmade
  have hrun := execute_of_some hlink st
  rw [hgoes.lent, hexecute] at hrun
  cases htried : st.tried sys.lent sys.disk with
  | error f =>
    rw [htried] at hrun
    exact ⟨_, bind_of_error hrun, by simp⟩
  | ok outcome =>
    rw [htried] at hrun
    refine ⟨_, bind_of_ok hrun, ?_⟩
    rintro outcome' ⟨⟩
    have hmade := hmade outcome htried
    rw [System.seen_of_some rfl, System.canCommit_of_some rfl, hmade.view_eq, hmade.canCommit_eq]
    exact ⟨rfl, rfl⟩

/-- A mutation of one statement, whose check has answered, succeeds if it is allowed and the statement runs on the
stored database; then what the statement makes is stored. Otherwise it fails with a fault of the authorization
system and nothing is stored, provided that the statement fails only in the database. -/
theorem guarded_statement (given : Option Config) {answer : Data}
    (hasked : (asked e s r { sys with lent := sys.others }).1 = .ok answer)
    (hfails : ∀ db f, st.run db = .error f → f.isSql = true) (hread : sys.others.any Link.isReading = false) :
    ∃ outcome sys',
      guarded e (.engine true) given s r (Sys.execute st >>= fun a => pure (g a)) sys = (outcome, sys') ∧
      ((∃ a made, answer.truthy = true ∧ st.tried sys.others sys.disk = .ok (a, made) ∧ outcome = .ok (g a) ∧
          sys'.disk = made) ∨
        ((answer.truthy = true → ∃ f, st.tried sys.others sys.disk = .error f) ∧
          (∃ f, outcome = .error f ∧ f.isAuthz = true) ∧ sys'.disk = sys.disk)) := by
  obtain ⟨own, sys', hguarded, hcourse⟩ := exists_course_of_guarded hlooks (staysInside_statement st g) given sys
  refine ⟨_, sys', hguarded, ?_⟩
  have hanswered : ∀ {answer' checked}, asked e s r { sys with lent := sys.others } = (.ok answer', checked) →
      answer' = answer := fun h => Except.ok.inj ((congrArg Prod.fst h).symm.trans hasked)
  have hmutates := fun {answer' checked} (h : asked e s r { sys with lent := sys.others } = (.ok answer', checked)) =>
    @exists_mutated _ _ _ _ _ _ g _ hlooks hkeeps hwrites hdefers _ _ h
  generalize sys'.disk = stored at hcourse
  cases hcourse with
  | checkFailed hfailed => simp [hfailed] at hasked
  | denied hasked' hrefused =>
    obtain rfl := hanswered hasked'
    refine .inr ⟨fun htruthy => ?_, ⟨_, rfl, rfl⟩, rfl⟩
    simp [hrefused] at htruthy
  | @mutationFailed _ f _ _ hasked' _ _ hmutated =>
    obtain ⟨_, hrun, _⟩ := hmutates hasked'
    have htried := congrArg Prod.fst (hrun.symm.trans hmutated)
    cases hst : st.tried sys.others sys.disk with
    | ok outcome => simp [hst, Except.map] at htried
    | error f' =>
      obtain rfl : f' = f := by simpa [hst, Except.map] using htried
      have hsql : f'.isSql = true := (Link.Statement.of_tried_eq_error hst).elim id (hfails _ _)
      refine .inr ⟨fun _ => ⟨_, rfl⟩, ⟨.dataAccess r.operation, ?_, rfl⟩, rfl⟩
      simp [Scope.report, hsql]
  | commitFailed hasked' _ _ hmutated hcannot =>
    obtain ⟨_, hrun, hmade⟩ := hmutates hasked'
    obtain ⟨htried, rfl⟩ := Prod.mk.inj (hrun.symm.trans hmutated)
    obtain ⟨outcome, hst, _⟩ := Outcome.map_eq_ok_iff.mp htried
    simp [(hmade outcome hst).2, hread] at hcannot
  | committed hasked' hallowed _ hmutated _ =>
    obtain rfl := hanswered hasked'
    obtain ⟨_, hrun, hmade⟩ := hmutates hasked'
    obtain ⟨htried, rfl⟩ := Prod.mk.inj (hrun.symm.trans hmutated)
    obtain ⟨outcome, hst, rfl⟩ := Outcome.map_eq_ok_iff.mp htried
    exact .inl ⟨outcome.1, outcome.2, hallowed, hst, rfl, (hmade outcome hst).1⟩

end Statement

end Mutation

end RowGuard
