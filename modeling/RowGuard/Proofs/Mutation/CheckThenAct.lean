import RowGuard.Mutation
import RowGuard.Proofs.Evaluator.Answers
import RowGuard.Proofs.Session.Outermost

/-!
# Check, then act

A mutation is checked and carried out in one transaction. It runs only after the check has allowed it, on the
connection and the database that the check has seen. What it has made is stored if it completes and the
transaction can be committed; whatever else the request comes to, nothing is stored (`checks_then_acts`).
-/

namespace RowGuard

namespace Mutation

open Sys

variable {α β : Type} {e : Evaluator} {s : Subject} {r : Request} {mutation : Sys α} {sys : System}

/-- The refusal of a request. -/
def Request.denial (r : Request) (s : Subject) : Fault := .denied (Denial.ofCheck s r.action r.resource none)

/-- What is done once the transaction has begun. -/
def carryOut (e : Evaluator) (s : Subject) (r : Request) (mutation : Sys α) : Sys α := do
  if !(← e.check true s r.action r.resource).truthy then
    Scope.rollback
    throw (r.denial s)
  let a ← mutation
  Scope.commit
  return a

theorem body_eq : body e s r mutation = (do Scope.begin; carryOut e s r mutation) := rfl

/-- The check of a request, asked in a transaction that has just begun. -/
def asked (e : Evaluator) (s : Subject) (r : Request) (sys : System) : Except Fault Data × System :=
  e.check true s r.action r.resource (Scope.started r.operation sys)

section Asked

variable {answer : Data} {checked : System} {f : Fault}

theorem carryOut_of_failed (hasked : asked e s r sys = (.error f, checked)) (mutation : Sys α) :
    carryOut e s r mutation (Scope.started r.operation sys) = (.error f, checked) :=
  bind_of_error hasked

theorem carryOut_of_refused (hasked : asked e s r sys = (.ok answer, checked))
    (hrefused : answer.truthy = false) (mutation : Sys α) :
    carryOut e s r mutation (Scope.started r.operation sys) =
      (do Scope.rollback; throw (r.denial s)) checked := by
  refine (bind_of_ok hasked).trans ?_
  rw [hrefused]
  rfl

theorem carryOut_of_allowed (hasked : asked e s r sys = (.ok answer, checked))
    (hallowed : answer.truthy = true) (mutation : Sys α) :
    carryOut e s r mutation (Scope.started r.operation sys) =
      (mutation >>= fun a => do Scope.commit; return a) checked := by
  refine (bind_of_ok hasked).trans ?_
  rw [hallowed]
  rfl

end Asked

/-- The transaction goes on after the check. -/
theorem goesOn_of_asked {outcome : Except Fault Data} {checked : System}
    (hcheck : Looks (e.check true s r.action r.resource)) (hasked : asked e s r sys = (outcome, checked)) :
    Scope.GoesOn r.operation sys checked := by
  have hgoes := (Scope.goesOn_started r.operation sys).after hcheck.inside
  have hrun : e.check true s r.action r.resource (Scope.started r.operation sys) = (outcome, checked) :=
    hasked
  rwa [hrun] at hgoes

/-- A check that has answered leaves the connection intact, and the database is seen as it was before. -/
theorem intact_of_asked {answer : Data} {checked : System}
    (hcheck : Looks (e.check true s r.action r.resource)) (hasked : asked e s r sys = (.ok answer, checked)) :
    checked.seen = sys.disk ∧ ∃ l, checked.link = some l ∧ l.InProgress := by
  have hgoes := goesOn_of_asked hcheck hasked
  have hintact := hcheck.intact (Scope.started r.operation sys) _ rfl Link.inProgress_begun
  have hrun : e.check true s r.action r.resource (Scope.started r.operation sys) = (.ok answer, checked) :=
    hasked
  rw [hrun] at hintact
  obtain ⟨l, hlink, hl, hview⟩ := hintact (by simp [Unharmed])
  refine ⟨?_, l, hlink, hl⟩
  rw [System.seen_of_some hlink, hgoes.disk]
  exact hview

/-- The check allows the request: it answers, and the answer counts as true. -/
def Allowed (e : Evaluator) (s : Subject) (r : Request) (sys : System) : Prop :=
  ∃ answer, (asked e s r sys).1 = .ok answer ∧ answer.truthy = true

/-- The courses that a request can take in a transaction of its own, each with its outcome and the database
that is stored then. -/
inductive Course (e : Evaluator) (s : Subject) (r : Request) (mutation : Sys α) (sys : System) :
    Except Fault α → Database → Prop
  | checkFailed {f : Fault} {checked : System} (hasked : asked e s r sys = (.error f, checked)) :
      Course e s r mutation sys (.error f) sys.disk
  | denied {answer : Data} {checked : System} (hasked : asked e s r sys = (.ok answer, checked))
      (hrefused : answer.truthy = false) : Course e s r mutation sys (.error (r.denial s)) sys.disk
  | mutationFailed {answer : Data} {f : Fault} {checked mutated : System}
      (hasked : asked e s r sys = (.ok answer, checked)) (hallowed : answer.truthy = true)
      (hseen : checked.seen = sys.disk) (hmutated : mutation checked = (.error f, mutated)) :
      Course e s r mutation sys (.error f) sys.disk
  | commitFailed {answer : Data} {a : α} {checked mutated : System}
      (hasked : asked e s r sys = (.ok answer, checked)) (hallowed : answer.truthy = true)
      (hseen : checked.seen = sys.disk) (hmutated : mutation checked = (.ok a, mutated))
      (hcannot : mutated.canCommit = false) :
      Course e s r mutation sys (.error (.dataAccess r.operation)) sys.disk
  | committed {answer : Data} {a : α} {checked mutated : System}
      (hasked : asked e s r sys = (.ok answer, checked)) (hallowed : answer.truthy = true)
      (hseen : checked.seen = sys.disk) (hmutated : mutation checked = (.ok a, mutated))
      (hcan : mutated.canCommit = true) : Course e s r mutation sys (.ok a) mutated.seen

/-- A request that does not succeed stores nothing. -/
theorem Course.stored_eq {outcome : Except Fault α} {stored : Database}
    (h : Course e s r mutation sys outcome stored) {f : Fault} (hf : outcome = .error f) :
    stored = sys.disk := by
  cases h with
  | committed => simp at hf
  | _ => rfl

/-- A request that is allowed, and whose mutation completes and can be committed, succeeds and stores exactly
what the mutation has made. -/
theorem Course.eq_committed {outcome : Except Fault α} {stored : Database} {a : α}
    (h : Course e s r mutation sys outcome stored) (hallowed : Allowed e s r sys)
    (hmutated : (mutation (asked e s r sys).2).1 = .ok a)
    (hcan : (mutation (asked e s r sys).2).2.canCommit = true) :
    outcome = .ok a ∧ stored = (mutation (asked e s r sys).2).2.seen := by
  obtain ⟨answer, hanswer, htruthy⟩ := hallowed
  cases h with
  | checkFailed hasked => simp [hasked] at hanswer
  | denied hasked hrefused =>
    rw [hasked] at hanswer
    obtain rfl := Except.ok.inj hanswer
    simp [htruthy] at hrefused
  | mutationFailed hasked _ _ hfailed => simp [hasked, hfailed] at hmutated
  | commitFailed hasked _ _ hacted hcannot => simp [hasked, hacted, hcannot] at hcan
  | committed hasked _ _ hacted _ =>
    rw [hasked, hacted] at hmutated ⊢
    exact ⟨hmutated, rfl⟩

/-- Once its transaction has begun, a request takes one of the courses, and leaves no transaction that it
has not given up. -/
theorem exists_course (hcheck : Looks (e.check true s r.action r.resource))
    (hmutation : StaysInside mutation) (sys : System) :
    ∃ outcome stored, Course e s r mutation sys outcome stored ∧
      Scope.Ends r.operation sys (carryOut e s r mutation) outcome stored := by
  obtain ⟨answer, checked, hasked⟩ : ∃ answer checked, asked e s r sys = (answer, checked) := ⟨_, _, rfl⟩
  have hchecked := goesOn_of_asked hcheck hasked
  cases answer with
  | error f =>
    exact ⟨_, _, .checkFailed hasked, .of_stopped (carryOut_of_failed hasked mutation) hchecked⟩
  | ok answer =>
    obtain ⟨hseen, l, hlink, hl⟩ := intact_of_asked hcheck hasked
    cases hanswer : answer.truthy with
    | false =>
      have hrefused := carryOut_of_refused hasked hanswer mutation
      exact ⟨_, _, .denied hasked hanswer,
        .of_refused hrefused (fun sys => ⟨sys.journal, rfl⟩) hchecked hlink hl⟩
    | true =>
      have hallowed := carryOut_of_allowed hasked hanswer mutation
      have hmutated := hchecked.after hmutation
      obtain ⟨made, mutated, hacted⟩ : ∃ made mutated, mutation checked = (made, mutated) := ⟨_, _, rfl⟩
      rw [hacted] at hmutated
      cases made with
      | error f =>
        rw [bind_of_error hacted] at hallowed
        exact ⟨_, _, .mutationFailed hasked hanswer hseen hacted, .of_stopped hallowed hmutated⟩
      | ok a =>
        rw [bind_of_ok hacted] at hallowed
        have hfinished := Scope.Ends.of_finished hallowed hmutated
        cases hcan : mutated.canCommit with
        | false =>
          rw [hcan] at hfinished
          exact ⟨_, _, .commitFailed hasked hanswer hseen hacted hcan, hfinished⟩
        | true =>
          rw [hcan] at hfinished
          exact ⟨_, _, .committed hasked hanswer hseen hacted hcan, hfinished⟩

/-! ## The whole request -/

/-- A request ends as its scope does, and may log that it was committed. -/
theorem guarded_of_within {bind : Bind} {outcome : Except Fault α} {sys' : System}
    (h : Scope.within bind r.operation (body e s r mutation) sys = (outcome, sys'))
    (given : Option Config) :
    ∃ journal, guarded e bind given s r mutation sys = (outcome, { sys' with journal }) := by
  unfold guarded
  rw [bind_of_ok (configOr_apply given)]
  cases outcome with
  | error f => exact ⟨_, bind_of_error h⟩
  | ok a =>
    rw [bind_of_ok h]
    cases (given.getD sys.globals.config).logs with
    | false => exact ⟨_, rfl⟩
    | true => exact ⟨_, rfl⟩

/-- A mutation that the check does not allow plays no part. -/
theorem guarded_of_not_allowed (h : ¬ Allowed e s r { sys with lent := sys.others }) (given : Option Config)
    (other : Sys α) :
    guarded e (.engine true) given s r mutation sys = guarded e (.engine true) given s r other sys := by
  have hbegin : Scope.begin (Scope.opened sys {} sys.others r.operation) =
      (.ok (), Scope.started r.operation { sys with lent := sys.others }) := Scope.begin_apply rfl rfl
  have hsame : body e s r mutation (Scope.opened sys {} sys.others r.operation) =
      body e s r other (Scope.opened sys {} sys.others r.operation) := by
    obtain ⟨answer, checked, hasked⟩ : ∃ answer checked,
        asked e s r { sys with lent := sys.others } = (answer, checked) := ⟨_, _, rfl⟩
    rw [body_eq, body_eq, bind_of_ok hbegin, bind_of_ok hbegin]
    cases answer with
    | error f => rw [carryOut_of_failed hasked, carryOut_of_failed hasked]
    | ok answer =>
      have hrefused : answer.truthy = false := by
        by_contra htrue
        exact h ⟨answer, congrArg Prod.fst hasked, by simpa using htrue⟩
      rw [carryOut_of_refused hasked hrefused, carryOut_of_refused hasked hrefused]
  have hwithin := Scope.within_engine_congr hsame
  unfold guarded
  rw [bind_of_ok (configOr_apply given), bind_of_ok (configOr_apply given)]
  show (Scope.within _ _ _ >>= _) sys = (Scope.within _ _ _ >>= _) sys
  obtain ⟨outcome, sys', hrun⟩ : ∃ outcome sys',
      Scope.within (.engine true) r.operation (body e s r mutation) sys = (outcome, sys') := ⟨_, _, rfl⟩
  cases outcome with
  | error f => rw [bind_of_error hrun, bind_of_error (hwithin.symm.trans hrun)]
  | ok a => rw [bind_of_ok hrun, bind_of_ok (hwithin.symm.trans hrun)]

/-- A request on a connection of its own takes one of its courses: the check is asked first, in the transaction
and on the database that the mutation is to work on; the mutation runs only if it is allowed, and what it has
made is stored if it completes and can be committed. Faults of the database are reported as such, others are
passed on. A request that does not succeed leaves the stored database as it was, and in any case the
connection is given back. -/
theorem checks_then_acts (given : Option Config) (reachable : Bool) (sys : System)
    (hcheck : Looks (e.check true s r.action r.resource)) (hmutation : StaysInside mutation) :
    ∃ outcome sys', guarded e (.engine reachable) given s r mutation sys = (outcome, sys') ∧
      sys'.link = sys.link ∧ sys'.lent = sys.lent ∧ sys'.scope = sys.scope ∧
      (∀ f, outcome = .error f → sys'.disk = sys.disk) ∧
      (reachable = false → outcome = .error (.dataAccess r.operation)) ∧
      (reachable = true →
        (∃ own, Course e s r mutation { sys with lent := sys.others } own sys'.disk ∧
          outcome = Scope.report r.operation own) ∧
        (¬ Allowed e s r { sys with lent := sys.others } → ∀ other : Sys α,
          guarded e (.engine reachable) given s r other sys = (outcome, sys'))) := by
  cases reachable with
  | false =>
    have hfailed : Scope.within (.engine false) r.operation (body e s r mutation) sys = _ := Scope.fail_apply
    obtain ⟨journal, hguarded⟩ := guarded_of_within hfailed given
    exact ⟨_, _, hguarded, rfl, rfl, rfl, fun _ _ => rfl, fun _ => rfl, by simp⟩
  | true =>
    obtain ⟨own, stored, hcourse, hends⟩ := exists_course hcheck hmutation { sys with lent := sys.others }
    obtain ⟨sys₁, hwithin, hdisk, hlink, hlent, hscope⟩ := Scope.within_engine_of_ends hends
    obtain ⟨journal, hguarded⟩ := guarded_of_within hwithin given
    subst hdisk
    refine ⟨_, _, hguarded, hlink, hlent, hscope, ?_, by simp, fun _ => ⟨⟨own, hcourse, rfl⟩, ?_⟩⟩
    · intro f hf
      cases own with
      | ok a => simp [Scope.report] at hf
      | error own => exact hcourse.stored_eq rfl
    · intro hrefused other
      rw [← hguarded]
      exact guarded_of_not_allowed hrefused given mutation

end Mutation

end RowGuard

/-! ## Teams -/

namespace RowGuard.Teams

open Mutation

/-- Teams with a name. -/
def teams : Schema := ⟨"teams", [{ name := "name", type := .text, isKey := true }]⟩

/-- Members, each of a team. -/
def members : Schema :=
  ⟨"members", [{ name := "name", type := .text, isKey := true },
    { name := "team", type := .text, reference := some ⟨"teams", "name", false⟩ }]⟩

/-- The teams of the ants and the bees, with some members. -/
def database (rows : List Row) : Database :=
  ⟨[⟨teams, [[.text "ants"], [.text "bees"]]⟩, ⟨members, rows⟩]⟩

def system : System := { disk := database [[.text "ann", .text "ants"]] }

def ann : Subject := ⟨.text "User", .text "ann"⟩

/-- An evaluator that allows everything. -/
def evaluator : Evaluator := .fixed {}

def join : Request := ⟨.text "join", ⟨.text "Team", .text "bees"⟩⟩

/-- Adds a member to a team. -/
def add (name team : String) : Script :=
  [.insert "members" [("name", .text name), ("team", .text team)], .value (.text "joined")]

/-- Adds a member to a team that need not be there until the transaction is committed. -/
def addEarly (name team : String) : Script :=
  .command "PRAGMA defer_foreign_keys = ON" :: add name team

/-- A member joins a team. -/
theorem checks_then_acts_join :
    ∃ sys', guarded evaluator (.engine true) none ann join (add "bob" "bees").run system =
        (.ok (.text "joined"), sys') ∧
      sys'.disk = database [[.text "ann", .text "ants"], [.text "bob", .text "bees"]] := by
  obtain ⟨outcome, sys', hguarded, _, _, _, _, _, hcourse⟩ :=
    checks_then_acts (e := evaluator) (s := ann) (r := join) none true system
      ((Evaluator.onlyAnswers_fixed {}).check _ _ _) (Script.staysInside_run (add "bob" "bees"))
  obtain ⟨⟨own, hown, rfl⟩, _⟩ := hcourse rfl
  obtain ⟨rfl, hstored⟩ := hown.eq_committed (a := .text "joined") ⟨.bool true, by decide +kernel⟩
    (by decide +kernel) (by decide +kernel)
  refine ⟨sys', hguarded, ?_⟩
  rw [hstored]
  decide +kernel

/-- The check answers true and the mutation completes, but the team of the new member is nowhere to be found
when the transaction is to be committed: the request fails. An answer other than true is enough for a request
to be carried out, if only it counts as true. -/
theorem early_member_is_not_committed :
    (asked evaluator ann join system).1 = .ok (.bool true) ∧
      ((addEarly "bob" "wasps").run (asked evaluator ann join system).2).1 = .ok (.text "joined") ∧
      (guarded evaluator (.engine true) none ann join (addEarly "bob" "wasps").run system).1 =
        .error (.dataAccess "join Team") ∧
      (asked (.fixed { allowed := .text "yes" }) ann join system).1 = .ok (.text "yes") ∧
      (guarded (.fixed { allowed := .text "yes" }) (.engine true) none ann join (add "bob" "bees").run
        system).2.disk = database [[.text "ann", .text "ants"], [.text "bob", .text "bees"]] := by
  decide +kernel

end RowGuard.Teams
