import RowGuard.Listing.Execution
import RowGuard.Proofs.Batch.Outcome
import RowGuard.Proofs.Mutation.CheckThenAct

/-!
# Calls of guarded operations

A call lists rows, mutates one resource, or updates or deletes a batch. It is planned aside from any
connection, and stays inside a transaction in progress on the connection that it is lent
(`Guarded.staysInside_run`): it works in a savepoint, and the lender's transaction goes on whatever the call
comes to.
-/

namespace RowGuard

open Sys

/-! ## Planning -/

section Planning

variable {e : Evaluator}

namespace Batch

theorem aside_planUpdate (he : e.OnlyAnswers) (given : Option Config) (s : Subject) (r : Request) :
    Aside (planUpdate e given s r) :=
  fun sys => keeps_planUpdate (fun hab h => h.trans hab) (fun _ _ _ _ => he.compile _ _ _ _ sys) given s r

theorem aside_planDelete (he : e.OnlyAnswers) (given : Option Config) (s : Subject) (r : Request) :
    Aside (planDelete e given s r) :=
  fun sys => keeps_planDelete (fun hab h => h.trans hab) (fun _ _ _ _ => he.compile _ _ _ _ sys) given s r

end Batch

namespace Listing

theorem aside_planExtra (he : e.OnlyAnswers) (s : Subject) (type : Data) (m : Mapping) (permission : Data) :
    Aside (planExtra e s type m permission) := by
  refine (he.compile _ _ _ _).bind ?_
  intro id
  exact (Aside.embedFragment id _).bind fun _ => Aside.pure _

theorem aside_plan (he : e.OnlyAnswers) (s : Subject) (r : Request) : Aside (plan e s r) := by
  refine Aside.get.bind ?_
  intro sys
  refine (Aside.ofExcept _).bind ?_
  intro m
  refine (Aside.ofExcept _).bind ?_
  intro _
  refine (he.compile _ _ _ _).bind ?_
  intro id
  refine (Aside.mapM _ fun _ => aside_planExtra he _ _ _ _).bind ?_
  intro extras
  exact (Aside.embedFragment id _).bind fun _ => Aside.pure _

theorem aside_logListed (given : Option Config) (s : Subject) (r : Request) (l : Listing) :
    Aside (logListed given s r l) := by
  refine (Aside.configOr given).bind ?_
  intro config
  cases config.logs with
  | false => exact Aside.pure ()
  | true => exact Aside.log _ _ _

end Listing

end Planning

/-! ## Calls -/

/-- What a guarded operation is to do: list rows, mutate a resource, or update or delete a batch. -/
inductive Guarded.Task where
  | list (r : Listing.Request)
  | mutate (r : Mutation.Request) (mutation : Sys Data)
  | batch (deletes : Bool) (r : Batch.Request)

/-- What a guarded operation answers. -/
inductive Guarded.Answer where
  | rows (listing : Listing)
  | value (d : Data)
  | count (n : Nat)

/-- A call of a guarded operation. -/
structure Guarded where
  evaluator : Evaluator
  subject : Subject
  task : Guarded.Task
  config : Option Config := none

namespace Guarded

variable {g : Guarded} {sys : System}

/-- Plans a batch. -/
def planBatch (g : Guarded) (deletes : Bool) (r : Batch.Request) : Sys Batch :=
  if deletes then Batch.planDelete g.evaluator g.config g.subject r
  else Batch.planUpdate g.evaluator g.config g.subject r

/-- Carries out the call. -/
def run (g : Guarded) (bind : Bind) : Sys Answer :=
  match g.task with
  | .list r => do return .rows (← Listing.list g.evaluator bind g.config g.subject r)
  | .mutate r mutation => do
    return .value (← Mutation.guarded g.evaluator bind g.config g.subject r mutation)
  | .batch deletes r => do
    let b ← g.planBatch deletes r
    return .count (← Batch.execute bind b)

/-- Carries out the call in a detached scope. -/
def runDetached (g : Guarded) (bind : Bind) : Sys Answer :=
  match g.task with
  | .list r => do return .rows (← Listing.listDetached g.evaluator bind g.config g.subject r)
  | .mutate r mutation => do
    return .value (← Mutation.guardedDetached g.evaluator bind g.config g.subject r mutation)
  | .batch deletes r => do
    let b ← g.planBatch deletes r
    return .count (← Batch.executeDetached bind b)

/-- Whether the call only lists. -/
def isListing (g : Guarded) : Bool :=
  match g.task with
  | .list _ => true
  | _ => false

/-- The call is planned, and goes on to use its connection. -/
def IsPlanned (g : Guarded) (sys : System) : Prop :=
  match g.task with
  | .list r => ∃ p, (Listing.plan g.evaluator g.subject r sys).1 = .ok p
  | .mutate _ _ => True
  | .batch deletes r => ∃ b, (g.planBatch deletes r sys).1 = .ok b

/-- The evaluator only answers, and the mutation, if there is one, does not end the transaction that it runs
in. -/
structure Honest (g : Guarded) : Prop where
  evaluator : g.evaluator.OnlyAnswers
  mutation : ∀ r mutation, g.task = .mutate r mutation → StaysInside mutation

theorem aside_planBatch (hg : g.evaluator.OnlyAnswers) (deletes : Bool) (r : Batch.Request) :
    Aside (g.planBatch deletes r) := by
  cases deletes with
  | false => exact Batch.aside_planUpdate hg _ _ _
  | true => exact Batch.aside_planDelete hg _ _ _

end Guarded

/-! ## Inside the lender's transaction -/

open Scope

/-- What happens after a scope is left, if it is done aside. -/
theorem Sys.StaysInside.then_aside {α β : Type} {x : Sys α} {f : α → Sys β} (hx : StaysInside x)
    (hf : ∀ a, Aside (f a)) : StaysInside (x >>= f) :=
  hx.bind fun a => (hf a).staysInside

theorem Listing.staysInside_execute (p : Plan) : StaysInside (execute .connection p) := by
  refine (StaysInside.within (fun _ _ => keeps_execute p.statement) _).then_aside ?_
  exact fun rows => Aside.ofExcept _

theorem Mutation.staysInside_guarded {α : Type} {e : Evaluator} {mutation : Sys α} (he : e.OnlyAnswers)
    (hmutation : StaysInside mutation) (given : Option Config) (s : Subject) (r : Request) :
    StaysInside (guarded e .connection given s r mutation) := by
  refine (Aside.configOr given).staysInside.bind ?_
  intro config
  refine (StaysInside.within ?_ _).then_aside ?_
  · intro disk lent
    refine keeps_begin.bind ?_
    intro _
    refine (he.check _ _ _).inside.nested.bind ?_
    intro answer
    cases answer.truthy with
    | false => exact keeps_rollback.bind fun _ => Keeps.throw _
    | true =>
      refine hmutation.nested.bind ?_
      intro a
      exact keeps_commit.bind fun _ => Keeps.pure a
  · intro a
    cases config.logs with
    | false => exact Aside.pure a
    | true => exact (Aside.log _ _ _).bind fun _ => Aside.pure a

theorem Batch.staysInside_execute (b : Batch) : StaysInside (execute .connection b) := by
  refine (StaysInside.within ?_ _).then_aside ?_
  · intro disk lent
    refine keeps_begin.bind ?_
    intro _
    refine (keeps_execute b.statement).bind ?_
    intro count
    by_cases hcount : count = b.targets.length
    · rw [if_neg (not_not.mpr hcount)]
      exact keeps_commit.bind fun _ => Keeps.pure count
    · rw [if_pos hcount]
      refine keeps_rollback.bind ?_
      intro _
      exact ((Aside.log _ _ _).keeps System.Nested.of_kept).bind fun _ => Keeps.throw _
  · intro count
    cases b.config.logs with
    | false => exact Aside.pure count
    | true => exact (Aside.log _ _ _).bind fun _ => Aside.pure count

/-- A call on a connection with a transaction in progress leaves the transaction open, and stores nothing. -/
theorem Guarded.staysInside_run {g : Guarded} (hg : g.Honest) : StaysInside (g.run .connection) := by
  obtain ⟨e, s, task, config⟩ := g
  have he : e.OnlyAnswers := hg.evaluator
  cases task with
  | list r =>
    refine StaysInside.then_aside ?_ fun l => Aside.pure _
    refine (Aside.configOr config).staysInside.bind ?_
    intro c
    refine (Listing.aside_plan he s r).staysInside.bind ?_
    intro p
    refine (Listing.staysInside_execute p).then_aside ?_
    exact fun l => (Listing.aside_logListed _ _ _ _).bind fun _ => Aside.pure l
  | mutate r mutation =>
    exact (Mutation.staysInside_guarded he (hg.mutation r mutation rfl) config s r).then_aside
      fun a => Aside.pure _
  | batch deletes r =>
    refine (aside_planBatch he deletes r).staysInside.bind ?_
    intro b
    exact (Batch.staysInside_execute b).then_aside fun n => Aside.pure _

end RowGuard

namespace RowGuard.Teams

/-- A member joins a team. -/
def joins (name team : String) : Guarded :=
  { evaluator, subject := ann, task := .mutate join (add name team).run }

theorem honest_joins (name team : String) : (joins name team).Honest where
  evaluator := Evaluator.onlyAnswers_fixed {}
  mutation r mutation htask := by
    obtain ⟨rfl, rfl⟩ := Guarded.Task.mutate.inj htask
    exact Script.staysInside_run _

end RowGuard.Teams
