import RowGuard.Proofs.Guarded.Lent
import RowGuard.Proofs.Session.Durability
import RowGuard.Proofs.Session.Transaction

/-!
# What guarded operations make of the database

Through whichever bind, a mutation makes of the database seen there what its callback makes of it, if the check
allows it there; a batch makes what its statement makes, if that reaches every target; a listing makes
nothing of it. An operation that fails changes nothing that is seen (`Guarded.served_run`).
-/

namespace RowGuard

open Sys Scope

/-! ## Evaluators -/

/-- The evaluator only answers, and its checks on the caller's connection are contained. -/
structure Evaluator.Observes (e : Evaluator) : Prop where
  answers : e.OnlyAnswers
  contained : ∀ s action r, Contained (e.check true s action r)

namespace Evaluator

theorem observes_fixed (a : FixedAnswers) : (fixed a).Observes where
  answers := onlyAnswers_fixed a
  contained _ _ _ := ((aside_answerCall a).bind fun _ => Aside.pure _).contained

theorem contained_retryLoop {α : Type} {call : Sys α} (hcall : Contained call) (pauses : Pauses) (name : String)
    (attempts left attempt : Nat) (delay : Number) :
    Contained (retryLoop pauses name attempts call left attempt delay) := by
  refine retryLoop_of_call (fun hx _ hf => hx.contained.bind hf) Contained.throw ?_ pauses name attempts left
    attempt delay
  intro handle hcaught hpassed
  refine hcall.handling ?_
  intro f
  cases hsql : f.isSql with
  | false => exact hcaught f hsql
  | true =>
    rw [hpassed f hsql]
    exact Contained.throw f

theorem observes_retrying {inner : Evaluator} (h : inner.Observes) (config : Option Config) (pauses : Pauses) :
    (retrying config inner pauses).Observes where
  answers := onlyAnswers_retrying h.answers config pauses
  contained s action r := by
    refine (Aside.configOr config).contained.bind ?_
    intro c
    cases c.retryAttempts.toInt? with
    | none => exact Contained.throw _
    | some n => exact contained_retryLoop (h.contained s action r) _ _ _ _ _ _

theorem observes_recording {inner : Evaluator} (h : inner.Observes) {after : Sys Unit}
    (hafter : Aside after) : (recording after inner).Observes where
  answers := onlyAnswers_recording h.answers hafter
  contained s action r := by
    refine (h.contained s action r).bind ?_
    intro allowed
    refine ((Aside.modify ?_).bind fun _ => Aside.pure allowed).contained
    exact fun _ => ⟨rfl, rfl, rfl, rfl, rfl⟩

end Evaluator

namespace LocalEvaluator

variable {ν : Type} [BEq ν] [ReflBEq ν] [Name ν]

theorem contained_ask (c : Condition) (target : Literal) : Contained (ask c target) := by
  unfold ask
  cases Clause.nameFault?.ofAll c with
  | some f => exact Contained.throw f
  | none => exact Contained.execute _

theorem observes (e : LocalEvaluator ν) : e.toEvaluator.Observes where
  answers := e.onlyAnswers
  contained s action r := check_of_ask Aside.contained Contained.bind contained_ask e s action r

end LocalEvaluator

/-- A check that has answered has left the database that is seen as it was. -/
theorem Evaluator.OnlyAnswers.seen_check {e : Evaluator} (he : e.OnlyAnswers) {s : Subject} {action : Data}
    {r : Resource} {start checked : System} {l : Link} {answer : Data} (hlink : start.link = some l)
    (hl : l.InProgress) (hasked : e.check true s action r start = (.ok answer, checked)) :
    checked.seen = start.seen := by
  have hdisk := (he.check s action r).inside.disk_eq hlink hl.inTransaction_eq
  have hintact := (he.check s action r).intact start l hlink hl
  rw [hasked] at hdisk hintact
  obtain ⟨l', hlink', _, hview⟩ := hintact (by simp [Unharmed])
  rw [System.seen_of_some hlink', System.seen_of_some hlink, hdisk]
  exact hview

/-! ## Mutations -/

namespace Mutation

variable {α : Type} {e : Evaluator} {s : Subject} {r : Request} {mutation : Sys α} {start : System}

/-- In the given state the check allows the request, and the mutation, run right after it on what the check has
seen, gives the value and makes the database. -/
inductive Carries (e : Evaluator) (s : Subject) (r : Request) (mutation : Sys α) (start : System) :
    α → Database → Prop
  | intro {answer : Data} {a : α} {checked mutated : System}
      (hasked : e.check true s r.action r.resource start = (.ok answer, checked))
      (hallowed : answer.truthy = true) (hseen : checked.seen = start.seen)
      (hstays : Stays start checked) (hmutated : mutation checked = (.ok a, mutated)) :
      Carries e s r mutation start a mutated.seen

/-- Once it has begun, a mutation is stopped, refused or carried out. -/
theorem proceeds_carryOut (he : e.Observes) (hmutation : Contained mutation) (hstart : Stays start start) :
    ∃ own made, Proceeds (carryOut e s r mutation) start own made ∧
      ∀ a, own = .ok a → Carries e s r mutation start a made := by
  obtain ⟨l, hlink, hl⟩ := hstart.inProgress
  obtain ⟨answer, checked, hasked⟩ : ∃ answer checked,
      e.check true s r.action r.resource start = (answer, checked) := ⟨_, _, rfl⟩
  have hchecked : Stays start checked := by
    have hafter := hstart.after (he.contained s r.action r.resource)
    rwa [hasked] at hafter
  cases answer with
  | error f =>
    have hrun : carryOut e s r mutation start = (.error f, checked) := bind_of_error hasked
    exact ⟨_, _, .stopped hrun hchecked, by simp⟩
  | ok answer =>
    have hseen := he.answers.seen_check hlink hl hasked
    cases hallowed : answer.truthy with
    | false =>
      have hrun : carryOut e s r mutation start = (do Scope.rollback; throw (r.denial s)) checked := by
        refine (bind_of_ok hasked).trans ?_
        rw [hallowed]
        rfl
      exact ⟨_, _, .refused hrun (fun sys => ⟨sys.journal, rfl⟩) hchecked, by simp⟩
    | true =>
      have hrun : carryOut e s r mutation start =
          (mutation >>= fun a => do Scope.commit; return a) checked := by
        refine (bind_of_ok hasked).trans ?_
        rw [hallowed]
        rfl
      have hstays := hchecked.after hmutation
      obtain ⟨made, mutated, hmutated⟩ : ∃ made mutated, mutation checked = (made, mutated) := ⟨_, _, rfl⟩
      rw [hmutated] at hstays
      cases made with
      | error f =>
        rw [bind_of_error hmutated] at hrun
        exact ⟨_, _, .stopped hrun hstays, by simp⟩
      | ok a =>
        rw [bind_of_ok hmutated] at hrun
        refine ⟨_, _, .finished hrun hstays, ?_⟩
        intro a' ha'
        obtain rfl := Except.ok.inj ha'
        exact .intro hasked hallowed hseen hchecked hmutated

/-- A mutation through a bind makes what it carries out in the transaction or savepoint that is begun for it. -/
theorem served_guarded (he : e.Observes) (hmutation : Contained mutation) (bind : Bind)
    (given : Option Config) (s : Subject) (r : Request) (sys : System) :
    System.Served bind
      (fun a made => ∃ start, Begins r.operation sys bind start ∧ Carries e s r mutation start a made) sys
      (guarded e bind given s r mutation sys).1 (guarded e bind given s r mutation sys).2 := by
  obtain ⟨outcome, sys', hwithin, hserved⟩ : Serves bind r.operation (carryOut e s r mutation)
      (fun a made => ∃ start, Begins r.operation sys bind start ∧ Carries e s r mutation start a made) sys := by
    refine serves_of_proceeds ?_
    intro start hbegins
    obtain ⟨own, made, hproceeds, hcarries⟩ := proceeds_carryOut he hmutation hbegins.stays
    exact ⟨own, made, hproceeds, fun a ha => ⟨start, hbegins, hcarries a ha⟩⟩
  obtain ⟨journal, hguarded⟩ := guarded_of_within hwithin given
  rw [hguarded]
  exact hserved.of_kept (.logged sys' journal)

end Mutation

/-! ## Batches -/

namespace Batch

variable {b : Batch} {start : System}

/-- Once it has begun, a batch is stopped, refused because it has not reached every target, or carried out. -/
theorem proceeds_carryOut {scope : Scope} (hstart : Stays start start) (hscope : start.scope = some scope) :
    ∃ own made, Proceeds (carryOut b) start own made ∧
      ∀ n, own = .ok n → n = b.targets.length ∧ b.statement.run start.seen = .ok (n, made) := by
  obtain ⟨hstays, hmade⟩ := hstart.execute hscope b.statement
  obtain ⟨counted, sys₁, hstatement⟩ : ∃ counted sys₁, Scope.execute b.statement start = (counted, sys₁) :=
    ⟨_, _, rfl⟩
  rw [hstatement] at hstays hmade
  cases counted with
  | error f =>
    have hrun : carryOut b start = (.error f, sys₁) := bind_of_error hstatement
    exact ⟨_, _, .stopped hrun hstays, by simp⟩
  | ok count =>
    have hrest : carryOut b start = (if count ≠ b.targets.length then do
        Scope.rollback; logUndone b count; throw b.denial else do Scope.commit; return count : Sys Nat)
          sys₁ := by
      unfold carryOut
      rw [bind_of_ok hstatement]
      by_cases hcount : count = b.targets.length <;> simp [hcount]
    by_cases hcount : count = b.targets.length
    · rw [if_neg (not_not.mpr hcount)] at hrest
      refine ⟨_, _, .finished hrest hstays, ?_⟩
      intro n hn
      obtain rfl := Except.ok.inj hn
      exact ⟨hcount, hmade count rfl⟩
    · rw [if_pos hcount] at hrest
      exact ⟨_, _, .refused hrest (fun sys => ⟨_, rfl⟩) hstays, by simp⟩

/-- A planned batch through a bind makes what its statement makes, which has reached every target. -/
theorem served_execute (b : Batch) (bind : Bind) (sys : System) :
    System.Served bind
      (fun n made => n = b.targets.length ∧ b.statement.run (bind.view sys) = .ok (n, made)) sys
      (execute bind b sys).1 (execute bind b sys).2 := by
  obtain ⟨outcome, sys', hwithin, hserved⟩ : Serves bind b.operation (carryOut b)
      (fun n made => n = b.targets.length ∧ b.statement.run (bind.view sys) = .ok (n, made)) sys := by
    refine serves_of_proceeds ?_
    intro start hbegins
    obtain ⟨scope, hscope⟩ := hbegins.exists_scope
    obtain ⟨own, made, hproceeds, hmade⟩ := proceeds_carryOut (b := b) hbegins.stays hscope
    rw [hbegins.seen_eq] at hmade
    exact ⟨own, made, hproceeds, hmade⟩
  obtain ⟨journal, hexecute⟩ := execute_of_within hwithin
  rw [hexecute]
  exact hserved.of_kept (.logged sys' journal)

end Batch

/-! ## Reading -/

/-- The statement gives back the database that it reads. -/
def Link.Statement.Reads {α : Type} (st : Link.Statement α) : Prop :=
  ∀ db a db', st.run db = .ok (a, db') → db' = db

namespace Link

variable {α : Type} {l : Link} {disk : Database} {others : List Link} {st : Statement α}

/-- A statement that reads changes nothing of what its connection sees. -/
theorem view_execute (hst : st.Reads) : (l.execute disk others st).2.view disk = l.view disk := by
  obtain ⟨touched, health, htouch⟩ := l.touch_eq
  obtain ⟨found, transaction, stage⟩ := l
  unfold execute
  rw [htouch]
  cases touched with
  | error e => rfl
  | ok _ =>
    cases st.refused with
    | some e => rfl
    | none =>
      cases stage with
      | failed => rfl
      | abandoned => simp [view, inTransaction, cleared]
      | running =>
        have hseen : view ⟨found, transaction, .running⟩ disk = (transaction.getD {}).view.getD disk := by
          cases transaction <;> rfl
        rw [hseen]
        dsimp only
        split
        case isTrue => rfl
        case isFalse =>
          cases hrun : st.run ((transaction.getD {}).view.getD disk) with
          | error f => rfl
          | ok outcome =>
            obtain ⟨a, db⟩ := outcome
            obtain rfl := hst _ _ _ hrun
            dsimp only
            split
            case isTrue => rfl
            case isFalse => rfl

end Link

namespace Scope

variable {α : Type} {operation : String} {bind : Bind} {sys : System} {st : Link.Statement α}

/-- A statement that reads changes nothing that is seen. -/
theorem served_execute (hst : st.Reads) (bind : Bind) (operation : String) (sys : System) :
    System.Served bind (fun _ made => made = bind.view sys) sys (within bind operation (execute st) sys).1
      (within bind operation (execute st) sys).2 := by
  cases bind with
  | engine reachable =>
    cases reachable with
    | false => exact ⟨rfl, rfl, fun _ _ => rfl, fun _ _ => rfl, fun _ _ => rfl, by simp, by simp⟩
    | true =>
      have hdisk : (within (.engine true) operation (execute st) sys).2.disk = sys.disk := by
        rw [within_engine_disk]
        have hlink : (opened sys {} sys.others operation).link = some {} := rfl
        obtain ⟨journal, hexecute⟩ := execute_apply hlink rfl (rfl : ({} : Link).execute _ _ st = _)
        rw [hexecute]
        rfl
      exact ⟨rfl, rfl, fun _ _ => hdisk, fun _ _ => hdisk, fun _ _ => rfl, by simp, by simp⟩
  | connection =>
    cases hlink : sys.link with
    | none =>
      have hopened : ({ sys with scope := some { operation } } : System).link = none := hlink
      have hstatement : execute st { sys with scope := some { operation } } =
          (.error (.scope .inactive), { sys with scope := some { operation } }) := by
        unfold execute
        rw [bind_of_ok (current_of_some rfl)]
        unfold reporting Sys.handling Sys.execute
        rw [bind_of_error (currentLink_of_none hopened)]
        rfl
      obtain ⟨journal, hwithin⟩ := within_connection_of_unbegun hstatement rfl
      rw [hwithin]
      exact ⟨rfl, rfl, fun _ _ => rfl, fun _ _ => rfl, by simp, fun _ => .inl rfl, by simp [hlink]⟩
    | some l =>
      obtain ⟨journal, hwithin, _⟩ := within_execute_apply hlink (rfl : l.execute _ _ st = _) operation
      have hview : System.seen { sys with link := some (l.execute sys.disk sys.lent st).2, journal } =
          sys.seen := by
        rw [System.seen_of_some rfl, System.seen_of_some hlink]
        exact Link.view_execute hst
      rw [hwithin]
      refine ⟨rfl, rfl, fun _ _ => hview, fun _ _ => hview, by simp, fun _ => .inl rfl, ?_⟩
      intro l₀ _ hlink₀ hl₀
      obtain rfl := Option.some.inj (hlink.symm.trans hlink₀)
      have hseen := System.seen_of_some
        (rfl : System.link { sys with link := some (l.execute sys.disk sys.lent st).2, journal } = some _)
      exact ⟨rfl, rfl, rfl, _, rfl, (hl₀.execute _ _ st).1, hl₀.marks_execute _ _ st, hseen.symm⟩

end Scope

/-! ## Calls -/

namespace Listing

theorem reads_statement (p : Plan) : p.statement.Reads := by
  intro db rows db' hrun
  obtain ⟨selected, _, hselected⟩ := Outcome.bind_eq_ok_iff.mp hrun
  exact (congrArg Prod.snd (Except.ok.inj hselected)).symm

/-- A listing changes nothing that is seen. -/
theorem served_list {e : Evaluator} (he : e.OnlyAnswers) (bind : Bind) (given : Option Config) (s : Subject)
    (r : Request) (sys : System) :
    System.Served bind (fun _ made => made = bind.view sys) sys (list e bind given s r sys).1
      (list e bind given s r sys).2 := by
  refine .after_aside (Aside.configOr given) ?_
  intro config sys₁ hconfig
  obtain rfl : sys₁ = sys := by
    rw [configOr_apply, Prod.mk.injEq] at hconfig
    exact hconfig.2.symm
  refine .after_aside (aside_plan he s r) ?_
  intro p sys₂ hplan
  have hview : bind.view sys₂ = bind.view sys₁ := by
    have hkept := (aside_plan he s r).kept sys₁
    rw [hplan] at hkept
    exact Bind.view_of_kept hkept bind
  rw [← hview]
  have hread := Scope.served_execute (reads_statement p) bind (operation p.mapping.type) sys₂
  have hlisted : System.Served bind (fun _ made => made = bind.view sys₂) sys₂ (execute bind p sys₂).1
      (execute bind p sys₂).2 :=
    hread.then_aside (fun rows => Aside.ofExcept (p.listing rows)) (fun _ _ _ _ _ h => h)
      fun _ _ _ _ _ h => h
  refine hlisted.then_aside ?_ (fun _ _ _ _ _ h => h) (fun _ _ _ _ _ h => h)
  exact fun l => (aside_logListed _ _ _ _).bind fun _ => Aside.pure l

end Listing

namespace Guarded

variable {g : Guarded}

/-- The evaluator observes, and the mutation, if there is one, is contained. -/
structure Careful (g : Guarded) : Prop where
  evaluator : g.evaluator.Observes
  mutation : ∀ r mutation, g.task = .mutate r mutation → Contained mutation

/-- What a call that gives an answer makes of the database that is seen through its bind. -/
def Effect (g : Guarded) (bind : Bind) (sys : System) (answer : Answer) (made : Database) : Prop :=
  match g.task with
  | .list _ => made = bind.view sys
  | .mutate r mutation => ∃ d start, answer = .value d ∧ Begins r.operation sys bind start ∧
      Mutation.Carries g.evaluator g.subject r mutation start d made
  | .batch deletes r => ∃ b, (g.planBatch deletes r sys).1 = .ok b ∧ answer = .count b.targets.length ∧
      b.statement.run (bind.view sys) = .ok (b.targets.length, made)

/-- Through whichever bind, a call that gives an answer has its effect on what is seen, and one that fails has
none. -/
theorem served_run (hg : g.Careful) (bind : Bind) (sys : System) :
    System.Served bind (g.Effect bind sys) sys (g.run bind sys).1 (g.run bind sys).2 := by
  obtain ⟨e, s, task, config⟩ := g
  have he : e.Observes := hg.evaluator
  cases task with
  | list r =>
    exact (Listing.served_list he.answers bind config s r sys).then_aside (fun _ => Aside.pure _)
      (fun _ _ _ _ _ h => h) (fun _ _ _ h => by simp at h)
  | mutate r mutation =>
    refine (Mutation.served_guarded he (hg.mutation r mutation rfl) bind config s r sys).then_aside
      (fun _ => Aside.pure _) ?_ (fun _ _ _ h => by simp at h)
    rintro d sys₁ answer hanswer made ⟨start, hbegins, hcarries⟩
    exact ⟨d, start, (Except.ok.inj hanswer).symm, hbegins, hcarries⟩
  | batch deletes r =>
    refine .after_aside (aside_planBatch he.answers deletes r) ?_
    intro b sys₁ hplan
    have hview : bind.view sys₁ = bind.view sys := by
      have hkept := (aside_planBatch (g := ⟨e, s, .batch deletes r, config⟩) he.answers deletes r).kept sys
      rw [hplan] at hkept
      exact Bind.view_of_kept hkept bind
    have hexecuted := Batch.served_execute b bind sys₁
    rw [hview] at hexecuted
    refine hexecuted.then_aside (fun _ => Aside.pure _) ?_ (fun _ _ _ h => by simp at h)
    rintro n sys₂ answer hanswer made ⟨rfl, hrun⟩
    exact ⟨b, congrArg Prod.fst hplan, (Except.ok.inj hanswer).symm, hrun⟩

end Guarded

end RowGuard
