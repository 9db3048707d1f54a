import RowGuard.Proofs.Records.Service

/-!
# Lent transactions

A caller that has begun a transaction lends its connection to guarded operations, services and blocks of its
own. Whatever one of them comes to, the caller's transaction is given back open, with the savepoints that were
set; what is seen is what the operation has made of what was seen, or just that if the operation has failed
(`Operation.frames_lent_transaction`). The same holds of operations inside of blocks, at any depth
(`Work.contained_run`).
-/

namespace RowGuard

open Sys Scope

/-- An operation on a lent connection: a guarded call, a call of a service, or a block in one transaction. -/
inductive Operation where
  | guarded (g : Guarded)
  | service (c : Records.Context) (v : Records.Service)
  | block (name : String) (body : Sys Data)

namespace Operation

/-- What an operation answers. -/
inductive Answer where
  | guarded (answer : Guarded.Answer)
  | service (reply : Records.Reply)
  | block (d : Data)

/-- The context of a service on the lent connection. -/
def onLent (c : Records.Context) : Records.Context := { c with bind := .connection }

/-- Carries out the operation on the connection. -/
def run (op : Operation) : Sys Answer :=
  match op with
  | guarded g => .guarded <$> g.run .connection
  | service c v => .service <$> v.run (onLent c)
  | block name body => .block <$> Scope.transaction .connection name body

/-- Evaluators observe, and what callers have given to be run is contained. -/
def Careful (op : Operation) : Prop :=
  match op with
  | guarded g => g.Careful
  | service c _ => c.evaluator.Observes
  | block _ body => Contained body

/-- What an operation that has given an answer has made of the database that is seen. -/
def Effect (op : Operation) (sys : System) (answer : Answer) (made : Database) : Prop :=
  match op with
  | guarded g => ∃ a, answer = .guarded a ∧ g.Effect .connection sys a made
  | service c v => ∃ reply, answer = .service reply ∧ v.Effect (onLent c) sys reply made
  | block name body => ∃ d, answer = .block d ∧ ∃ start mutated, Begins name sys .connection start ∧
      body start = (.ok d, mutated) ∧ made = mutated.seen

/-- The operation has failed: it has raised a fault, or reported a failure. -/
def Failed (outcome : Except Fault Answer) : Prop :=
  (∃ f, outcome = .error f) ∨ ∃ reason, outcome = .ok (.service (.reported (.failed reason)))

/-- A block makes what its body makes in the transaction or savepoint that is begun for it. -/
theorem served_transaction {α : Type} {body : Sys α} (hbody : Contained body) (bind : Bind) (name : String)
    (sys : System) :
    System.Served bind
      (fun a made => ∃ start mutated, Begins name sys bind start ∧ body start = (.ok a, mutated) ∧
        made = mutated.seen) sys
      (Scope.transaction bind name body sys).1 (Scope.transaction bind name body sys).2 := by
  obtain ⟨outcome, sys', hwithin, hserved⟩ : Serves bind name (do let a ← body; commit; return a)
      (fun a made => ∃ start mutated, Begins name sys bind start ∧ body start = (.ok a, mutated) ∧
        made = mutated.seen) sys := by
    refine serves_of_proceeds ?_
    intro start hbegins
    have hstays := hbegins.stays.after hbody
    obtain ⟨own, mutated, hrun⟩ : ∃ own mutated, body start = (own, mutated) := ⟨_, _, rfl⟩
    rw [hrun] at hstays
    cases own with
    | error f => exact ⟨_, _, .stopped (bind_of_error hrun) hstays, by simp⟩
    | ok a =>
      refine ⟨_, _, .finished (bind_of_ok hrun) hstays, ?_⟩
      intro a' ha'
      obtain rfl := Except.ok.inj ha'
      exact ⟨start, mutated, hbegins, hrun, rfl⟩
  have hrun : Scope.transaction bind name body sys = (outcome, sys') := hwithin
  rw [hrun]
  exact hserved

variable {op : Operation} {sys : System} {l : Link}

theorem served_run (hop : op.Careful) (sys : System) :
    System.Served .connection (op.Effect sys) sys (op.run sys).1 (op.run sys).2 := by
  cases op with
  | guarded g => exact (Guarded.served_run hop .connection sys).map fun a made h => ⟨a, rfl, h⟩
  | service c v =>
    have he : (onLent c).evaluator.Observes := hop
    exact (Records.Service.served_run sys v he).map fun reply made h => ⟨reply, rfl, h⟩
  | block name body => exact (served_transaction hop .connection name sys).map fun d made h => ⟨d, rfl, h⟩

/-- An operation on a lent connection is contained, so that blocks can be made of operations. -/
theorem contained_run (hop : op.Careful) : Contained op.run := by
  rintro disk lent scope marks sys ⟨rfl, rfl, rfl, l, hlink, hl, hmarks⟩
  have hreturned := (served_run hop sys).returned l rfl hlink hl
  obtain ⟨l', hlink', hl', hmarks', _⟩ := hreturned.link
  exact ⟨hreturned.disk, hreturned.lent, hreturned.scope, l', hlink', hl', by rwa [hmarks']⟩

theorem Records.Service.Effect.eq_of_failed {c : Records.Context} {v : Records.Service} {reason : String}
    {made : Database} (h : v.Effect c sys (.reported (.failed reason)) made) : made = c.bind.view sys := by
  cases h with
  | failed => rfl

/-- An operation that has failed has left what is seen. -/
theorem seen_of_failed (hop : op.Careful) (hfailed : Failed (op.run sys).1) :
    (op.run sys).2.seen = sys.seen := by
  have hserved := served_run hop sys
  rcases hfailed with ⟨f, hf⟩ | ⟨reason, hreason⟩
  · exact hserved.kept f hf
  · have heffect := hserved.made _ hreason
    cases op with
    | guarded g =>
      obtain ⟨a, ha, _⟩ := heffect
      simp at ha
    | service c v =>
      obtain ⟨reply, hreply, heffect⟩ := heffect
      obtain rfl := Answer.service.inj hreply
      exact Records.Service.Effect.eq_of_failed heffect
    | block name body =>
      obtain ⟨d, hd, _⟩ := heffect
      simp at hd

/-- On a connection whose transaction the caller has begun, with whatever has been done in it and whatever
savepoints are set, an operation leaves the transaction open and the savepoints set. If it gives an answer,
what is seen is exactly what it has made of what was seen; if it fails, what was seen. When the caller rolls
back, nothing of either is stored, and when it commits, both are. -/
theorem frames_lent_transaction (hop : op.Careful) (hlink : sys.link = some l) (hl : l.InProgress) :
    ∃ outcome sys', op.run sys = (outcome, sys') ∧ System.Returned l sys sys'.seen sys' ∧
      (∀ answer, outcome = .ok answer → op.Effect sys answer sys'.seen) ∧
      (Failed outcome → sys'.seen = sys.seen) ∧
      (∃ sys'', rollbackHere .outermost sys' = (.ok (), sys'') ∧ sys''.disk = sys.disk ∧
        sys''.link = some {}) ∧
      (sys'.canCommit = true → ∃ sys'', commitHere .outermost sys' = (.ok (), sys'') ∧
        sys''.disk = sys'.seen ∧ sys''.link = some {}) ∧
      (sys'.canCommit = false → (commitHere .outermost sys').2.disk = sys.disk) := by
  have hserved := served_run hop sys
  have hreturned := hserved.returned l rfl hlink hl
  obtain ⟨l', hlink', hl', _, _⟩ := hreturned.link
  refine ⟨(op.run sys).1, (op.run sys).2, rfl, hreturned, hserved.made, seen_of_failed hop, ?_, ?_, ?_⟩
  · rw [rollbackHere_apply hlink', hl'.rollback_eq]
    exact ⟨_, rfl, hreturned.disk, rfl⟩
  · intro hcan
    rw [System.canCommit_of_some hlink'] at hcan
    rw [commitHere_apply hlink', Link.commit_of_canCommit hl'.inTransaction_eq hcan]
    exact ⟨_, rfl, (System.seen_of_some hlink').symm, rfl⟩
  · intro hcannot
    rw [System.canCommit_of_some hlink'] at hcannot
    obtain ⟨e, l'', hcommit, _⟩ := Link.commit_of_not_canCommit hl'.inTransaction_eq hcannot
    rw [commitHere_apply hlink', hcommit]
    exact hreturned.disk

end Operation

/-! ## Blocks in blocks -/

/-- What a caller does inside a block: run statements, carry out an operation, open a further block, do one
thing after the other, or catch what something raises and do something else. -/
inductive Work where
  | script (s : Script)
  | operation (op : Operation)
  | block (name : String) (body : Work)
  | sequence (first second : Work)
  | rescue (body handler : Work)

namespace Work

/-- Does the work. -/
def run : Work → Sys Data
  | script s => s.run
  | operation op => (fun _ => .null) <$> op.run
  | block name body => Scope.transaction .connection name body.run
  | sequence first second => do
    let _ ← first.run
    second.run
  | rescue body handler => Sys.handling body.run fun _ => handler.run

/-- Every operation in the work is one whose evaluators and callbacks keep to what they may do. -/
def Careful : Work → Prop
  | script _ => True
  | operation op => op.Careful
  | block _ body => body.Careful
  | sequence first second => first.Careful ∧ second.Careful
  | rescue body handler => body.Careful ∧ handler.Careful

/-- Work is contained, however deep its blocks are nested and wherever they end in a fault. -/
theorem contained_run {w : Work} (hw : w.Careful) : Contained w.run := by
  induction w with
  | script s => exact Script.contained_run s
  | operation op =>
    have hop : op.Careful := hw
    show Contained ((fun _ => Data.null) <$> op.run)
    rw [map_eq_pure_bind]
    exact (Operation.contained_run hop).bind fun _ => Contained.pure _
  | block name body ih =>
    have hblock : (Operation.block name body.run).Careful := ih hw
    rintro disk lent scope marks sys ⟨rfl, rfl, rfl, l, hlink, hl, hmarks⟩
    have hreturned := (Operation.served_transaction hblock .connection name sys).returned l rfl hlink hl
    obtain ⟨l', hlink', hl', hmarks', _⟩ := hreturned.link
    exact ⟨hreturned.disk, hreturned.lent, hreturned.scope, l', hlink', hl', by rwa [hmarks']⟩
  | sequence first second ihfirst ihsecond => exact (ihfirst hw.1).bind fun _ => ihsecond hw.2
  | rescue body handler ihbody ihhandler => exact (ihbody hw.1).handling fun _ => ihhandler hw.2

end Work

end RowGuard

/-! ## Teams -/

namespace RowGuard.Teams

/-- The caller has added cleo, set a savepoint, and added dora. -/
def busy : Link where
  transaction := some {
    view := some (database [[.text "ann", .text "ants"], [.text "cleo", .text "ants"], [.text "dora", .text "bees"]])
    writes := true
    marks := [some (database [[.text "ann", .text "ants"], [.text "cleo", .text "ants"]])] }

def busyCaller : System := { system with link := some busy }

/-- Bob joins; then eve is to be added to a team that there is not, in a block of its own, which fails; then fay
joins instead. -/
def registration : Work :=
  .sequence (.operation (.guarded (joins "bob" "bees")))
    (.rescue (.block "inner" (.sequence (.script (add "gus" "ants")) (.script (add "eve" "wasps"))))
      (.operation (.guarded (joins "fay" "ants"))))

theorem careful_joins (name team : String) : (joins name team).Careful where
  evaluator := Evaluator.observes_fixed {}
  mutation r mutation htask := by
    obtain ⟨rfl, rfl⟩ := Guarded.Task.mutate.inj htask
    exact Script.contained_run _

theorem careful_registration : registration.Careful :=
  ⟨careful_joins _ _, ⟨trivial, trivial⟩, careful_joins _ _⟩

/-- In a block bob and fay join, and what has been done meanwhile for gus and eve is undone. The caller's
members are still there, and so is its savepoint. -/
theorem frames_lent_transaction_registration :
    ∃ outcome sys', (Operation.block "register" registration.run).run busyCaller = (outcome, sys') ∧
      System.Returned busy busyCaller sys'.seen sys' ∧
      sys'.seen = database [[.text "ann", .text "ants"], [.text "cleo", .text "ants"],
        [.text "dora", .text "bees"], [.text "bob", .text "bees"], [.text "fay", .text "ants"]] ∧
      (∃ sys'', Sys.rollbackHere .outermost sys' = (.ok (), sys'') ∧ sys''.disk = system.disk) ∧
      ∃ sys'', Sys.commitHere .outermost sys' = (.ok (), sys'') ∧ sys''.disk = sys'.seen := by
  have hseen : ((Operation.block "register" registration.run).run busyCaller).2.seen =
      database [[.text "ann", .text "ants"], [.text "cleo", .text "ants"],
        [.text "dora", .text "bees"], [.text "bob", .text "bees"], [.text "fay", .text "ants"]] := by
    decide +kernel
  have hcan : ((Operation.block "register" registration.run).run busyCaller).2.canCommit = true := by
    decide +kernel
  have hcareful : (Operation.block "register" registration.run).Careful :=
    Work.contained_run careful_registration
  obtain ⟨outcome, sys', hrun, hreturned, _, _, ⟨rolled, hroll, hdisk, _⟩, hcommit, _⟩ :=
    Operation.frames_lent_transaction hcareful (rfl : busyCaller.link = some busy) ⟨⟨rfl, rfl⟩, rfl⟩
  rw [hrun] at hseen hcan
  obtain ⟨committed, hcommitted, hstored, _⟩ := hcommit hcan
  exact ⟨outcome, sys', hrun, hreturned, hseen, ⟨rolled, hroll, hdisk⟩, committed, hcommitted, hstored⟩

end RowGuard.Teams
