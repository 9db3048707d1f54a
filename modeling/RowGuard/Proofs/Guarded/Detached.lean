import RowGuard.Proofs.Guarded.Basic

/-!
# Detached calls on a lent connection

A detached scope ends any transaction on its connection when it is left, also one that the lender has begun. A
call that has been planned therefore loses the lender's work, and its own, even where it gives an answer
(`Guarded.lenders_transaction_of_detached`). The same call without a detached scope leaves the lender's
transaction open.
-/

namespace RowGuard

open Sys Scope

/-- The system when the transaction on its connection was given up: nothing was stored. -/
structure System.GivenUp (disk : Database) (lent : List Link) (scope : Option Scope) (sys : System) :
    Prop where
  disk : sys.disk = disk
  lent : sys.lent = lent
  scope : sys.scope = scope
  link : ∃ l, sys.link = some l ∧ l.Idle

/-- The operation gives up the transaction that it begins in, whatever it comes to. -/
def Sys.GivesUp {α : Type} (x : Sys α) : Prop :=
  ∀ disk lent scope sys, System.Amid disk lent scope sys → System.GivenUp disk lent scope (x sys).2

theorem Sys.GivesUp.then_aside {α β : Type} {x : Sys α} {f : α → Sys β} (hx : GivesUp x)
    (hf : ∀ a, Aside (f a)) : GivesUp (x >>= f) := by
  intro disk lent scope sys hsys
  have hgiven := hx disk lent scope sys hsys
  obtain ⟨outcome, sys₁, hrun⟩ : ∃ outcome sys₁, x sys = (outcome, sys₁) := ⟨_, _, rfl⟩
  rw [hrun] at hgiven
  cases outcome with
  | error f =>
    rw [bind_of_error hrun]
    exact hgiven
  | ok a =>
    rw [bind_of_ok hrun]
    have hkept := (hf a).kept sys₁
    obtain ⟨l, hlink, hl⟩ := hgiven.link
    exact ⟨hkept.disk.trans hgiven.disk, hkept.lent.trans hgiven.lent, hkept.scope.trans hgiven.scope,
      l, hkept.link.trans hlink, hl⟩

namespace Scope

variable {α : Type} {body : Sys α}

/-- A detached scope on a lent connection gives up the lender's transaction. -/
theorem givesUp_withinDetached (hbody : StaysInside body) (operation : String) :
    GivesUp (withinDetached .connection operation body) := by
  rintro disk lent scope sys ⟨hdisk, hlent, rfl, hlink⟩
  have hopened : System.Amid disk lent (some { operation }) { sys with scope := some { operation } } :=
    ⟨hdisk, hlent, rfl, hlink⟩
  obtain ⟨hdisk₁, hlent₁, hscope₁, l, hlink₁, hopen⟩ := hbody _ _ _ _ hopened
  show System.GivenUp disk lent sys.scope (held operation rollbackAll body sys).2
  rw [held_apply]
  obtain ⟨outcome, sys₁, hrun⟩ : ∃ outcome sys₁,
      body { sys with scope := some { operation } } = (outcome, sys₁) := ⟨_, _, rfl⟩
  rw [hrun] at hdisk₁ hlent₁ hlink₁ ⊢
  dsimp only at hdisk₁ hlent₁ hlink₁ ⊢
  obtain ⟨journal, hleft⟩ := leave_snd operation rollbackAll outcome sys₁
  have hall : rollbackAll sys₁ = ((l.rollback .outermost).1.mapError .sql,
      { sys₁ with link := some (l.rollback .outermost).2 }) := by
    unfold rollbackAll
    rw [bind_of_ok (currentLink_of_some hlink₁), hopen, if_pos rfl, rollbackHere_apply hlink₁]
  rw [hleft, hall]
  exact ⟨hdisk₁, hlent₁, rfl, _, rfl, Link.idle_rollback hopen⟩

end Scope

/-! ## Planned calls -/

section Planned

variable {α β : Type} {x : Sys α} {f : α → Sys β} {sys : System} {l : Link}

/-- What is given up on the connection if it is planned, and left alone if it is not. -/
structure Sys.GivesUpIf (planned : Prop) (l : Link) (x : Sys α) (sys : System) : Prop where
  disk : (x sys).2.disk = sys.disk
  ended : planned → ∃ l', (x sys).2.link = some l' ∧ l'.Idle
  refused : ¬ planned → (x sys).2.link = some l ∧ ∃ f, (x sys).1 = .error f

theorem Sys.GivesUp.of_link (hx : GivesUp x) (hlink : sys.link = some l) (hopen : l.inTransaction = true) :
    System.GivenUp sys.disk sys.lent sys.scope (x sys).2 :=
  hx _ _ _ _ ⟨rfl, rfl, rfl, l, hlink, hopen⟩

/-- What is planned aside and then given up is given up unless planning fails. -/
theorem Sys.GivesUpIf.after_planning (hx : Aside x) (hf : ∀ a, GivesUp (f a)) (hlink : sys.link = some l)
    (hopen : l.inTransaction = true) : GivesUpIf (∃ a, (x sys).1 = .ok a) l (x >>= f) sys := by
  have hkept := hx.kept sys
  obtain ⟨outcome, sys₁, hrun⟩ : ∃ outcome sys₁, x sys = (outcome, sys₁) := ⟨_, _, rfl⟩
  rw [hrun] at hkept ⊢
  have hlink₁ : sys₁.link = some l := hkept.link.trans hlink
  cases outcome with
  | error e =>
    have hstopped : (x >>= f) sys = (.error e, sys₁) := bind_of_error hrun
    exact ⟨by rw [hstopped]; exact hkept.disk, by simp, fun _ => by rw [hstopped]; exact ⟨hlink₁, _, rfl⟩⟩
  | ok a =>
    have hgiven := (hf a).of_link hlink₁ hopen
    have hgoes : (x >>= f) sys = f a sys₁ := bind_of_ok hrun
    rw [← hgoes] at hgiven
    exact ⟨hgiven.disk.trans hkept.disk, fun _ => hgiven.link, by simp⟩

end Planned

namespace Guarded

variable {g : Guarded} {sys : System} {l : Link}

/-- A call that was planned gives up the transaction; one that was not is refused before it has used the
connection. -/
theorem givesUpIf_runDetached (hg : g.Honest) (hlink : sys.link = some l) (hopen : l.inTransaction = true) :
    GivesUpIf (g.IsPlanned sys) l (g.runDetached .connection) sys := by
  obtain ⟨e, s, task, config⟩ := g
  have he : e.OnlyAnswers := hg.evaluator
  cases task with
  | list r =>
    have hrun : runDetached ⟨e, s, .list r, config⟩ .connection = (do
        let p ← Listing.plan e s r
        let l ← withinDetached .connection (Listing.operation r.type) (Listing.execute .connection p)
        Listing.logListed config s r l
        return .rows l) := by
      simp only [runDetached, Listing.listDetached, bind_assoc, pure_bind]
    rw [hrun]
    refine .after_planning (Listing.aside_plan he s r) ?_ hlink hopen
    intro p
    refine (givesUp_withinDetached (Listing.staysInside_execute p) _).then_aside ?_
    exact fun l => (Listing.aside_logListed config s r l).bind fun _ => Aside.pure _
  | mutate r mutation =>
    have hmutation := Mutation.staysInside_guarded he (hg.mutation r mutation rfl) config s r
    have hgiven := ((givesUp_withinDetached hmutation r.operation).then_aside fun d =>
      Aside.pure (Answer.value d)).of_link hlink hopen
    exact ⟨hgiven.disk, fun _ => hgiven.link, fun hnot => absurd trivial hnot⟩
  | batch deletes r =>
    refine .after_planning (aside_planBatch he deletes r) ?_ hlink hopen
    intro b
    exact (givesUp_withinDetached (Batch.staysInside_execute b) _).then_aside fun n => Aside.pure _

/-- A detached call on a connection with a transaction of the lender ends that transaction and stores nothing
of it, whatever the call comes to, unless it was refused while it was planned. Without a detached scope the
transaction is left open. -/
theorem lenders_transaction_of_detached (hg : g.Honest) (hlink : sys.link = some l)
    (hopen : l.inTransaction = true) :
    (∃ l', (g.run .connection sys).2.link = some l' ∧ l'.inTransaction = true) ∧
      (g.runDetached .connection sys).2.disk = sys.disk ∧
      (g.IsPlanned sys → ∃ l', (g.runDetached .connection sys).2.link = some l' ∧ l'.transaction = none ∧
        l'.inTransaction = false ∧ (g.runDetached .connection sys).2.seen = sys.disk) ∧
      (¬ g.IsPlanned sys → (g.runDetached .connection sys).2.link = some l ∧
        ∃ f, (g.runDetached .connection sys).1 = .error f) := by
  have hgiven := givesUpIf_runDetached hg hlink hopen
  refine ⟨?_, hgiven.disk, ?_, hgiven.refused⟩
  · exact (staysInside_run hg _ _ _ _ ⟨rfl, rfl, rfl, l, hlink, hopen⟩).link
  · intro hplanned
    obtain ⟨l', hlink', hl'⟩ := hgiven.ended hplanned
    refine ⟨l', hlink', hl'.ended, hl'.inTransaction_eq, ?_⟩
    rw [System.seen_of_some hlink', hl'.view_eq]
    exact hgiven.disk

end Guarded

end RowGuard

/-! ## A lender at work -/

namespace RowGuard.Teams

/-- Cleo has joined the ants, in a transaction that goes on. -/
def lendersLink : Link :=
  { transaction := some {
      view := some (database [[.text "ann", .text "ants"], [.text "cleo", .text "ants"]])
      writes := true } }

def lending : System := { system with link := some lendersLink }

/-- When bob has joined in a detached scope, the lender's transaction is over. -/
theorem lenders_transaction_when_bob_joins :
    (∃ l, ((joins "bob" "bees").run .connection lending).2.link = some l ∧ l.inTransaction = true) ∧
      ∃ l, ((joins "bob" "bees").runDetached .connection lending).2.link = some l ∧ l.inTransaction = false := by
  obtain ⟨hopen, _, hended, _⟩ :=
    Guarded.lenders_transaction_of_detached (honest_joins "bob" "bees")
      (rfl : lending.link = some lendersLink) (by decide)
  obtain ⟨l, hlink, _, hclosed, _⟩ := hended trivial
  exact ⟨hopen, l, hlink, hclosed⟩

/-- Bob's joining in a detached scope gives its value, and neither cleo nor bob has joined afterwards; nor is
there a transaction left that the lender could commit. Without a detached scope both have joined in the
lender's transaction, and its commit stores that. -/
theorem cleo_is_lost :
    ((joins "bob" "bees").runDetached .connection lending).1.isOk = true ∧
      ((joins "bob" "bees").runDetached .connection lending).2.link.map (·.inTransaction) = some false ∧
      ((joins "bob" "bees").runDetached .connection lending).2.seen = database [[.text "ann", .text "ants"]] ∧
      ((joins "bob" "bees").run .connection lending).1.isOk = true ∧
      (((joins "bob" "bees").run .connection >>= fun _ => Sys.commitHere .outermost) lending).2.disk =
        database [[.text "ann", .text "ants"], [.text "cleo", .text "ants"], [.text "bob", .text "bees"]] := by
  decide +kernel

end RowGuard.Teams
