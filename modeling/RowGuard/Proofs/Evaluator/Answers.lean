import RowGuard.Proofs.Batch.Plan
import RowGuard.Proofs.Evaluator.Local
import RowGuard.Proofs.Session.Inside

/-!
# Evaluators that only answer

An evaluator that only answers compiles conditions aside from the connection, and in a point check on the
caller's connection it only looks at the database (`Evaluator.OnlyAnswers`). The local evaluator does, the one
with fixed answers does, and those that ask again or record do if the evaluator inside does and nothing else
is done after a compilation.
-/

namespace RowGuard

namespace Sys

variable {α β : Type} {x : Sys α} {f : α → Sys β}

theorem Aside.staysInside (hx : Aside x) : StaysInside x :=
  fun _ _ _ => hx.keeps System.Amid.of_kept

/-- The outcome is none that the database is to blame for. -/
def Unharmed (outcome : Except Fault α) : Prop := ∀ f, outcome = .error f → f.isSql = false

/-- The operation only looks at the database: it stays inside the transaction, and unless the database fails,
the connection is intact afterwards and sees what it saw before. -/
structure Looks (x : Sys α) : Prop where
  inside : StaysInside x
  intact : ∀ sys l, sys.link = some l → l.InProgress → Unharmed (x sys).1 →
    ∃ l', (x sys).2.link = some l' ∧ l'.InProgress ∧ l'.view sys.disk = l.view sys.disk

theorem Aside.looks (hx : Aside x) : Looks x where
  inside := hx.staysInside
  intact sys l hlink hl _ := ⟨l, (hx.kept sys).link.trans hlink, hl, rfl⟩

/-- An operation inside a transaction leaves the stored database as it is. -/
theorem StaysInside.disk_eq (hx : StaysInside x) {sys : System} {l : Link} (hlink : sys.link = some l)
    (hl : l.inTransaction = true) : (x sys).2.disk = sys.disk :=
  (hx sys.disk sys.lent sys.scope sys ⟨rfl, rfl, rfl, l, hlink, hl⟩).disk

namespace Looks

theorem bind (hx : Looks x) (hf : ∀ a, Looks (f a)) : Looks (x >>= f) where
  inside := hx.inside.bind fun a => (hf a).inside
  intact sys l hlink hl hunharmed := by
    have hintact := hx.intact sys l hlink hl
    have hdisk := hx.inside.disk_eq hlink hl.inTransaction_eq
    obtain ⟨outcome, sys₁, hrun⟩ : ∃ outcome sys₁, x sys = (outcome, sys₁) := ⟨_, _, rfl⟩
    rw [hrun] at hintact hdisk
    cases outcome with
    | error e =>
      rw [bind_of_error hrun] at hunharmed ⊢
      exact hintact fun f hf => hunharmed f (by rw [← Except.error.inj hf])
    | ok a =>
      rw [bind_of_ok hrun] at hunharmed ⊢
      obtain ⟨l₁, hlink₁, hl₁, hview₁⟩ := hintact (by simp [Unharmed])
      obtain ⟨l₂, hlink₂, hl₂, hview₂⟩ := (hf a).intact sys₁ l₁ hlink₁ hl₁ hunharmed
      dsimp only at hdisk
      rw [hdisk] at hview₂
      exact ⟨l₂, hlink₂, hl₂, hview₂.trans hview₁⟩

/-- A statement that gives back the database it reads only looks at it. -/
theorem execute {st : Link.Statement α}
    (hsame : ∀ db a db', st.run db = .ok (a, db') → db' = db) : Looks (Sys.execute st) where
  inside := StaysInside.execute st
  intact sys l hlink hl _ := by
    rw [execute_of_some hlink]
    refine ⟨_, rfl, ?_⟩
    obtain ⟨hgoes, hview⟩ := hl.execute sys.disk sys.lent st
    refine ⟨hgoes, ?_⟩
    cases houtcome : (l.execute sys.disk sys.lent st).1 with
    | error f =>
      rw [houtcome] at hview
      exact hview
    | ok a =>
      rw [houtcome] at hview
      exact hsame _ _ _ hview

/-- Faults that the database is to blame for are passed on, and what is done about others only looks. -/
theorem handling {handle : Fault → Sys α} (hx : Looks x)
    (hcaught : ∀ f, f.isSql = false → Looks (handle f))
    (hpassed : ∀ f, f.isSql = true → handle f = throw f) : Looks (Sys.handling x handle) where
  inside := by
    refine fun disk lent scope => (hx.inside disk lent scope).handling ?_
    intro f
    cases hsql : f.isSql with
    | false => exact (hcaught f hsql).inside disk lent scope
    | true =>
      rw [hpassed f hsql]
      exact Keeps.throw f
  intact sys l hlink hl hunharmed := by
    have hintact := hx.intact sys l hlink hl
    have hdisk := hx.inside.disk_eq hlink hl.inTransaction_eq
    unfold Sys.handling at hunharmed ⊢
    obtain ⟨outcome, sys₁, hrun⟩ : ∃ outcome sys₁, x sys = (outcome, sys₁) := ⟨_, _, rfl⟩
    rw [hrun] at hintact hdisk hunharmed ⊢
    cases outcome with
    | ok a => exact hintact (by simp [Unharmed])
    | error f =>
      cases hsql : f.isSql with
      | true =>
        dsimp only at hunharmed
        rw [hpassed f hsql] at hunharmed
        exact absurd (hunharmed f rfl) (by simp [hsql])
      | false =>
        obtain ⟨l₁, hlink₁, hl₁, hview₁⟩ := hintact fun f' hf' => by rw [← Except.error.inj hf', hsql]
        obtain ⟨l₂, hlink₂, hl₂, hview₂⟩ := (hcaught f hsql).intact sys₁ l₁ hlink₁ hl₁ hunharmed
        dsimp only at hdisk
        rw [hdisk] at hview₂
        exact ⟨l₂, hlink₂, hl₂, hview₂.trans hview₁⟩

end Looks

end Sys

/-! ## Evaluators -/

namespace Evaluator

open Sys

variable {α : Type}

/-- The evaluator compiles aside from the connection, and checks on the caller's connection only look at the
database. -/
structure OnlyAnswers (e : Evaluator) : Prop where
  check : ∀ s action r, Looks (e.check true s action r)
  compile : ∀ s action type columnRef, Aside (e.compile s action type columnRef)

/-- An evaluator that only answers stores nothing. -/
theorem OnlyAnswers.storesNothing {e : Evaluator} (he : e.OnlyAnswers) : e.StoresNothing :=
  fun s action type columnRef => (he.compile s action type columnRef).storesNothing

theorem keeps_throwIf {P : System → Prop} (fails : Bool) :
    Keeps P (if fails then throw (.unavailable "policy service unreachable") else pure () : Sys Unit) := by
  cases fails with
  | false => exact Keeps.pure _
  | true => exact Keeps.throw _

/-- Giving an answer that is laid down in advance changes nothing but what is watched. -/
theorem keeps_answerCall {P : System → Prop} (hP : ∀ sys watch, P sys → P { sys with watch }) (a : FixedAnswers) :
    Keeps P a.answerCall := by
  refine Keeps.get.bind ?_
  intro sys
  refine (Keeps.ofExcept _).bind ?_
  intro calls
  refine Keeps.bind (fun _ h => hP _ _ h) ?_
  intro _
  split
  case isFalse => exact Keeps.pure _
  case isTrue =>
    split
    case isTrue =>
      refine (Keeps.pure true).bind ?_
      intro fails
      exact keeps_throwIf fails
    case isFalse =>
      refine ((Keeps.ofExcept _).bind fun _ => Keeps.pure _).bind ?_
      intro fails
      exact keeps_throwIf fails

theorem aside_answerCall (a : FixedAnswers) : Aside a.answerCall :=
  fun _ => keeps_answerCall (fun _ _ h => h.trans ⟨rfl, rfl, rfl, rfl, rfl⟩) a

/-- Answers that are laid down in advance are given aside. -/
theorem onlyAnswers_fixed (a : FixedAnswers) : (fixed a).OnlyAnswers where
  check _ _ _ := ((aside_answerCall a).bind fun _ => Aside.pure _).looks
  compile _ _ _ _ := (aside_answerCall a).bind fun _ => Aside.addFragment _

theorem aside_warn (pauses : Pauses) (name : String) (attempts attempt : Nat) (delay : Number) :
    Aside (warn pauses name attempts attempt delay) :=
  (Aside.ofExcept _).bind fun _ => Aside.log _ _ _

theorem aside_wait (pauses : Pauses) (delay : Number) : Aside (wait pauses delay) :=
  (Aside.ofExcept _).bind fun _ => Aside.modify fun _ => ⟨rfl, rfl, rfl, rfl, rfl⟩

theorem compilesNothing_warn (pauses : Pauses) (name : String) (attempts attempt : Nat) (delay : Number) :
    CompilesNothing (warn pauses name attempts attempt delay) :=
  fun _ => (Keeps.ofExcept _).bind fun _ _ h => h

theorem compilesNothing_wait (pauses : Pauses) (delay : Number) : CompilesNothing (wait pauses delay) :=
  fun _ => (Keeps.ofExcept _).bind fun _ _ h => h

/-- What can be put after something that is done aside and compiles nothing, and can catch that the evaluator was
unavailable, for which the database is not to blame, holds of asking again. -/
theorem retryLoop_of_call {Q : Sys α → Prop} {call : Sys α}
    (hafter : ∀ {β : Type} {x : Sys β} {f : β → Sys α},
      Aside x → CompilesNothing x → (∀ b, Q (f b)) → Q (x >>= f))
    (hthrow : ∀ f, Q (throw f))
    (hcatch : ∀ {handle : Fault → Sys α}, (∀ f, f.isSql = false → Q (handle f)) →
      (∀ f, f.isSql = true → handle f = throw f) → Q (handling call handle))
    (pauses : Pauses) (name : String) (attempts : Nat) :
    ∀ (left attempt : Nat) (delay : Number), Q (retryLoop pauses name attempts call left attempt delay) := by
  intro left
  induction left with
  | zero => exact fun _ _ => hthrow _
  | succ left ih =>
    intro attempt delay
    refine hcatch ?_ ?_
    · intro f _
      cases f with
      | unavailable message =>
        dsimp only
        split
        case isTrue => exact hthrow _
        case isFalse =>
          exact hafter (aside_warn _ _ _ _ _) (compilesNothing_warn _ _ _ _ _) fun _ =>
            hafter (aside_wait _ _) (compilesNothing_wait _ _) fun _ => ih _ _
      | _ => exact hthrow _
    · intro f hsql
      cases f with
      | unavailable message => simp [Fault.isSql] at hsql
      | _ => rfl

theorem looks_retryLoop {call : Sys α} (hcall : Looks call) (pauses : Pauses) (name : String)
    (attempts left attempt : Nat) (delay : Number) :
    Looks (retryLoop pauses name attempts call left attempt delay) :=
  retryLoop_of_call (fun hx _ hf => hx.looks.bind hf) (fun f => (Aside.throw f).looks) hcall.handling
    pauses name attempts left attempt delay

theorem aside_retryLoop {call : Sys α} (hcall : Aside call) (pauses : Pauses) (name : String)
    (attempts left attempt : Nat) (delay : Number) :
    Aside (retryLoop pauses name attempts call left attempt delay) := by
  refine retryLoop_of_call (fun hx _ hf => hx.bind hf) Aside.throw ?_ pauses name attempts left attempt delay
  intro handle hcaught hpassed
  refine hcall.handling ?_
  intro f
  cases hsql : f.isSql with
  | false => exact hcaught f hsql
  | true =>
    rw [hpassed f hsql]
    exact Aside.throw f

/-- Asking again does nothing but ask. -/
theorem onlyAnswers_retrying {inner : Evaluator} (h : inner.OnlyAnswers) (config : Option Config) (pauses : Pauses) :
    (retrying config inner pauses).OnlyAnswers where
  check s action r := by
    refine (Aside.configOr config).looks.bind ?_
    intro c
    cases c.retryAttempts.toInt? with
    | none => exact (Aside.throw _).looks
    | some n => exact looks_retryLoop (h.check s action r) _ _ _ _ _ _
  compile s action type columnRef := by
    refine (Aside.configOr config).bind ?_
    intro c
    cases c.retryAttempts.toInt? with
    | none => exact Aside.throw _
    | some n => exact aside_retryLoop (h.compile s action type columnRef) _ _ _ _ _ _

/-- Recording does nothing but note, if nothing else happens after a compilation. -/
theorem onlyAnswers_recording {inner : Evaluator} (h : inner.OnlyAnswers) {after : Sys Unit}
    (hafter : Aside after) : (recording after inner).OnlyAnswers where
  check s action r := by
    refine (h.check s action r).bind ?_
    intro allowed
    refine ((Aside.modify ?_).bind fun _ => Aside.pure allowed).looks
    exact fun _ => ⟨rfl, rfl, rfl, rfl, rfl⟩
  compile s action type columnRef := by
    refine (h.compile s action type columnRef).bind ?_
    intro id
    refine (Aside.modify ?_).bind ?_
    · exact fun _ => ⟨rfl, rfl, rfl, rfl, rfl⟩
    intro _
    exact hafter.bind fun _ => Aside.pure id

end Evaluator

namespace LocalEvaluator

open Sys

variable {ν : Type} [BEq ν] [ReflBEq ν] [Name ν]

theorem looks_ask (c : Condition) (target : Literal) : Looks (ask c target) := by
  unfold ask
  cases Clause.nameFault?.ofAll c with
  | some f => exact (Aside.throw f).looks
  | none =>
    refine Looks.execute ?_
    intro db a db' hrun
    unfold test at hrun
    dsimp only at hrun
    split at hrun
    case isTrue => simp at hrun
    case isFalse =>
      split at hrun
      case isTrue => simp at hrun
      case isFalse =>
        rw [Except.ok.injEq, Prod.mk.injEq] at hrun
        exact hrun.2.symm

theorem aside_logCheck (s : Subject) (action : Data) (r : Resource) (allowed : Bool) :
    Aside (logCheck s action r allowed) := by
  cases allowed with
  | false => exact Aside.log _ _ _
  | true => exact Aside.log _ _ _

/-- A check on the caller's connection tests a condition there, and does the rest aside. -/
theorem check_of_ask {Q : ∀ {α : Type}, Sys α → Prop} (haside : ∀ {α : Type} {x : Sys α}, Aside x → Q x)
    (hbind : ∀ {α β : Type} {x : Sys α} {f : α → Sys β}, Q x → (∀ a, Q (f a)) → Q (x >>= f))
    (hask : ∀ c target, Q (ask c target)) (e : LocalEvaluator ν) (s : Subject) (action : Data) (r : Resource) :
    Q (e.toEvaluator.check true s action r) := by
  refine hbind (x := e.check true s action r) ?_ fun allowed => haside (Aside.pure (Data.bool allowed))
  refine hbind (haside (Aside.configOr e.config)) ?_
  intro config
  refine hbind (haside (Aside.ofExcept _)) ?_
  intro c
  refine hbind (hask c (e.target r)) ?_
  intro allowed
  cases config.logs with
  | false => exact haside (Aside.pure allowed)
  | true => exact haside ((aside_logCheck s action r allowed).bind fun _ => Aside.pure allowed)

theorem onlyAnswers (e : LocalEvaluator ν) : e.toEvaluator.OnlyAnswers where
  check s action r := check_of_ask Aside.looks Looks.bind looks_ask e s action r
  compile s action type columnRef := by
    refine (Aside.configOr e.config).bind ?_
    intro config
    refine (Aside.ofExcept _).bind ?_
    intro c
    refine (Aside.ofExcept _).bind ?_
    intro sql
    refine (Aside.addFragment _).bind ?_
    intro id
    cases config.logs with
    | false => exact Aside.pure id
    | true =>
      refine Aside.bind ((Aside.log _ _ _).bind fun _ => Aside.log _ _ _) ?_
      exact fun _ => Aside.pure id

end LocalEvaluator

end RowGuard
