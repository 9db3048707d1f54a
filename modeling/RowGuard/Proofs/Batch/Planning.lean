import RowGuard.Proofs.Batch.Compilation
import RowGuard.Proofs.Evaluator.Answers
import RowGuard.Proofs.Globals

/-!
# Planning as a function

What planning a batch of the local evaluator comes to is a function of the configuration and of the registered
tables: nothing in a plan depends on what is stored (`Job.plan_apply`). Carrying out a plan is a function of what is
stored at that moment and of the other connections, and gives what planning and carrying out in one go gives
(`Job.carryOut_apply`, `Job.run_apply`).
-/

namespace RowGuard

/-- The connections in use and the global state are the same in both systems. -/
structure System.SameSetting (a b : System) : Prop where
  link : b.link = a.link
  lent : b.lent = a.lent
  globals : b.globals = a.globals

namespace System.SameSetting

variable {a b c : System}

theorem refl (a : System) : a.SameSetting a := ⟨rfl, rfl, rfl⟩

theorem trans (hab : a.SameSetting b) (hbc : b.SameSetting c) : a.SameSetting c :=
  ⟨hbc.link.trans hab.link, hbc.lent.trans hab.lent, hbc.globals.trans hab.globals⟩

theorem of_kept (h : a.Kept b) : a.SameSetting b := ⟨h.link, h.lent, h.globals⟩

theorem others (h : a.SameSetting b) : b.others = a.others := by
  unfold System.others
  rw [h.link, h.lent]

end System.SameSetting

namespace Batch

/-- A batch that is carried out comes to its answer, in the setting that it found. -/
theorem execute_apply (b : Batch) (reachable : Bool) (sys : System) :
    ∃ sys', execute (.engine reachable) b sys = ((b.answer reachable sys.others sys.disk).1, sys') ∧
      sys'.disk = (b.answer reachable sys.others sys.disk).2 ∧ sys.SameSetting sys' := by
  obtain ⟨sys', hexecute, hdisk, hlink, hlent⟩ := execute_answer b reachable sys
  have hglobals := keeps_executed (System.lasting_globals sys.globals) (.engine reachable) b sys rfl
  rw [hexecute] at hglobals
  exact ⟨sys', hexecute, hdisk, hlink, hlent, hglobals⟩

/-- An update or deletion of a batch through an engine, with the local evaluator. -/
structure Job (ν : Type) where
  evaluator : LocalEvaluator ν
  subject : Subject
  deletes : Bool
  request : Request
  config : Option Config := none
  reachable : Bool := true

namespace Job

variable {ν : Type} [BEq ν] [ReflBEq ν] [Name ν] (j : Job ν) {b : Batch} {sys : System} {g : Globals}

/-- Plans the batch. -/
def plan : Sys Batch :=
  if j.deletes then planDelete j.evaluator.toEvaluator j.config j.subject j.request
  else planUpdate j.evaluator.toEvaluator j.config j.subject j.request

/-- Carries out what planning has come to. -/
def carryOut (outcome : Except Fault Batch) : Sys Nat := do
  let b ← Sys.ofExcept outcome
  execute (.engine j.reachable) b

/-- Plans the batch and carries it out. -/
def run : Sys Nat := do
  let b ← j.plan
  execute (.engine j.reachable) b

/-- What is to be done with the rows, if the columns that are to be set are valid. -/
def change? (m : Mapping) : Except Fault Change :=
  if j.deletes then .ok .delete
  else do
    (checkColumns m j.request.targets j.request.constant).mapError .batch
    return .update (keysOf j.request.targets) j.request.constant

/-- What planning comes to with the global state. -/
def planned (g : Globals) : Except Fault Batch := do
  let config := j.config.getD g.config
  let m ← g.registry.lookup j.request.type
  checkTargets config j.request.targets
  let change ← j.change? m
  let fragment ← j.evaluator.placed (j.evaluator.config.getD g.config) j.subject j.request.action j.request.type
    (.text m.columnRef)
  return {
    subject := j.subject
    action := j.request.action
    type := j.request.type
    mapping := m
    targets := j.request.targets
    change
    excluded := if j.request.excludeSelf && j.subject.type == j.request.type then some j.subject.id else none
    fragment
    config }

/-- What the job answers, and what is stored then. -/
def answer (g : Globals) (others : List Link) (db : Database) : Except Fault Nat × Database :=
  match j.planned g with
  | .error f => (.error f, db)
  | .ok b => b.answer j.reachable others db

theorem aside_plan : Sys.Aside j.plan := by
  unfold plan
  have he := j.evaluator.onlyAnswers
  cases j.deletes with
  | true => exact aside_planDelete he _ _ _
  | false => exact aside_planUpdate he _ _ _

theorem lookup_bind_fst {α : Type} (type : Data) (f : Mapping → Sys α) (sys : System) :
    ((lookup type >>= f) sys).1 = sys.globals.registry.lookup type >>= fun m => (f m sys).1 :=
  Sys.ofExcept_bind_fst (sys.globals.registry.lookup type) f sys

/-- Placing the fragment comes to what the condition and its text come to. -/
theorem restrict_fst {e : LocalEvaluator ν} {config : Config} {s : Subject} {r : Request} {m : Mapping}
    {change : Change} (sys : System) :
    (restrict e.toEvaluator config s r m change sys).1 =
      e.placed (e.configIn sys) s r.action r.type (.text m.columnRef) >>= fun fragment => .ok {
        subject := s
        action := r.action
        type := r.type
        mapping := m
        targets := r.targets
        change
        excluded := if r.excludeSelf && s.type == r.type then some s.id else none
        fragment
        config } := by
  cases hplaced : e.placed (e.configIn sys) s r.action r.type (.text m.columnRef) with
  | error f => exact congrArg Prod.fst (Sys.bind_of_error (LocalEvaluator.compile_of_placed_error hplaced))
  | ok f =>
    obtain ⟨c, sql, hc, hsql, rfl⟩ := LocalEvaluator.placed_eq_ok_iff.mp hplaced
    obtain ⟨sys', hrestricted⟩ := exists_restrict hc hsql
    rw [hrestricted]
    rfl

theorem plan_fst (sys : System) : (j.plan sys).1 = j.planned sys.globals := by
  unfold plan planned change?
  cases j.deletes with
  | true =>
    rw [if_pos rfl]
    unfold planDelete
    rw [Sys.bind_of_ok (Sys.configOr_apply _), lookup_bind_fst]
    simp only [Sys.ofExcept_bind_fst, restrict_fst]
    rfl
  | false =>
    rw [if_neg Bool.false_ne_true]
    unfold planUpdate
    rw [Sys.bind_of_ok (Sys.configOr_apply _), lookup_bind_fst]
    simp only [Sys.ofExcept_bind_fst, restrict_fst, Bool.false_eq_true, if_false, bind_assoc, pure_bind]
    rfl

/-- Planning comes to what the global state says, and works aside. -/
theorem plan_apply (sys : System) : ∃ sys', j.plan sys = (j.planned sys.globals, sys') ∧ sys.Kept sys' :=
  ⟨(j.plan sys).2, Prod.ext (j.plan_fst sys) rfl, j.aside_plan.kept sys⟩

/-- Carrying out what planning comes to gives the job's answer, in the setting that was found. -/
theorem carryOut_apply (sys : System) : ∃ sys', j.carryOut (j.planned sys.globals) sys =
      ((j.answer sys.globals sys.others sys.disk).1, sys') ∧
    sys'.disk = (j.answer sys.globals sys.others sys.disk).2 ∧ sys.SameSetting sys' := by
  unfold carryOut answer
  cases j.planned sys.globals with
  | error f => exact ⟨sys, rfl, rfl, .refl sys⟩
  | ok b => exact execute_apply b j.reachable sys

/-- So does planning the batch and carrying it out in one go. -/
theorem run_apply (sys : System) : ∃ sys', j.run sys =
      ((j.answer sys.globals sys.others sys.disk).1, sys') ∧
    sys'.disk = (j.answer sys.globals sys.others sys.disk).2 ∧ sys.SameSetting sys' := by
  obtain ⟨sys₁, hplan, hkept⟩ := j.plan_apply sys
  have hsetting : sys.SameSetting sys₁ := .of_kept hkept
  have hrun : j.run sys = j.carryOut (j.planned sys.globals) sys₁ := by
    unfold run carryOut
    cases hplanned : j.planned sys.globals with
    | error f => exact Sys.bind_of_error (hplanned ▸ hplan)
    | ok b => exact Sys.bind_of_ok (hplanned ▸ hplan)
  obtain ⟨sys₂, hcarried, hdisk, hkeeps⟩ := j.carryOut_apply sys₁
  rw [hsetting.globals, hsetting.others, hkept.disk] at hcarried hdisk
  exact ⟨sys₂, hrun.trans hcarried, hdisk, hsetting.trans hkeeps⟩

end Job

end Batch

end RowGuard
