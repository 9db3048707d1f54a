import RowGuard.Proofs.Evaluator.Answers

/-!
# Evaluators that supply fragments

An evaluator is asked for one fragment at a time. What it has to do then is little: to make one that is fresh and is
for what was asked, or to fail without leaving one behind (`Evaluator.Supplies`). The local evaluator and the one with
fixed answers do so, and asking again or recording does so with an evaluator that does.
-/

namespace RowGuard

/-- The fragment is fresh, and for the action on the column. -/
structure Fragment.FreshFor (action type columnRef : Data) (f : Fragment) : Prop where
  fresh : f.embedded = false
  action : f.action = action
  type : f.resourceType = type
  columnRef : f.columnRef = columnRef

namespace Sys

variable {α : Type} {action type columnRef : Data} {sys sys' : System} {call : Sys FragmentId}

/-- What a call for a fragment comes to: one more fragment, or a fault and none. -/
inductive Supplied (action type columnRef : Data) (sys sys' : System) : Except Fault FragmentId → Prop where
  | supplied (f : Fragment) (fresh : f.FreshFor action type columnRef)
      (added : sys'.fragments.all = sys.fragments.all.push f) :
      Supplied action type columnRef sys sys' (.ok sys.fragments.all.size)
  | refused (fault : Fault) (kept : sys'.fragments = sys.fragments) :
      Supplied action type columnRef sys sys' (.error fault)

/-- The call supplies a fragment for the action on the column whenever it succeeds. -/
def Supplies (action type columnRef : Data) (call : Sys FragmentId) : Prop :=
  ∀ sys, Supplied action type columnRef sys (call sys).2 (call sys).1

theorem Supplied.of_fragments_eq {before : System} {outcome : Except Fault FragmentId}
    (h : Supplied action type columnRef sys sys' outcome) (heq : sys.fragments = before.fragments) :
    Supplied action type columnRef before sys' outcome := by
  cases h with
  | supplied f fresh added =>
    rw [heq] at added ⊢
    exact .supplied f fresh added
  | refused fault kept => exact .refused fault (kept.trans heq)

namespace Supplies

theorem throw (fault : Fault) : Supplies action type columnRef (MonadExcept.throw fault) :=
  fun _ => .refused fault rfl

theorem addFragment {f : Fragment} (hf : f.FreshFor action type columnRef) :
    Supplies action type columnRef (Sys.addFragment f) := fun _ => .supplied f hf rfl

/-- A call after something that compiles nothing. -/
theorem after {x : Sys α} {call : α → Sys FragmentId} (hx : CompilesNothing x)
    (hcall : ∀ a, Supplies action type columnRef (call a)) : Supplies action type columnRef (x >>= call) := by
  intro sys
  have hkept := hx.fragments sys
  obtain ⟨outcome, sys₁, hrun⟩ : ∃ outcome sys₁, x sys = (outcome, sys₁) := ⟨_, _, rfl⟩
  rw [hrun] at hkept
  cases outcome with
  | error fault =>
    rw [bind_of_error hrun]
    exact .refused fault hkept
  | ok a =>
    rw [bind_of_ok hrun]
    exact (hcall a sys₁).of_fragments_eq hkept

/-- A call after which something is noted. -/
theorem noting (hcall : Supplies action type columnRef call) {note : FragmentId → System → System}
    (hnote : ∀ id sys, (note id sys).fragments = sys.fragments) :
    Supplies action type columnRef (do let id ← call; modify (note id); return id) := by
  intro sys
  have hsupplied := hcall sys
  obtain ⟨outcome, sys₁, hrun⟩ : ∃ outcome sys₁, call sys = (outcome, sys₁) := ⟨_, _, rfl⟩
  rw [hrun] at hsupplied
  cases hsupplied with
  | refused fault kept =>
    rw [bind_of_error hrun]
    exact .refused fault kept
  | supplied f fresh added =>
    rw [bind_of_ok hrun]
    exact .supplied f fresh ((congrArg FragmentPool.all (hnote _ sys₁)).trans added)

theorem handling {handle : Fault → Sys FragmentId} (hcall : Supplies action type columnRef call)
    (hhandle : ∀ fault, Supplies action type columnRef (handle fault)) :
    Supplies action type columnRef (Sys.handling call handle) := by
  intro sys
  have hsupplied := hcall sys
  unfold Sys.handling
  obtain ⟨outcome, sys₁, hrun⟩ : ∃ outcome sys₁, call sys = (outcome, sys₁) := ⟨_, _, rfl⟩
  rw [hrun] at hsupplied ⊢
  cases hsupplied with
  | supplied f fresh added => exact .supplied f fresh added
  | refused fault kept => exact (hhandle fault sys₁).of_fragments_eq kept

end Supplies

end Sys

namespace Evaluator

open Sys

/-- Whatever the evaluator is asked to compile, it makes one fresh fragment for it, or fails and makes none. -/
def Supplies (e : Evaluator) : Prop :=
  ∀ s action type columnRef, Sys.Supplies action type columnRef (e.compile s action type columnRef)

theorem supplies_fixed (a : FixedAnswers) : (fixed a).Supplies :=
  fun _ _ _ _ => .after (fun _ => keeps_answerCall (fun _ _ h => h) a) fun _ => .addFragment ⟨rfl, rfl, rfl, rfl⟩

theorem supplies_retrying {inner : Evaluator} (h : inner.Supplies) (config : Option Config) (pauses : Pauses) :
    (retrying config inner pauses).Supplies := by
  intro s action type columnRef
  refine .after (compilesNothing_configOr config) ?_
  intro c
  cases c.retryAttempts.toInt? with
  | none => exact .throw _
  | some n =>
    refine retryLoop_of_call (fun _ hx hf => .after hx hf) .throw ?_ _ _ _ _ _ _
    intro handle hcaught hpassed
    refine (h s action type columnRef).handling ?_
    intro fault
    cases hsql : fault.isSql with
    | false => exact hcaught fault hsql
    | true =>
      rw [hpassed fault hsql]
      exact .throw fault

theorem supplies_recording {inner : Evaluator} (h : inner.Supplies) : (recording (pure ()) inner).Supplies :=
  fun s action type columnRef => (h s action type columnRef).noting fun _ _ => rfl

end Evaluator

theorem LocalEvaluator.supplies {ν : Type} [BEq ν] [ReflBEq ν] [Name ν] (e : LocalEvaluator ν) :
    e.toEvaluator.Supplies := by
  intro s action type columnRef sys
  show Sys.Supplied _ _ _ sys (e.compile s action type columnRef sys).2 (e.compile s action type columnRef sys).1
  cases hplaced : e.placed (e.configIn sys) s action type columnRef with
  | error fault =>
    rw [compile_of_placed_error hplaced]
    exact .refused fault rfl
  | ok f =>
    obtain ⟨c, sql, hc, hsql, -⟩ := placed_eq_ok_iff.mp hplaced
    obtain ⟨sys', hcompile, -, hall⟩ := compile_apply hc hsql
    rw [hcompile]
    exact .supplied _ ⟨rfl, rfl, rfl, rfl⟩ hall

end RowGuard
