import RowGuard.Proofs.Lasting

/-!
# The global state

Services read the global configuration and the registry, and change neither (`Sys.KeepsGlobals`), whatever they
come to.
-/

namespace RowGuard

open Sys

/-- The operation leaves the global state as it is. -/
def Sys.KeepsGlobals {α : Type} (x : Sys α) : Prop := ∀ sys, (x sys).2.globals = sys.globals

/-- No step of a connection changes the global state. -/
theorem System.lasting_globals (g : Globals) : System.Lasting (·.globals = g) where
  of_same h _ _ hglobals := hglobals.trans h
  fresh h := h
  returned _ h := h
  begins _ h := h
  commits _ _ h := h
  rollsBack _ _ h := h
  executes _ _ h := h

/-- The evaluator's checks leave the global state as it is. -/
def Evaluator.KeepsGlobals (e : Evaluator) : Prop :=
  ∀ onCallersLink s action r, Sys.KeepsGlobals (e.check onCallersLink s action r)

theorem LocalEvaluator.keepsGlobals {ν : Type} [BEq ν] [ReflBEq ν] [Name ν] (e : LocalEvaluator ν) :
    e.toEvaluator.KeepsGlobals :=
  fun onCallersLink s action r sys => e.keeps (System.lasting_globals _) onCallersLink s action r sys rfl

namespace Records

variable {c : Context}

/-- A call of a service leaves the global state as it is. -/
theorem Service.keepsGlobals_run (v : Service) (he : c.evaluator.OnlyAnswers) (hcheck : c.evaluator.KeepsGlobals) :
    KeepsGlobals (v.run c) := by
  intro sys
  have hkeeps : c.evaluator.Keeps (·.globals = sys.globals) :=
    fun onCallersLink s action r before hbefore => (hcheck onCallersLink s action r before).trans hbefore
  exact v.keeps_run (System.lasting_globals _) he hkeeps sys rfl

theorem keepsGlobals_setUp (bind : Bind) : KeepsGlobals (setUp bind) := by
  intro sys
  refine keeps_setUp (System.lasting_globals _) ?_ sys rfl
  unfold createTables
  split
  case h_1 => exact Keeps.throw _
  case h_2 => exact fun _ h => h

end Records

end RowGuard
