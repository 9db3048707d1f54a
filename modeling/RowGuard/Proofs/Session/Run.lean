import Mathlib
import RowGuard.Session.Scope

/-!
# Running operations

An operation on the system, applied to a state, gives an outcome and the state it leaves. The lemmas here
take sequences of operations apart, so that what an operation does follows from what its steps do.
-/

namespace RowGuard

namespace Sys

variable {α β : Type} {x : Sys α} {f : α → Sys β} {sys sys' : System}

theorem bind_of_ok {a : α} (h : x sys = (.ok a, sys')) : (x >>= f) sys = f a sys' := by
  show (ExceptT.bindCont f (x sys).1) (x sys).2 = _
  rw [h]
  rfl

theorem bind_of_error {e : Fault} (h : x sys = (.error e, sys')) :
    (x >>= f) sys = (.error e, sys') := by
  show (ExceptT.bindCont f (x sys).1) (x sys).2 = _
  rw [h]
  rfl

/-- Giving another value leaves the system as it is. -/
theorem bind_pure_snd (x : Sys α) (g : α → β) (sys : System) :
    ((x >>= fun a => pure (g a)) sys).2 = (x sys).2 := by
  obtain ⟨outcome, sys₁, hrun⟩ : ∃ outcome sys₁, x sys = (outcome, sys₁) := ⟨_, _, rfl⟩
  rw [hrun]
  cases outcome with
  | ok a => rw [bind_of_ok hrun]; rfl
  | error e => rw [bind_of_error hrun]

theorem map_of_ok {g : α → β} {a : α} (h : (x sys).1 = .ok a) : ((g <$> x) sys).1 = .ok (g a) := by
  rw [map_eq_pure_bind, bind_of_ok (Prod.ext h rfl)]
  rfl

theorem map_of_error {g : α → β} {e : Fault} (h : (x sys).1 = .error e) : ((g <$> x) sys).1 = .error e := by
  rw [map_eq_pure_bind, bind_of_error (Prod.ext h rfl)]

@[simp]
theorem pure_apply (a : α) : (pure a : Sys α) sys = (.ok a, sys) := rfl

@[simp]
theorem throw_apply (e : Fault) : (throw e : Sys α) sys = (.error e, sys) := rfl

@[simp]
theorem get_apply : (get : Sys System) sys = (.ok sys, sys) := rfl

@[simp]
theorem modify_apply (g : System → System) : (modify g : Sys Unit) sys = (.ok (), g sys) := rfl

@[simp]
theorem get_bind_apply (g : System → Sys β) : ((get : Sys System) >>= g) sys = g sys sys := rfl

@[simp]
theorem modify_bind_apply (g : System → System) (k : Unit → Sys β) :
    ((modify g : Sys Unit) >>= k) sys = k () (g sys) := rfl

@[simp]
theorem pure_bind_apply (a : α) : ((pure a : Sys α) >>= f) sys = f a sys := rfl

@[simp]
theorem throw_bind_apply (e : Fault) : ((throw e : Sys α) >>= f) sys = (.error e, sys) := rfl

@[simp]
theorem ofExcept_apply (r : Except Fault α) : (ofExcept r) sys = (r, sys) := by
  cases r <;> rfl

@[simp]
theorem ofExcept_ok (a : α) : (ofExcept (.ok a) : Sys α) = pure a := rfl

@[simp]
theorem ofExcept_error (e : Fault) : (ofExcept (.error e) : Sys α) = throw e := rfl

/-- What needs no state does not change it for what follows. -/
theorem ofExcept_bind_fst (r : Except Fault α) (f : α → Sys β) (sys : System) :
    ((ofExcept r >>= f) sys).1 = r >>= fun a => (f a sys).1 := by
  cases r <;> rfl

/-- A sequence gives a value when both of its parts do, the second one where the first one ended. -/
theorem bind_eq_ok {b : β} (h : (x >>= f) sys = (.ok b, sys')) :
    ∃ a sys₁, x sys = (.ok a, sys₁) ∧ f a sys₁ = (.ok b, sys') := by
  obtain ⟨outcome, sys₁, hx⟩ : ∃ outcome sys₁, x sys = (outcome, sys₁) := ⟨_, _, rfl⟩
  cases outcome with
  | ok a => exact ⟨a, sys₁, hx, (bind_of_ok hx).symm.trans h⟩
  | error e => exact absurd (congrArg Prod.fst ((bind_of_error hx).symm.trans h)) (by simp)

theorem ofExcept_eq_ok {r : Except Fault α} {a : α} (h : ofExcept r sys = (.ok a, sys')) :
    r = .ok a ∧ sys' = sys := by
  rw [ofExcept_apply, Prod.mk.injEq] at h
  exact ⟨h.1, h.2.symm⟩

theorem of_pure_eq_ok {a b : α} (h : (pure a : Sys α) sys = (.ok b, sys')) : b = a ∧ sys' = sys := by
  rw [pure_apply, Prod.mk.injEq, Except.ok.injEq] at h
  exact ⟨h.1.symm, h.2.symm⟩

/-- A sequence over a list gives a value for each item, each where the one before ended. -/
theorem mapM_cons_eq_ok {item : α} {rest : List α} {bs : List β}
    (h : (item :: rest).mapM f sys = (.ok bs, sys')) :
    ∃ b sys₁ more, f item sys = (.ok b, sys₁) ∧ rest.mapM f sys₁ = (.ok more, sys') ∧ bs = b :: more := by
  rw [List.mapM_cons] at h
  obtain ⟨b, sys₁, hfirst, h⟩ := bind_eq_ok h
  obtain ⟨more, sys₂, hrest, h⟩ := bind_eq_ok h
  obtain ⟨rfl, rfl⟩ := of_pure_eq_ok h
  exact ⟨b, sys₁, more, hfirst, hrest, rfl⟩

@[simp]
theorem attempt_bind_apply (k : Except Fault α → Sys β) :
    (attempt x >>= k) sys = k (x sys).1 (x sys).2 := rfl

theorem onLink_apply (l : Link) :
    onLink l x sys =
      ((x { sys with link := some l, lent := sys.link.toList ++ sys.lent }).1,
        { (x { sys with link := some l, lent := sys.link.toList ++ sys.lent }).2 with
          link := sys.link, lent := sys.lent }) := rfl

@[simp]
theorem log_apply (level : Level) (channel : Channel) (message : String) :
    log level channel message sys =
      (.ok (), { sys with journal := ⟨level, channel, message⟩ :: sys.journal }) := rfl

@[simp]
theorem configOr_apply (given : Option Config) :
    configOr given sys = (.ok (given.getD sys.globals.config), sys) := by
  cases given <;> rfl

theorem currentLink_of_some {l : Link} (h : sys.link = some l) :
    currentLink sys = (.ok l, sys) := by
  unfold currentLink
  simp only [get_bind_apply, h]
  rfl

/-- A statement's outcome is that of the connection, which is then in use. -/
theorem execute_of_some {l : Link} (h : sys.link = some l) (st : Link.Statement α) :
    execute st sys =
      ((l.execute sys.disk sys.lent st).1,
        { sys with link := some (l.execute sys.disk sys.lent st).2 }) := by
  rw [execute, bind_of_ok (currentLink_of_some h)]
  simp

end Sys

end RowGuard
