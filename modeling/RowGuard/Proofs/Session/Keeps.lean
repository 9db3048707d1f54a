import RowGuard.Evaluator.Basic
import RowGuard.Proofs.Session.Run

/-!
# What operations keep

An operation keeps a property of the state if the property holds where the operation ends, whatever that comes
to, provided it holds where the operation begins (`Sys.Keeps`). One that works aside (`Sys.Aside`) changes
nothing but what is logged, compiled and watched, and so keeps whatever does not depend on these
(`Sys.Aside.keeps`). One that stores nothing (`Sys.StoresNothing`) may use the connection, and one that compiles
nothing (`Sys.CompilesNothing`) leaves the fragments as they are.
-/

namespace RowGuard

/-- The systems differ in nothing that a guarded operation reads but fragments. -/
structure System.Kept (a b : System) : Prop where
  disk : b.disk = a.disk
  link : b.link = a.link
  lent : b.lent = a.lent
  scope : b.scope = a.scope
  globals : b.globals = a.globals

namespace System.Kept

variable {a b c : System}

theorem refl (a : System) : a.Kept a := ⟨rfl, rfl, rfl, rfl, rfl⟩

theorem trans (hab : a.Kept b) (hbc : b.Kept c) : a.Kept c :=
  ⟨hbc.disk.trans hab.disk, hbc.link.trans hab.link, hbc.lent.trans hab.lent,
    hbc.scope.trans hab.scope, hbc.globals.trans hab.globals⟩

/-- What is logged is kept apart. -/
theorem logged (a : System) (journal : List Record) : a.Kept { a with journal } := ⟨rfl, rfl, rfl, rfl, rfl⟩

end System.Kept

namespace Sys

variable {α β : Type} {x : Sys α} {f : α → Sys β} {P : System → Prop}

/-- Whatever the operation comes to, it ends in a state with the property if it begins in one. -/
def Keeps (P : System → Prop) (x : Sys α) : Prop := ∀ sys, P sys → P (x sys).2

namespace Keeps

theorem bind (hx : Keeps P x) (hf : ∀ a, Keeps P (f a)) : Keeps P (x >>= f) := by
  intro sys hsys
  obtain ⟨outcome, sys₁, hrun⟩ : ∃ outcome sys₁, x sys = (outcome, sys₁) := ⟨_, _, rfl⟩
  have hsys₁ : P sys₁ := by
    have := hx sys hsys
    rwa [hrun] at this
  cases outcome with
  | ok a =>
    rw [bind_of_ok hrun]
    exact hf a sys₁ hsys₁
  | error e =>
    rw [bind_of_error hrun]
    exact hsys₁

theorem pure (a : α) : Keeps P (Pure.pure a : Sys α) := fun _ h => h

theorem throw (e : Fault) : Keeps P (MonadExcept.throw e : Sys α) := fun _ h => h

theorem get : Keeps P (MonadState.get : Sys System) := fun _ h => h

theorem ofExcept (r : Except Fault α) : Keeps P (Sys.ofExcept r) := by
  intro sys h
  rwa [ofExcept_apply]

theorem handling {handle : Fault → Sys α} (hx : Keeps P x) (hhandle : ∀ f, Keeps P (handle f)) :
    Keeps P (Sys.handling x handle) := by
  intro sys hsys
  have hsys₁ := hx sys hsys
  unfold Sys.handling
  obtain ⟨outcome, sys₁, hrun⟩ : ∃ outcome sys₁, x sys = (outcome, sys₁) := ⟨_, _, rfl⟩
  rw [hrun] at hsys₁ ⊢
  cases outcome with
  | ok a => exact hsys₁
  | error f => exact hhandle f sys₁ hsys₁

end Keeps

/-! ## Operations that work aside -/

/-- The operation works aside from the connection, the stored database, the scope and the global state. -/
def Aside (x : Sys α) : Prop := ∀ sys : System, Keeps sys.Kept x

namespace Aside

theorem bind (hx : Aside x) (hf : ∀ a, Aside (f a)) : Aside (x >>= f) :=
  fun sys => (hx sys).bind fun a => hf a sys

theorem pure (a : α) : Aside (Pure.pure a : Sys α) := fun _ => Keeps.pure a

theorem throw (e : Fault) : Aside (MonadExcept.throw e : Sys α) := fun _ => Keeps.throw e

theorem get : Aside (MonadState.get : Sys System) := fun _ => Keeps.get

theorem ofExcept (r : Except Fault α) : Aside (Sys.ofExcept r) := fun _ => Keeps.ofExcept r

theorem log (level : Level) (channel : Channel) (message : String) :
    Aside (Sys.log level channel message) :=
  fun _ _ h => h.trans ⟨rfl, rfl, rfl, rfl, rfl⟩

theorem configOr (given : Option Config) : Aside (Sys.configOr given) := by
  intro sys sys' h
  rwa [configOr_apply]

theorem addFragment (fragment : Fragment) : Aside (Sys.addFragment fragment) :=
  fun _ _ h => h.trans ⟨rfl, rfl, rfl, rfl, rfl⟩

theorem embedFragment (id : FragmentId) (column : Option String) :
    Aside (Sys.embedFragment id column) :=
  get.bind fun _ => bind (fun _ _ h => h.trans ⟨rfl, rfl, rfl, rfl, rfl⟩) fun _ => ofExcept _

theorem modify {change : System → System} (hchange : ∀ sys : System, sys.Kept (change sys)) :
    Aside (modify change : Sys Unit) :=
  fun _ _ h => h.trans (hchange _)

theorem handling {handle : Fault → Sys α} (hx : Aside x) (hhandle : ∀ e, Aside (handle e)) :
    Aside (Sys.handling x handle) :=
  fun sys => (hx sys).handling fun e => hhandle e sys

theorem mapM {γ : Type} (items : List γ) {g : γ → Sys β} (hg : ∀ c, Aside (g c)) :
    Aside (items.mapM g) := by
  induction items with
  | nil => exact pure []
  | cons item rest ih =>
    rw [List.mapM_cons]
    refine (hg item).bind ?_
    intro b
    exact ih.bind fun bs => pure (b :: bs)

/-- What works aside leaves the system as it was. -/
theorem kept (hx : Aside x) (sys : System) : sys.Kept (x sys).2 := hx sys sys (.refl sys)

/-- What works aside keeps whatever does not depend on what it changes. -/
theorem keeps {P : System → Prop} (hx : Aside x) (hP : ∀ {a b : System}, a.Kept b → P a → P b) :
    Keeps P x :=
  fun sys h => hP (hx.kept sys) h

end Aside

/-! ## Operations that store nothing -/

/-- The operation leaves the stored database as it is, whether it succeeds or fails. -/
def StoresNothing (x : Sys α) : Prop := ∀ sys, (x sys).2.disk = sys.disk

namespace StoresNothing

theorem keeps (hx : StoresNothing x) (db : Database) : Keeps (·.disk = db) x :=
  fun sys hdisk => (hx sys).trans hdisk

theorem bind (hx : StoresNothing x) (hf : ∀ a, StoresNothing (f a)) : StoresNothing (x >>= f) :=
  fun sys => (hx.keeps sys.disk).bind (fun a => (hf a).keeps sys.disk) sys rfl

theorem pure (a : α) : StoresNothing (Pure.pure a : Sys α) := fun _ => rfl

theorem throw (e : Fault) : StoresNothing (MonadExcept.throw e : Sys α) := fun _ => rfl

theorem ofExcept (r : Except Fault α) : StoresNothing (Sys.ofExcept r) := by
  intro sys
  rw [ofExcept_apply]

theorem attempt (hx : StoresNothing x) : StoresNothing (Sys.attempt x) := hx

theorem currentLink : StoresNothing Sys.currentLink := by
  refine bind (fun _ => rfl) ?_
  intro sys
  cases sys.link with
  | none => exact throw _
  | some l => exact pure l

theorem rollbackHere (h : Handle) : StoresNothing (Sys.rollbackHere h) := by
  refine currentLink.bind ?_
  intro l
  exact bind (fun _ => rfl) fun _ => ofExcept _

theorem get : StoresNothing (MonadState.get : Sys System) := fun _ => rfl

end StoresNothing

/-- What works aside stores nothing. -/
theorem Aside.storesNothing (hx : Aside x) : StoresNothing x := fun sys => (hx.kept sys).disk

/-! ## Operations that compile nothing -/

/-- The operation leaves the fragments as they are, whether it succeeds or fails. -/
def CompilesNothing (x : Sys α) : Prop := ∀ pool, Keeps (·.fragments = pool) x

theorem CompilesNothing.fragments (hx : CompilesNothing x) (sys : System) : (x sys).2.fragments = sys.fragments :=
  hx sys.fragments sys rfl

theorem compilesNothing_configOr (given : Option Config) : CompilesNothing (Sys.configOr given) := by
  intro pool sys h
  rwa [configOr_apply]

end Sys

end RowGuard
