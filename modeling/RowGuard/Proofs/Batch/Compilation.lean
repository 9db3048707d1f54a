import RowGuard.Proofs.Batch.Plan
import RowGuard.Proofs.Listing.Plan

/-!
# Batches of the local evaluator

What a batch that was planned with the local evaluator tests its rows with: the condition for the request's action,
which has a text for the identity column of the table that is registered for the request's type
(`compiled_of_planUpdate`).
-/

namespace RowGuard

variable {ν : Type} [BEq ν] [ReflBEq ν] [Name ν] {e : LocalEvaluator ν} {sys sys' : System} {s : Subject}

/-- Compiling succeeds with a condition and its text. -/
theorem LocalEvaluator.condition_of_compile {action type columnRef : Data} {id : FragmentId}
    (h : e.compile s action type columnRef sys = (.ok id, sys')) :
    ∃ c sql, e.condition (e.configIn sys) s action type = .ok c ∧ c.forColumn e.dialect columnRef = .ok sql := by
  unfold compile at h
  rw [Sys.bind_of_ok (Sys.configOr_apply _)] at h
  obtain ⟨c, sys₁, hc, h⟩ := Sys.bind_eq_ok h
  obtain ⟨sql, sys₂, hsql, _⟩ := Sys.bind_eq_ok h
  exact ⟨c, sql, (Sys.ofExcept_eq_ok hc).1, (Sys.ofExcept_eq_ok hsql).1⟩

/-- All that compiling does when it succeeds: it adds the fragment of the condition. -/
theorem LocalEvaluator.compile_eq_ok {action type columnRef : Data} {id : FragmentId}
    (h : e.compile s action type columnRef sys = (.ok id, sys')) :
    ∃ c sql, e.condition (e.configIn sys) s action type = .ok c ∧ c.forColumn e.dialect columnRef = .ok sql ∧
      id = sys.fragments.all.size ∧ sys.Kept sys' ∧
      sys'.fragments.all = sys.fragments.all.push (fragmentFor action type columnRef c sql) := by
  obtain ⟨c, sql, hc, hsql⟩ := condition_of_compile h
  obtain ⟨compiled, hcompile, hkept, hall⟩ := compile_apply hc hsql
  obtain ⟨hid, rfl⟩ := Prod.mk.inj (h.symm.trans hcompile)
  exact ⟨c, sql, hc, hsql, Except.ok.inj hid, hkept, hall⟩

namespace Batch

variable {r : Request} {b : Batch} {m : Mapping} {given : Option Config}

/-- The batch's fragment tests the condition for the action, which has a text for the identity column. -/
structure Compiled (e : LocalEvaluator ν) (config : Config) (s : Subject) (r : Request) (b : Batch)
    (c : Condition) : Prop where
  condition : e.condition config s r.action r.type = .ok c
  text : ∃ sql, c.forColumn e.dialect (.text b.mapping.columnRef) = .ok sql
  predicate : b.fragment.predicate = .condition c

theorem get?_of_push {sys₁ : System} {f : Fragment} (h : sys₁.fragments.all = sys.fragments.all.push f) :
    sys₁.fragments.get? sys.fragments.all.size = some f := by
  unfold FragmentPool.get?
  rw [h]
  simp

theorem compiled_of_restrict {config : Config} {change : Change}
    (h : restrict e.toEvaluator config s r m change sys = (.ok b, sys')) :
    b.mapping = m ∧ b.change = change ∧ ∃ c, Compiled e (e.configIn sys) s r b c := by
  unfold restrict at h
  obtain ⟨id, sys₁, hcompile, h⟩ := Sys.bind_eq_ok h
  obtain ⟨f, sys₂, hembed, h⟩ := Sys.bind_eq_ok h
  obtain ⟨rfl, rfl⟩ := Sys.of_pure_eq_ok h
  obtain ⟨c, sql, hc, hsql, rfl, _, hall⟩ := LocalEvaluator.compile_eq_ok hcompile
  rw [Sys.embedFragment_apply (get?_of_push hall) rfl rfl, Prod.mk.injEq, Except.ok.injEq] at hembed
  obtain ⟨rfl, rfl⟩ := hembed
  exact ⟨rfl, rfl, c, hc, ⟨sql, hsql⟩, rfl⟩

theorem compiled_of_planUpdate (h : planUpdate e.toEvaluator given s r sys = (.ok b, sys')) :
    sys.globals.registry.lookup r.type = .ok b.mapping ∧ r.targets ≠ [] ∧
      b.change = .update (keysOf r.targets) r.constant ∧ ∃ config c, Compiled e config s r b c := by
  obtain ⟨m, hlookup, htargets, _, h⟩ := planUpdate_eq_ok h
  obtain ⟨rfl, hchange, c, hcompiled⟩ := compiled_of_restrict h
  exact ⟨hlookup, (checkTargets_eq_ok_iff.mp htargets).1, hchange, _, c, hcompiled⟩

/-- The fragment is placed if the condition can be written. -/
theorem exists_restrict {config : Config} {change : Change} {c : Condition} {sql : String}
    (hcondition : e.condition (e.configIn sys) s r.action r.type = .ok c)
    (hsql : c.forColumn e.dialect (.text m.columnRef) = .ok sql) :
    ∃ sys', restrict e.toEvaluator config s r m change sys = (.ok {
      subject := s
      action := r.action
      type := r.type
      mapping := m
      targets := r.targets
      change
      excluded := if r.excludeSelf && s.type == r.type then some s.id else none
      fragment := { LocalEvaluator.fragmentFor r.action r.type (.text m.columnRef) c sql with embedded := true }
      config }, sys') := by
  obtain ⟨sys₁, hcompile, _, hall⟩ := LocalEvaluator.compile_apply hcondition hsql
  exact ⟨_, (Sys.bind_of_ok hcompile).trans (Sys.bind_of_ok (Sys.embedFragment_apply (get?_of_push hall) rfl rfl))⟩

/-- An update that is valid, and for which the condition can be written, is planned. -/
theorem exists_planUpdate {c : Condition} {sql : String} (hlookup : sys.globals.registry.lookup r.type = .ok m)
    (htargets : checkTargets (given.getD sys.globals.config) r.targets = .ok ())
    (hcolumns : checkColumns m r.targets r.constant = .ok ())
    (hcondition : e.condition (e.configIn sys) s r.action r.type = .ok c)
    (hsql : c.forColumn e.dialect (.text m.columnRef) = .ok sql) :
    ∃ b sys', planUpdate e.toEvaluator given s r sys = (.ok b, sys') ∧ b.mapping = m ∧
      b.change = .update (keysOf r.targets) r.constant ∧
      b.fragment = { LocalEvaluator.fragmentFor r.action r.type (.text m.columnRef) c sql with embedded := true } := by
  obtain ⟨sys', hrestricted⟩ := exists_restrict hcondition hsql
  exact ⟨_, sys', (planUpdate_of_valid hlookup htargets hcolumns).trans hrestricted, rfl, rfl, rfl⟩

end Batch

end RowGuard
