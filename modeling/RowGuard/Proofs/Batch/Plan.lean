import RowGuard.Batch.Execution
import RowGuard.Proofs.Outcome
import RowGuard.Proofs.Session.Keeps

/-!
# Planned batches

A batch that was planned is what was asked for: it has the targets and values of the request, and was
validated for the registered table (`planned_of_planUpdate`, `planned_of_planDelete`). What is valid is said by
`checkTargets_eq_ok_iff` and `checkColumns_eq_ok_iff`. Planning works aside but
for the compilation, and so keeps what the evaluator keeps (`keeps_planUpdate`, `keeps_planDelete`); it stores
nothing unless the evaluator does (`storesNothing_of_plan`).
-/

namespace RowGuard

/-- Compiling with the evaluator stores nothing. -/
def Evaluator.StoresNothing (e : Evaluator) : Prop :=
  ∀ s action type columnRef, Sys.StoresNothing (e.compile s action type columnRef)

namespace Batch

variable {e : Evaluator} {given : Option Config} {s : Subject} {r : Request} {b : Batch}
  {sys sys' : System}

/-- The columns that an update sets belong to the table, each target sets the same ones, and none of them
is set for all targets as well. -/
structure SetsColumns (m : Mapping) (targets : List Target) (constant : List (String × Data)) :
    Prop where
  columns : ∀ t ∈ targets, t.columns = keysOf targets
  apart : ∀ k ∈ keysOf targets, constant.lookup k = none

/-- What planning makes sure of. -/
structure Planned (b : Batch) (s : Subject) (r : Request) : Prop where
  subject : b.subject = s
  action : b.action = r.action
  type : b.type = r.type
  targets : b.targets = r.targets
  excluded : b.excluded = if r.excludeSelf && s.type == r.type then some s.id else none
  change : b.change = .delete ∨
    b.change = .update (keysOf r.targets) r.constant ∧ SetsColumns b.mapping r.targets r.constant

theorem lookup_eq_none_of_not_mem {constant : List (String × Data)} {k : String}
    (h : k ∉ constant.map (·.1)) : constant.lookup k = none := by
  rw [List.lookup_eq_none_iff]
  intro entry hentry
  have hne : k ≠ entry.1 := fun heq => h (heq ▸ List.mem_map_of_mem hentry)
  simpa using hne

/-- Targets are valid if there are some, no more than the limit allows, and their identities are keys, no two of
them the same. -/
theorem checkTargets_eq_ok_iff {config : Config} {targets : List Target} :
    checkTargets config targets = .ok () ↔
      targets ≠ [] ∧ exceeds targets.length config.maxBatchSize = none ∧
        (∀ t ∈ targets, t.identity.isKey = true) ∧
        targets.Pairwise fun t u => u.identity.same t.identity = false := by
  unfold checkTargets
  by_cases hempty : targets = []
  · simp [hempty]
  rw [if_neg (by simpa using hempty)]
  cases exceeds targets.length config.maxBatchSize with
  | some limit => simp
  | none =>
    by_cases hkeys : ∀ t ∈ targets, t.identity.isKey = true
    · rw [List.takeWhile_eq_self_iff.mpr hkeys, List.all_eq_true.mpr hkeys]
      have hrepeated := repeatedIdentity?_eq_none_iff [] targets
      simp only [List.not_mem_nil, false_implies, implies_true, true_and] at hrepeated
      cases hfound : repeatedIdentity? [] targets with
      | some i => simp [← hrepeated, hfound]
      | none => simpa [hempty, hfound] using ⟨hkeys, hrepeated.mp hfound⟩
    · have hall : (targets.all fun t => t.identity.isKey) = false :=
        Bool.eq_false_iff.mpr fun hall => hkeys (List.all_eq_true.mp hall)
      rw [hall]
      cases repeatedIdentity? [] (targets.takeWhile fun t => t.identity.isKey) <;> simp [hkeys]

/-- Targets with keys as identities that are not valid are refused as such. -/
theorem isAuthz_of_checkTargets {config : Config} {targets : List Target} {f : Fault}
    (hkeys : ∀ t ∈ targets, t.identity.isKey = true) (h : checkTargets config targets = .error f) :
    f.isAuthz = true := by
  unfold checkTargets at h
  rw [List.all_eq_true.mpr hkeys, if_pos rfl] at h
  split at h
  case isTrue => exact Except.error.inj h ▸ rfl
  case isFalse =>
    split at h
    case h_1 => exact Except.error.inj h ▸ rfl
    case h_2 =>
      split at h
      case h_1 => exact Except.error.inj h ▸ rfl
      case h_2 => simp at h

/-- A column can be set if the table has it and it is not the identity. -/
theorem columnFault?_eq_none_iff {m : Mapping} {k : String} :
    columnFault? m k = none ↔ k ≠ m.identity.name ∧ ∃ c, m.table.labelled? k = some c := by
  unfold columnFault?
  cases m.table.labelled? k with
  | none => simp
  | some c => by_cases hk : k = m.identity.name <;> simp [hk]

/-- Columns can be set that belong to the table and are not its identity, if every target sets the same ones,
none is set for all rows as well, and some is set at all. -/
theorem checkColumns_eq_ok_iff {m : Mapping} {targets : List Target} {constant : List (String × Data)} :
    checkColumns m targets constant = .ok () ↔
      (∀ t ∈ targets, t.columns = keysOf targets) ∧
        (∀ k ∈ keysOf targets ++ constant.map (·.1), columnFault? m k = none) ∧
        (∀ k ∈ keysOf targets, k ∉ constant.map (·.1)) ∧ (keysOf targets = [] → constant ≠ []) := by
  have hequal : (targets.any fun t => decide (t.columns ≠ keysOf targets)) = false ↔
      ∀ t ∈ targets, t.columns = keysOf targets := by
    simp
  have hknown : (keysOf targets ++ constant.map (·.1)).findSome? (columnFault? m) = none ↔
      ∀ k ∈ keysOf targets ++ constant.map (·.1), columnFault? m k = none := List.findSome?_eq_none_iff
  have honce : (!((keysOf targets).filter fun k => (constant.map (·.1)).contains k).isEmpty) = false ↔
      ∀ k ∈ keysOf targets, k ∉ constant.map (·.1) := by
    simp
  have hsome : ((keysOf targets).isEmpty && (constant.map (·.1)).isEmpty) = false ↔
      (keysOf targets = [] → constant ≠ []) := by
    cases keysOf targets <;> simp
  rw [← hequal, ← hknown, ← honce, ← hsome]
  unfold checkColumns
  dsimp only
  cases targets.any fun t => decide (t.columns ≠ keysOf targets) with
  | true => simp
  | false =>
    cases (keysOf targets ++ constant.map (·.1)).findSome? (columnFault? m) with
    | some fault => simp
    | none =>
      cases !((keysOf targets).filter fun k => (constant.map (·.1)).contains k).isEmpty with
      | true => simp
      | false => cases (keysOf targets).isEmpty && (constant.map (·.1)).isEmpty <;> simp

theorem setsColumns_of_checkColumns {m : Mapping} {targets : List Target}
    {constant : List (String × Data)} (h : checkColumns m targets constant = .ok ()) :
    SetsColumns m targets constant := by
  obtain ⟨hequal, _, honce, _⟩ := checkColumns_eq_ok_iff.mp h
  exact ⟨hequal, fun k hk => lookup_eq_none_of_not_mem (honce k hk)⟩

theorem planned_of_restrict {config : Config} {m : Mapping} {change : Change}
    (h : restrict e config s r m change sys = (.ok b, sys'))
    (hchange : change = .delete ∨
      change = .update (keysOf r.targets) r.constant ∧ SetsColumns m r.targets r.constant) :
    b.Planned s r := by
  unfold restrict at h
  obtain ⟨id, sys₁, _, h⟩ := Sys.bind_eq_ok h
  obtain ⟨f, sys₂, _, h⟩ := Sys.bind_eq_ok h
  obtain ⟨rfl, rfl⟩ := Sys.of_pure_eq_ok h
  exact ⟨rfl, rfl, rfl, rfl, rfl, hchange⟩

theorem planned_of_planDelete (h : planDelete e given s r sys = (.ok b, sys')) : b.Planned s r := by
  unfold planDelete at h
  obtain ⟨config, sys₁, _, h⟩ := Sys.bind_eq_ok h
  obtain ⟨m, sys₂, _, h⟩ := Sys.bind_eq_ok h
  obtain ⟨_, sys₃, _, h⟩ := Sys.bind_eq_ok h
  exact planned_of_restrict h (.inl rfl)

/-- An update is planned from targets and columns that are valid for the registered table. -/
theorem planUpdate_eq_ok (h : planUpdate e given s r sys = (.ok b, sys')) :
    ∃ m, sys.globals.registry.lookup r.type = .ok m ∧
      checkTargets (given.getD sys.globals.config) r.targets = .ok () ∧
      checkColumns m r.targets r.constant = .ok () ∧
      restrict e (given.getD sys.globals.config) s r m (.update (keysOf r.targets) r.constant) sys =
        (.ok b, sys') := by
  unfold planUpdate at h
  rw [Sys.bind_of_ok (Sys.configOr_apply _)] at h
  obtain ⟨m, sys₁, hlookup, h⟩ := Sys.bind_eq_ok h
  unfold lookup at hlookup
  rw [Sys.get_bind_apply] at hlookup
  obtain ⟨hm, rfl⟩ := Sys.ofExcept_eq_ok hlookup
  obtain ⟨_, sys₂, hchecked, h⟩ := Sys.bind_eq_ok h
  obtain ⟨htargets, rfl⟩ := Sys.ofExcept_eq_ok hchecked
  obtain ⟨_, sys₃, hchecked, h⟩ := Sys.bind_eq_ok h
  obtain ⟨hcolumns, rfl⟩ := Sys.ofExcept_eq_ok hchecked
  exact ⟨m, hm, htargets, Outcome.mapError_eq_ok_iff.mp hcolumns, h⟩

theorem planned_of_planUpdate (h : planUpdate e given s r sys = (.ok b, sys')) : b.Planned s r := by
  obtain ⟨m, _, _, hcolumns, h⟩ := planUpdate_eq_ok h
  exact planned_of_restrict h (.inr ⟨rfl, setsColumns_of_checkColumns hcolumns⟩)

/-! ### What is planned from a valid request -/

section Valid

variable {m : Mapping}

theorem lookup_apply {type : Data} (h : sys.globals.registry.lookup type = .ok m) :
    lookup type sys = (.ok m, sys) := by
  unfold lookup
  rw [Sys.get_bind_apply, h, Sys.ofExcept_apply]

/-- With targets and columns that are valid, planning an update is placing its fragment. -/
theorem planUpdate_of_valid (hlookup : sys.globals.registry.lookup r.type = .ok m)
    (htargets : checkTargets (given.getD sys.globals.config) r.targets = .ok ())
    (hcolumns : checkColumns m r.targets r.constant = .ok ()) :
    planUpdate e given s r sys =
      restrict e (given.getD sys.globals.config) s r m (.update (keysOf r.targets) r.constant) sys := by
  unfold planUpdate
  rw [Sys.bind_of_ok (Sys.configOr_apply _), Sys.bind_of_ok (lookup_apply hlookup), htargets, Sys.ofExcept_ok,
    Sys.pure_bind_apply, hcolumns]
  rfl

/-- So it is for a deletion, with targets that are valid. -/
theorem planDelete_of_valid (hlookup : sys.globals.registry.lookup r.type = .ok m)
    (htargets : checkTargets (given.getD sys.globals.config) r.targets = .ok ()) :
    planDelete e given s r sys = restrict e (given.getD sys.globals.config) s r m .delete sys := by
  unfold planDelete
  rw [Sys.bind_of_ok (Sys.configOr_apply _), Sys.bind_of_ok (lookup_apply hlookup), htargets, Sys.ofExcept_ok,
    Sys.pure_bind_apply]

/-- An update with targets that are not valid is refused. -/
theorem planUpdate_of_invalid {f : Fault} (hlookup : sys.globals.registry.lookup r.type = .ok m)
    (hinvalid : checkTargets (given.getD sys.globals.config) r.targets = .error f) :
    planUpdate e given s r sys = (.error f, sys) := by
  unfold planUpdate
  rw [Sys.bind_of_ok (Sys.configOr_apply _), Sys.bind_of_ok (lookup_apply hlookup), hinvalid]
  rfl

/-- So is a deletion. -/
theorem planDelete_of_invalid {f : Fault} (hlookup : sys.globals.registry.lookup r.type = .ok m)
    (hinvalid : checkTargets (given.getD sys.globals.config) r.targets = .error f) :
    planDelete e given s r sys = (.error f, sys) := by
  unfold planDelete
  rw [Sys.bind_of_ok (Sys.configOr_apply _), Sys.bind_of_ok (lookup_apply hlookup), hinvalid]
  rfl

/-- An update of columns that cannot be set is refused. -/
theorem planUpdate_of_invalid_columns {f : BatchFault} (hlookup : sys.globals.registry.lookup r.type = .ok m)
    (htargets : checkTargets (given.getD sys.globals.config) r.targets = .ok ())
    (hinvalid : checkColumns m r.targets r.constant = .error f) :
    planUpdate e given s r sys = (.error (.batch f), sys) := by
  unfold planUpdate
  rw [Sys.bind_of_ok (Sys.configOr_apply _), Sys.bind_of_ok (lookup_apply hlookup), htargets, Sys.ofExcept_ok,
    Sys.pure_bind_apply, hinvalid]
  rfl

end Valid

/-! ### What planning keeps -/

section Keeps

open Sys (Aside Keeps)

variable {P : System → Prop} (hP : ∀ {a b : System}, a.Kept b → P a → P b)
  (hcompile : ∀ s action type columnRef, Keeps P (e.compile s action type columnRef))

theorem aside_lookup (type : Data) : Aside (lookup type) := Aside.get.bind fun _ => Aside.ofExcept _

include hP hcompile

theorem keeps_restrict (config : Config) (s : Subject) (r : Request) (m : Mapping) (change : Change) :
    Keeps P (restrict e config s r m change) := by
  refine (hcompile _ _ _ _).bind ?_
  intro id
  exact ((Aside.embedFragment id _).bind fun _ => Aside.pure _).keeps hP

theorem keeps_planUpdate (given : Option Config) (s : Subject) (r : Request) :
    Keeps P (planUpdate e given s r) := by
  refine ((Aside.configOr given).keeps hP).bind ?_
  intro config
  refine ((aside_lookup r.type).keeps hP).bind ?_
  intro m
  refine (Keeps.ofExcept _).bind ?_
  intro _
  exact (Keeps.ofExcept _).bind fun _ => keeps_restrict hP hcompile config s r m _

theorem keeps_planDelete (given : Option Config) (s : Subject) (r : Request) :
    Keeps P (planDelete e given s r) := by
  refine ((Aside.configOr given).keeps hP).bind ?_
  intro config
  refine ((aside_lookup r.type).keeps hP).bind ?_
  intro m
  exact (Keeps.ofExcept _).bind fun _ => keeps_restrict hP hcompile config s r m .delete

end Keeps

/-- Planning, whether it succeeds or fails, stores nothing. -/
theorem storesNothing_of_plan {plan : Sys Batch} (he : e.StoresNothing)
    (hplan : plan = planUpdate e given s r ∨ plan = planDelete e given s r) :
    Sys.StoresNothing plan := by
  intro sys
  have hkept : ∀ {a b : System}, a.Kept b → a.disk = sys.disk → b.disk = sys.disk :=
    fun hab ha => hab.disk.trans ha
  have hcompile := fun s action type columnRef => (he s action type columnRef).keeps sys.disk
  rcases hplan with rfl | rfl
  · exact keeps_planUpdate hkept hcompile given s r sys rfl
  · exact keeps_planDelete hkept hcompile given s r sys rfl

end Batch

end RowGuard
