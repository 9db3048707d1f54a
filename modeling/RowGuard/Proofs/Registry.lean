import RowGuard.Proofs.Database.Equality
import RowGuard.Proofs.Outcome
import RowGuard.Records.Schema
import RowGuard.Registry

/-!
# Registries over time

A registry is filled by calls of which some are refused. What it answers is told by the history of these calls alone:
a type is found where it was first registered since the registry was last cleared (`registrations`), and no later call
moves it.

* `Registry.Sound`: types can be looked up and are told apart, and each is identified by a column of its own table.
* `Registry.register_eq_ok_iff`: all that registering a type can do.
* `Registry.answers_by_first_registration`: what any sequence of calls on an empty registry leaves.
-/

namespace RowGuard

open Outcome

/-! ## Keys

What is looked up is a key: a scalar, or a tuple of keys. Keys that are equal as values cannot be told apart by looking
them up, for their equality is symmetric and transitive. Sets and maps, which are no keys, have no such law: a set with
an item twice is as long as one it lies within. -/

theorem Moment.same_trans {a b c : Moment} (hab : a.same b = true) (hbc : b.same c = true) : a.same c = true := by
  simp only [Moment.same, Bool.and_eq_true, beq_iff_eq] at hab hbc ⊢
  exact ⟨hab.1.trans hbc.1, hab.2.trans hbc.2⟩

namespace Scalar

/-- Scalars are the same as numbers, as moments, or because they are equal. -/
theorem same_iff {a b : Scalar} :
    a.same b = true ↔ (∃ x y, a.number? = some x ∧ b.number? = some y ∧ x.same y = true) ∨
      (∃ m n, a = .moment m ∧ b = .moment n ∧ m.same n = true) ∨ a = b := by
  constructor
  · intro h
    cases a <;> cases b <;> simp_all [same, number?, moment?]
  · rintro (⟨x, y, hx, hy, hsame⟩ | ⟨m, n, rfl, rfl, hsame⟩ | rfl)
    · simp [same, hx, hy, hsame]
    · simpa [same, number?, moment?] using hsame
    · exact a.same_self

theorem same_trans {a b c : Scalar} (hab : a.same b = true) (hbc : b.same c = true) : a.same c = true := by
  rcases same_iff.mp hab with ⟨x, y, hx, hy, hxy⟩ | ⟨m, n, rfl, rfl, hmn⟩ | rfl
  · rcases same_iff.mp hbc with ⟨y', z, hy', hz, hyz⟩ | ⟨m, n, rfl, -, -⟩ | rfl
    · obtain rfl : y = y' := Option.some.inj (hy.symm.trans hy')
      exact same_iff.mpr (.inl ⟨x, z, hx, hz, Number.same_trans hxy hyz⟩)
    · cases hy
    · exact hab
  · rcases same_iff.mp hbc with ⟨y, z, hy, -, -⟩ | ⟨n', k, hn, rfl, hnk⟩ | rfl
    · cases hy
    · cases hn
      exact same_iff.mpr (.inr (.inl ⟨m, k, rfl, rfl, Moment.same_trans hmn hnk⟩))
    · exact hab
  · exact hbc

end Scalar

namespace Data

mutual

theorem same_comm_of_isKey : (a b : Data) → a.isKey = true → a.same b = b.same a
  | scalar a, b, _ => by
    cases b with
    | scalar b => simpa only [same] using a.same_comm b
    | _ => simp only [same]
  | tuple as, b, h => by
    cases b with
    | tuple bs => simpa only [same] using sameItems_comm_of_allKeys as bs (by simpa only [isKey] using h)
    | _ => simp only [same]
  | list _, _, h | set _, _, h | map _, _, h => by simp [isKey] at h

private theorem sameItems_comm_of_allKeys :
    (as bs : List Data) → allKeys as = true → sameItems as bs = sameItems bs as
  | [], [], _ => rfl
  | [], _ :: _, _ | _ :: _, [], _ => by simp only [sameItems]
  | a :: as, b :: bs, h => by
    simp only [allKeys, Bool.and_eq_true] at h
    simp only [sameItems, same_comm_of_isKey a b h.1, sameItems_comm_of_allKeys as bs h.2]

end

mutual

theorem same_trans_of_isKey :
    (a b c : Data) → a.isKey = true → a.same b = true → b.same c = true → a.same c = true
  | scalar a, b, c, _, hab, hbc => by
    cases b with
    | scalar b =>
      cases c with
      | scalar c =>
        simp only [same] at hab hbc ⊢
        exact Scalar.same_trans hab hbc
      | _ => simp [same] at hbc
    | _ => simp [same] at hab
  | tuple as, b, c, h, hab, hbc => by
    cases b with
    | tuple bs =>
      cases c with
      | tuple cs =>
        simp only [same] at hab hbc ⊢
        exact sameItems_trans_of_allKeys as bs cs (by simpa only [isKey] using h) hab hbc
      | _ => simp [same] at hbc
    | _ => simp [same] at hab
  | list _, _, _, h, _, _ | set _, _, _, h, _, _ | map _, _, _, h, _, _ => by simp [isKey] at h

private theorem sameItems_trans_of_allKeys :
    (as bs cs : List Data) → allKeys as = true → sameItems as bs = true → sameItems bs cs = true →
      sameItems as cs = true
  | [], [], cs, _, _, hbc => hbc
  | [], _ :: _, _, _, hab, _ => by simp [sameItems] at hab
  | _ :: _, [], _, _, hab, _ => by simp [sameItems] at hab
  | _ :: _, _ :: _, [], _, _, hbc => by simp [sameItems] at hbc
  | a :: as, b :: bs, c :: cs, h, hab, hbc => by
    simp only [allKeys, Bool.and_eq_true] at h
    simp only [sameItems, Bool.and_eq_true] at hab hbc ⊢
    exact ⟨same_trans_of_isKey a b c h.1 hab.1 hbc.1, sameItems_trans_of_allKeys as bs cs h.2 hab.2 hbc.2⟩

end

end Data

namespace Registry

variable {r r' : Registry} {type : Data} {table owner : Schema} {identity : Column} {m : Mapping}

/-! ## What a registry keeps -/

/-- Two registrations are of types that differ as values. -/
def Apart (a b : Mapping) : Prop := (a.type == b.type) = false ∧ (b.type == a.type) = false

instance : Std.Symm Apart := ⟨fun _ _ h => h.symm⟩

/-- What a registry keeps while types are registered. -/
structure Sound (r : Registry) : Prop where
  keys : ∀ m ∈ r.mappings, m.type.isKey = true
  apart : r.mappings.Pairwise Apart
  belongs : ∀ m ∈ r.mappings, m.identity ∈ m.table.columns

theorem found_of_get? (h : r.get? type = some m) : m ∈ r.mappings ∧ (m.type == type) = true := by
  unfold get? at h
  exact ⟨List.mem_of_find?_eq_some h, by simpa using List.find?_some h⟩

theorem sound_empty : Sound {} := ⟨by simp, .nil, by simp⟩

namespace Sound

theorem type_beq_comm (h : r.Sound) (hm : m ∈ r.mappings) : (m.type == type) = (type == m.type) :=
  Data.same_comm_of_isKey m.type type (h.keys m hm)

/-- Two registrations whose types are equal as values are one. -/
theorem eq_of_same (h : r.Sound) {a b : Mapping} (ha : a ∈ r.mappings) (hb : b ∈ r.mappings)
    (hab : (a.type == b.type) = true) : a = b := by
  by_contra hne
  rw [(h.apart.forall ha hb hne).1] at hab
  cases hab

theorem get?_eq_some_iff (h : r.Sound) : r.get? type = some m ↔ m ∈ r.mappings ∧ (m.type == type) = true := by
  constructor
  · exact found_of_get?
  · rintro ⟨hm, htype⟩
    have hsome : (r.get? type).isSome := List.find?_isSome.mpr ⟨m, hm, htype⟩
    obtain ⟨m', hget⟩ := Option.isSome_iff_exists.mp hsome
    obtain ⟨hm', htype'⟩ := found_of_get? hget
    have hsame : (m'.type == m.type) = true :=
      Data.same_trans_of_isKey m'.type type m.type (h.keys m' hm') htype' ((h.type_beq_comm hm).symm.trans htype)
    rw [hget, h.eq_of_same hm' hm hsame]

theorem of_perm (h : r.Sound) (hperm : r'.mappings.Perm r.mappings) : r'.Sound where
  keys m hm := h.keys m (hperm.mem_iff.mp hm)
  apart := (hperm.pairwise_iff fun hapart => hapart.symm).mpr h.apart
  belongs m hm := h.belongs m (hperm.mem_iff.mp hm)

/-- A registry with the same registrations in another order finds the same. -/
theorem get?_of_perm (h : r.Sound) (hperm : r'.mappings.Perm r.mappings) (type : Data) :
    r'.get? type = r.get? type := by
  apply Option.ext
  intro m
  rw [h.get?_eq_some_iff, (h.of_perm hperm).get?_eq_some_iff, hperm.mem_iff]

theorem push (h : r.Sound) (hkey : type.isKey = true) (hidentity : identity ∈ table.columns)
    (hnew : r.get? type = none) : Sound ⟨r.mappings ++ [⟨type, table, identity⟩]⟩ where
  keys := by
    simp only [List.forall_mem_append, List.forall_mem_singleton]
    exact ⟨h.keys, hkey⟩
  apart := by
    refine List.pairwise_append.mpr ⟨h.apart, List.pairwise_singleton _ _, ?_⟩
    intro m hm new hnew'
    rw [List.mem_singleton.mp hnew']
    have hne : (m.type == type) = false := Bool.eq_false_iff.mpr (List.find?_eq_none.mp hnew m hm)
    exact ⟨hne, (h.type_beq_comm hm).symm.trans hne⟩
  belongs := by
    simp only [List.forall_mem_append, List.forall_mem_singleton]
    exact ⟨h.belongs, hidentity⟩

end Sound

/-! ## Registering -/

/-- Registering a type finds it as it is registered already, or adds it. -/
theorem register_eq_ok_iff :
    r.register type table owner identity = .ok r' ↔ type.isKey = true ∧ owner = table ∧ identity ∈ table.columns ∧
      ((∃ m, r.get? type = some m ∧ m.table = table ∧ m.identity = identity ∧ r' = r) ∨
        (r.get? type = none ∧ r' = ⟨r.mappings ++ [⟨type, table, identity⟩]⟩)) := by
  unfold register
  by_cases howner : owner ≠ table ∨ identity ∉ table.columns
  · rw [if_pos howner]
    simp only [reduceCtorEq, false_iff]
    rintro ⟨-, heq, hmem, -⟩
    exact howner.elim (fun h => h heq) fun h => h hmem
  · rw [if_neg howner]
    obtain ⟨heq, hmem⟩ := not_or.mp howner
    cases hkey : type.isKey with
    | false => simp
    | true =>
      cases hget : r.get? type with
      | none => simp [not_not.mp heq, not_not.mp hmem, eq_comm]
      | some m =>
        by_cases hsame : m.table = table ∧ m.identity = identity
        · simp [not_not.mp heq, not_not.mp hmem, hsame, eq_comm]
        · simp only [Bool.not_true, Bool.false_eq_true, if_false, if_neg hsame, reduceCtorEq, false_iff]
          rintro ⟨-, -, -, ⟨m', hm', htable, hidentity, -⟩ | ⟨hnone, -⟩⟩
          · cases hm'
            exact hsame ⟨htable, hidentity⟩
          · cases hnone

theorem Sound.register (h : r.Sound) (hregister : r.register type table owner identity = .ok r') : r'.Sound := by
  obtain ⟨hkey, rfl, hmem, ⟨_, -, -, -, rfl⟩ | ⟨hnew, rfl⟩⟩ := register_eq_ok_iff.mp hregister
  · exact h
  · exact h.push hkey hmem hnew

/-- A type can be registered where it is unknown, or known in just this way. -/
theorem exists_register_iff :
    (∃ r', r.register type table owner identity = .ok r') ↔ type.isKey = true ∧ owner = table ∧
      identity ∈ table.columns ∧ ∀ m, r.get? type = some m → m.table = table ∧ m.identity = identity := by
  simp only [register_eq_ok_iff]
  constructor
  · rintro ⟨r', hkey, howner, hmem, ⟨m, hget, htable, hidentity, -⟩ | ⟨hnone, -⟩⟩
    · exact ⟨hkey, howner, hmem, by simp [hget, htable, hidentity]⟩
    · exact ⟨hkey, howner, hmem, by simp [hnone]⟩
  · rintro ⟨hkey, howner, hmem, hfound⟩
    cases hget : r.get? type with
    | none => exact ⟨_, hkey, howner, hmem, .inr ⟨rfl, rfl⟩⟩
    | some m =>
      obtain ⟨htable, hidentity⟩ := hfound m hget
      exact ⟨r, hkey, howner, hmem, .inl ⟨m, rfl, htable, hidentity, rfl⟩⟩

theorem lookup_eq (r : Registry) (type : Data) : r.lookup type =
    if type.isKey then (r.get? type).elim (.error (.policy (.unregisteredType type))) .ok
    else .error (.shape .wrongType) := by
  unfold lookup Data.requireKey
  cases type.isKey with
  | false => rfl
  | true => cases r.get? type <;> rfl

theorem has_eq (r : Registry) (type : Data) : r.has type =
    if type.isKey then .ok (r.get? type).isSome else .error (.shape .wrongType) := by
  unfold has Data.requireKey
  cases type.isKey <;> rfl

/-- A type that was just registered is found, in the way it was registered. -/
theorem exists_lookup_of_register (h : r.register type table owner identity = .ok r') :
    ∃ m, r'.lookup type = .ok m ∧ m.table = table ∧ m.identity = identity := by
  obtain ⟨hkey, rfl, -, ⟨m, hget, htable, hidentity, rfl⟩ | ⟨hnew, rfl⟩⟩ := register_eq_ok_iff.mp h
  · exact ⟨m, by simp [lookup_eq, hkey, hget], htable, hidentity⟩
  · have hget : get? ⟨r.mappings ++ [⟨type, owner, identity⟩]⟩ type = some ⟨type, owner, identity⟩ := by
      unfold get? at hnew ⊢
      rw [List.find?_append, hnew]
      simp
    exact ⟨⟨type, owner, identity⟩, by simp [lookup_eq, hkey, hget], rfl, rfl⟩

/-! ## Putting a registry back -/

/-- Registrations that go with those of a registry are registered after them, one after the other. -/
theorem foldlM_register (before after : List Mapping) (h : Sound ⟨before ++ after⟩) :
    after.foldlM (fun r m => register r m.type m.table m.table m.identity) (⟨before⟩ : Registry) =
      .ok ⟨before ++ after⟩ := by
  induction after generalizing before with
  | nil => simp
  | cons m after ih =>
    have hm : m ∈ before ++ m :: after := by simp
    have hnew : get? ⟨before⟩ m.type = none := by
      refine List.find?_eq_none.mpr fun other hother => ?_
      have hapart := (List.pairwise_append.mp h.apart).2.2 other hother m List.mem_cons_self
      simp [hapart.1]
    have hregister : register ⟨before⟩ m.type m.table m.table m.identity = .ok ⟨before ++ [m]⟩ :=
      register_eq_ok_iff.mpr ⟨h.keys m hm, rfl, h.belongs m hm, .inr ⟨hnew, rfl⟩⟩
    rw [List.append_cons] at h ⊢
    rw [List.foldlM_cons, hregister, ok_bind, ih (before ++ [m]) h]

/-- A registry whose types have an order is put back with all its registrations, in that order. -/
theorem Sound.exists_replay {names : List Data} (h : r.Sound) (htypes : r.types = .ok names) :
    ∃ r', r.replay = .ok r' ∧ r'.mappings.Perm r.mappings := by
  have hnames : names.Perm (r.mappings.map (·.type)) := by
    unfold types Data.sorted? at htypes
    split at htypes
    · obtain rfl := Except.ok.inj htypes
      exact List.mergeSort_perm _ _
    · cases htypes
  have hfound : (r.mappings.map (·.type)).filterMap r.get? = r.mappings := by
    rw [List.filterMap_map]
    have hself : ∀ m ∈ r.mappings, r.get? m.type = some m := fun m hm => h.get?_eq_some_iff.mpr ⟨hm, by simp⟩
    calc r.mappings.filterMap (r.get? ∘ (·.type)) = r.mappings.filterMap some := List.filterMap_congr hself
      _ = r.mappings := List.filterMap_some
  have hperm : (names.filterMap r.get?).Perm r.mappings := hfound ▸ hnames.filterMap r.get?
  refine ⟨⟨names.filterMap r.get?⟩, ?_, hperm⟩
  unfold replay
  rw [htypes, ok_bind]
  exact foldlM_register [] _ (h.of_perm hperm)

/-! ## Calls -/

/-- A call on a registry. -/
inductive Call where
  | register (type : Data) (table owner : Schema) (identity : Column)
  | lookup (type : Data)
  | has (type : Data)
  | clear

/-- What a call answers when it is not refused. -/
inductive Answer where
  | mapping (m : Mapping)
  | truth (b : Bool)
  | done
deriving DecidableEq

/-- Makes a call. A type that was registered is answered with its registration. -/
def perform (r : Registry) : Call → Except Fault Answer × Registry
  | .register type table owner identity =>
    match r.register type table owner identity with
    | .ok r' => ((r'.lookup type).map .mapping, r')
    | .error f => (.error f, r)
  | .lookup type => ((r.lookup type).map .mapping, r)
  | .has type => ((r.has type).map .truth, r)
  | .clear => (.ok .done, {})

/-- The calls made, with what each of them answered, and the registry they have left. -/
def run (calls : List Call) : List (Call × Except Fault Answer) × Registry :=
  calls.foldl (fun (history, r) c => (history ++ [(c, (r.perform c).1)], (r.perform c).2)) ([], {})

/-- The registrations known after one more call: a call that registered a type adds to them, and clearing the registry
drops them all. -/
def known (made : List Mapping) : Call × Except Fault Answer → List Mapping
  | (.register type table _ identity, .ok _) => made ++ [⟨type, table, identity⟩]
  | (.clear, _) => []
  | _ => made

/-- The calls of a history that registered a type since the registry was last cleared, the earliest first. -/
def registrations (history : List (Call × Except Fault Answer)) : List Mapping := history.foldl known []

/-- How a type was first registered since the registry was last cleared. -/
def firstRegistration (history : List (Call × Except Fault Answer)) (type : Data) : Option Mapping :=
  (registrations history).find? fun m => m.type == type

theorem run_concat (calls : List Call) (c : Call) :
    run (calls ++ [c]) =
      ((run calls).1 ++ [(c, ((run calls).2.perform c).1)], ((run calls).2.perform c).2) :=
  List.foldl_concat ..

theorem registrations_concat (history : List (Call × Except Fault Answer)) (entry : Call × Except Fault Answer) :
    registrations (history ++ [entry]) = known (registrations history) entry := List.foldl_concat ..

/-- The registry finds every type as it was first registered. -/
structure Remembers (r : Registry) (made : List Mapping) : Prop where
  sound : r.Sound
  first : ∀ type, r.get? type = made.find? fun m => m.type == type

theorem remembers_empty : Remembers {} [] := ⟨sound_empty, fun _ => rfl⟩

/-- Registering a type for which there is a registration already finds nothing new. -/
theorem Remembers.repeated {made : List Mapping} (h : r.Remembers made) (hget : r.get? type = some m) :
    r.Remembers (made ++ [⟨type, table, identity⟩]) where
  sound := h.sound
  first other := by
    rw [List.find?_append, ← h.first other]
    obtain ⟨hm, htype⟩ := h.sound.get?_eq_some_iff.mp hget
    cases hother : r.get? other with
    | some _ => rfl
    | none =>
      have hne : ¬ (type == other) = true := by
        intro hsame
        have hfound : (m.type == other) = true :=
          Data.same_trans_of_isKey m.type type other (h.sound.keys m hm) htype hsame
        exact List.find?_eq_none.mp hother m hm hfound
      simp [hne]

theorem Remembers.added {made : List Mapping} (h : r.Remembers made) (hkey : type.isKey = true)
    (hmem : identity ∈ table.columns) (hnew : r.get? type = none) :
    Remembers ⟨r.mappings ++ [⟨type, table, identity⟩]⟩ (made ++ [⟨type, table, identity⟩]) where
  sound := h.sound.push hkey hmem hnew
  first other := by
    rw [List.find?_append, ← h.first other]
    exact List.find?_append

/-- The one step of a run: whatever is called, and whether or not it is refused, the registry goes on finding every
type as it was first registered. -/
theorem Remembers.perform {made : List Mapping} (h : r.Remembers made) (c : Call) :
    (r.perform c).2.Remembers (known made (c, (r.perform c).1)) := by
  cases c with
  | lookup type => exact h
  | has type => exact h
  | clear => exact remembers_empty
  | register type table owner identity =>
    cases hregister : r.register type table owner identity with
    | error f => simpa only [Registry.perform, hregister, known] using h
    | ok r' =>
      obtain ⟨answer, hanswer, -⟩ := exists_lookup_of_register hregister
      simp only [Registry.perform, hregister, hanswer, known, Except.map]
      obtain ⟨hkey, rfl, hmem, ⟨m, hget, -, -, rfl⟩ | ⟨hnew, rfl⟩⟩ := register_eq_ok_iff.mp hregister
      · exact h.repeated hget
      · exact h.added hkey hmem hnew

theorem remembers_run (calls : List Call) : (run calls).2.Remembers (registrations (run calls).1) := by
  induction calls using List.reverseRecOn with
  | nil => exact remembers_empty
  | append_singleton calls c ih =>
    rw [run_concat, registrations_concat]
    exact ih.perform c

theorem get?_run (calls : List Call) (type : Data) :
    (run calls).2.get? type = firstRegistration (run calls).1 type := (remembers_run calls).first type

/-- A call that is refused leaves the registry as it was. -/
theorem perform_of_error {c : Call} {f : Fault} (h : (r.perform c).1 = .error f) : (r.perform c).2 = r := by
  cases c with
  | lookup type => rfl
  | has type => rfl
  | clear => cases h
  | register type table owner identity =>
    cases hregister : r.register type table owner identity with
    | error f => simp only [perform, hregister]
    | ok r' =>
      obtain ⟨m, hm, -⟩ := exists_lookup_of_register hregister
      simp only [perform, hregister, hm, Except.map, reduceCtorEq] at h

/-- After any calls on an empty registry, of which any may have been refused: a type that can be looked up is found as
it was first registered since the registry was last cleared, and is reported as unknown if it was not; a type can be
registered where its column is one of its table and it is unknown or first registered in just this way; what is refused
leaves the registry as it was; and every type is identified by a column of its own table. -/
theorem answers_by_first_registration (calls : List Call) (type : Data) (table owner : Schema) (identity : Column) :
    ((run calls).2.lookup type =
      if type.isKey then
        (firstRegistration (run calls).1 type).elim (.error (.policy (.unregisteredType type))) .ok
      else .error (.shape .wrongType)) ∧
    ((run calls).2.has type =
      if type.isKey then .ok (firstRegistration (run calls).1 type).isSome else .error (.shape .wrongType)) ∧
    ((∃ r, (run calls).2.register type table owner identity = .ok r) ↔
      type.isKey = true ∧ owner = table ∧ identity ∈ table.columns ∧
        ∀ m, firstRegistration (run calls).1 type = some m → m.table = table ∧ m.identity = identity) ∧
    (∀ c f, ((run calls).2.perform c).1 = .error f → ((run calls).2.perform c).2 = (run calls).2) ∧
    ∀ m ∈ (run calls).2.mappings, m.identity ∈ m.table.columns := by
  rw [← get?_run]
  exact ⟨lookup_eq _ _, has_eq _ _, exists_register_iff, fun _ _ => perform_of_error,
    (remembers_run calls).sound.belongs⟩

namespace Moves

open Records

/-- Users are registered, refused elsewhere, and registered elsewhere once the registry has been cleared. -/
def calls : List Call := [
  .register (.text "User") users users Columns.username,
  .register (.text "User") documents documents Columns.documentId,
  .register (.text "Document") documents users Columns.username,
  .clear,
  .register (.text "User") organizations organizations Columns.organizationName,
  .register (.text "User") users users Columns.username]

theorem answers_by_first_registration_users :
    (run (calls.take 3)).2.lookup (.text "User") = .ok ⟨.text "User", users, Columns.username⟩ ∧
      (run calls).2.lookup (.text "User") = .ok ⟨.text "User", organizations, Columns.organizationName⟩ ∧
      (¬ ∃ r, (run calls).2.register (.text "User") users users Columns.username = .ok r) ∧
      ((run calls).2.perform (calls[5])).2 = (run calls).2 := by
  have hfirst : firstRegistration (run (calls.take 3)).1 (.text "User") =
      some ⟨.text "User", users, Columns.username⟩ := by decide +kernel
  have hmoved : firstRegistration (run calls).1 (.text "User") =
      some ⟨.text "User", organizations, Columns.organizationName⟩ := by decide +kernel
  obtain ⟨hlookup, -⟩ :=
    answers_by_first_registration (calls.take 3) (.text "User") users users Columns.username
  obtain ⟨hlookup', -, hregister, hrefused, -⟩ :=
    answers_by_first_registration calls (.text "User") users users Columns.username
  refine ⟨?_, ?_, ?_, ?_⟩
  · rw [hlookup, hfirst]
    rfl
  · rw [hlookup', hmoved]
    rfl
  · rw [hregister]
    rintro ⟨-, -, -, hsame⟩
    exact absurd (hsame _ hmoved).1 (by decide)
  · exact hrefused calls[5] (.argument (.registeredTwice (.text "User"))) (by cbv)

end Moves

end Registry

end RowGuard
