import RowGuard.Proofs.Lending
import RowGuard.Proofs.Records.Statements
import RowGuard.Records.Storage

/-!
# Setting up the database

Setting up a database that has the application's tables adds the organization `_` and its administrator root where
they are missing, and changes nothing else (`completes_setUp`).
-/

namespace RowGuard.Records

open Sys

/-- Nothing is gone, and nothing has come but the organization `_` and root as its administrator, where they were
missing. -/
structure Completes (before after : Database) : Prop where
  keepsOrganizations : ∀ org, HasOrganization before org → HasOrganization after org
  organizations : ∀ org, HasOrganization after org → HasOrganization before org ∨ org = globalOrg
  keepsUsers : ∀ u org role, HasUser before u org role → HasUser after u org role
  users : ∀ u org role, HasUser after u org role → HasUser before u org role ∨
    u = rootUser ∧ org = globalOrg ∧ role = "admin" ∧ ∀ o, ¬IsMember before rootUser o
  same : Untouched [documents, documentUserRoles] before after

theorem Completes.refl (db : Database) : Completes db db :=
  ⟨fun _ h => h, fun _ h => .inl h, fun _ _ _ h => h, fun _ _ _ h => .inl h, fun _ _ => rfl⟩

variable {sys sys' : System}

/-- A row is inserted if none has the key. -/
theorem run_ensure {s : Schema} {key : Assignments} {insertion : Sys Unit} {message : String}
    (hrun : ensure s key insertion message sys = (.ok (), sys')) :
    sys'.seen = sys.seen ∨ (∀ row ∈ sys.seen.rows s.name, key.hold s row = false) ∧
      ∃ found inserted, found.seen = sys.seen ∧ insertion found = (.ok (), inserted) ∧
        sys'.seen = inserted.seen := by
  obtain ⟨rows, found, hselect, hrun⟩ := bind_eq_ok hrun
  obtain ⟨hseen, hrows⟩ := Link.Statement.select_run_eq_ok (run_of_execute hselect)
  split at hrun
  case isTrue hempty =>
    obtain ⟨_, inserted, hinsertion, hlog⟩ := bind_eq_ok hrun
    obtain ⟨_, rfl⟩ := Prod.mk.inj hlog
    refine .inr ⟨?_, found, inserted, hseen, hinsertion, rfl⟩
    intro row hrow
    rw [List.isEmpty_iff.mp hempty] at hrows
    simpa [hrow] using (hrows row).symm
  case isFalse =>
    obtain ⟨_, rfl⟩ := Prod.mk.inj hrun
    exact .inl hseen

theorem run_ensureOrganization {message : String} (h : sys.seen.Meets schemas)
    (hrun : ensure organizations [("name", .text globalOrg)] (insertOrganization (.text globalOrg)) message sys =
      (.ok (), sys')) : sys'.seen.Meets schemas ∧ Completes sys.seen sys'.seen := by
  rcases run_ensure hrun with hseen | ⟨_, found, inserted, hfound, hinsertion, hseen⟩
  · rw [hseen]
    exact ⟨h, .refl _⟩
  · have hmade := run_of_execute hinsertion
    rw [hfound] at hmade
    obtain ⟨hmeets, horganizations, hsame⟩ := run_insertOrganization h hmade
    rw [hseen]
    refine ⟨hmeets, fun org horg => (horganizations org).mpr (.inl horg), fun org => (horganizations org).mp,
      fun _ _ _ => (hsame.hasUser_iff (by decide)).mpr, ?_, hsame.mono (by decide)⟩
    exact fun _ _ _ hu => .inl ((hsame.hasUser_iff (by decide)).mp hu)

theorem run_ensureRoot {message : String} (h : sys.seen.Meets schemas)
    (hrun : ensure users [("username", .text rootUser)]
      (insertUser (.text rootUser) (.text globalOrg) (.text "admin")) message sys = (.ok (), sys')) :
    sys'.seen.Meets schemas ∧ Completes sys.seen sys'.seen := by
  rcases run_ensure hrun with hseen | ⟨hmissing, found, inserted, hfound, hinsertion, hseen⟩
  · rw [hseen]
    exact ⟨h, .refl _⟩
  · have hmade := run_of_execute hinsertion
    rw [hfound] at hmade
    obtain ⟨hmeets, husers, hsame⟩ := run_insertUser h (by decide) hmade
    have hpasses : ∀ u o r, Assignments.hold users [("username", .text rootUser)]
        [.text u, .text o, .text r] = decide (u = rootUser) := fun u o r => Bool.and_true _
    have hnone : ∀ o, ¬IsMember sys.seen rootUser o := by
      rintro o ⟨role, hu⟩
      have hpassed := hmissing _ hu
      rw [hpasses] at hpassed
      exact of_decide_eq_false hpassed rfl
    rw [hseen]
    refine ⟨hmeets, fun org => (hsame.hasOrganization_iff (by decide)).mpr,
      fun org horg => .inl ((hsame.hasOrganization_iff (by decide)).mp horg),
      fun u o r hu => (husers u o r).mpr (.inl hu), ?_, hsame.mono (by decide)⟩
    intro u o r hu
    exact ((husers u o r).mp hu).imp_right fun ⟨hroot, horg, hrole⟩ => ⟨hroot, horg, hrole, hnone⟩

/-- Completing twice is completing. -/
theorem Completes.trans {db made last : Database} (h : Completes db made) (h' : Completes made last) :
    Completes db last where
  keepsOrganizations org horg := h'.keepsOrganizations org (h.keepsOrganizations org horg)
  organizations org horg := (h'.organizations org horg).elim (h.organizations org) .inr
  keepsUsers u o r hu := h'.keepsUsers u o r (h.keepsUsers u o r hu)
  users u o r hu := by
    rcases h'.users u o r hu with hu | ⟨hroot, horg, hrole, hnone⟩
    · exact h.users u o r hu
    · exact .inr ⟨hroot, horg, hrole, fun o' ⟨role, hu⟩ => hnone o' ⟨role, h.keepsUsers _ _ _ hu⟩⟩
  same := h.same.trans h'.same

theorem contained_ensure {s : Schema} {key : Assignments} {insertion : Sys Unit} {message : String}
    (hinsertion : Contained insertion) : Contained (ensure s key insertion message) := by
  refine (Contained.execute _).bind ?_
  intro rows
  split
  case isTrue => exact hinsertion.bind fun _ => (Aside.log _ _ _).contained
  case isFalse => exact Contained.pure ()

/-- Adds what every database starts with. -/
def seed : Sys Unit := do
  ensure organizations [("name", .text globalOrg)] (insertOrganization (.text globalOrg))
    ("Created global organization " ++ (Data.text globalOrg).shown)
  ensure users [("username", .text rootUser)] (insertUser (.text rootUser) (.text globalOrg) (.text "admin"))
    ("Created bootstrap user " ++ (Data.text rootUser).shown)

theorem setUp_eq (bind : Bind) : setUp bind = (do
    createTables bind
    Scope.transaction bind "init_db" seed) := rfl

theorem contained_seed : Contained seed :=
  (contained_ensure (contained_insertOrganization _)).bind fun _ => contained_ensure (contained_insertUser _ _ _)

theorem run_seed (h : sys.seen.Meets schemas) (hrun : seed sys = (.ok (), sys')) :
    sys'.seen.Meets schemas ∧ Completes sys.seen sys'.seen := by
  obtain ⟨_, found, horganization, hroot⟩ := bind_eq_ok hrun
  obtain ⟨hmeets, hcompletes⟩ := run_ensureOrganization h horganization
  obtain ⟨hmeets', hcompletes'⟩ := run_ensureRoot hmeets hroot
  exact ⟨hmeets', hcompletes.trans hcompletes'⟩

theorem createTables_apply (h : sys.disk.Meets schemas) :
    createTables (.engine true) sys = (.ok (), sys) := by
  -- no table is missing
  have hnone : (schemas.filter fun s => (sys.disk.table? s.name).isNone) = [] := by
    refine List.filter_eq_nil_iff.mpr ?_
    intro s hs
    simp [h.table?_eq names_nodup hs]
  have htables : withTables sys.disk = sys.disk := by
    unfold withTables
    rw [hnone]
    simp
  show (_, { sys with disk := withTables sys.disk }) = _
  rw [htables]

/-- Setting up a database again through an engine only completes it, whether the engine can be reached or not. -/
theorem completes_setUp (reachable : Bool) (h : sys.disk.Meets schemas) :
    (setUp (.engine reachable) sys).2.disk.Meets schemas ∧
      Completes sys.disk (setUp (.engine reachable) sys).2.disk ∧
      (setUp (.engine reachable) sys).2.link = sys.link := by
  cases reachable with
  | false => exact ⟨h, .refl _, rfl⟩
  | true =>
    rw [setUp_eq, bind_of_ok (createTables_apply h)]
    have hserved := Operation.served_transaction contained_seed (.engine true) "init_db" sys
    have hlink := hserved.own true rfl
    cases houtcome : (Scope.transaction (.engine true) "init_db" seed sys).1 with
    | error f =>
      have hdisk : (Scope.transaction (.engine true) "init_db" seed sys).2.disk = sys.disk :=
        hserved.kept f houtcome
      rw [hdisk]
      exact ⟨h, .refl _, hlink⟩
    | ok _ =>
      obtain ⟨start, mutated, hbegins, hrun, hmade⟩ := hserved.made _ houtcome
      have hseen : start.seen = sys.disk := hbegins.seen_eq
      have hdisk : (Scope.transaction (.engine true) "init_db" seed sys).2.disk = mutated.seen := hmade
      rw [← hseen] at h ⊢
      rw [hdisk]
      obtain ⟨hmeets, hcompletes⟩ := run_seed h hrun
      exact ⟨hmeets, hcompletes, hlink⟩

end RowGuard.Records
