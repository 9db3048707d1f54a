import RowGuard.Proofs.Batch.Effect
import RowGuard.Proofs.Batch.Outcome

/-!
# All or nothing

A batch on a connection of its own succeeds exactly when its statement runs, every target names a row that
may be changed, no two targets name the same row, each of these rows is still there when its turn comes, and
nobody else holds the database. Then exactly these rows are changed; in every other case nothing is
(`all_or_nothing`).
-/

namespace RowGuard.Batch

variable {b : Batch} {db made : Database} {others : List Link} {t : Table} {n : Nat}

/-- The statement can be run: its values can be bound and handed over, and the fragment can be evaluated. -/
structure Acceptable (b : Batch) (db : Database) : Prop where
  binds : Condition.bindFault? b.literals = none
  runs : b.fragment.runs db b.mapping.table = true
  fits : Condition.allFit b.literals = true

/-- The change violates no constraint. -/
def Admissible (b : Batch) (db : Database) : Prop :=
  ∃ made n, b.apply db = .ok (made, n) ∧ made.isConsistent = true

theorem admissible_iff :
    b.Admissible db ↔ (b.apply db).toOption.any (fun changed => changed.1.isConsistent) = true := by
  unfold Admissible
  cases b.apply db with
  | error e => simp [Except.toOption]
  | ok changed =>
    obtain ⟨made, n⟩ := changed
    simp [Except.toOption]

instance (b : Batch) (db : Database) : Decidable (b.Admissible db) :=
  decidable_of_iff _ admissible_iff.symm

/-- The statement runs: the engine can be reached, no other connection has begun to change the database,
the statement can be run and violates no constraint. -/
structure Runs (b : Batch) (reachable : Bool) (others : List Link) (db : Database) : Prop where
  reachable : reachable = true
  unlocked : others.any Link.isWriting = false
  acceptable : b.Acceptable db
  admissible : b.Admissible db

/-- What a batch makes of the database when it succeeds. -/
def Changes (b : Batch) (constant : List (String × Data)) (t : Table) (before after : Database) :
    Prop :=
  match b.change with
  | .update _ _ => b.Updates constant t before after
  | .delete => b.Deletes t before after

/-! ## The statement -/

section Statement

variable (htable : db.table? b.mapping.table.name = some t)

include htable

theorem run_of_not_runs (hruns : b.fragment.runs db b.mapping.table = false) :
    b.statement.run db = .error (.sql .operational) := by
  show (if (db.table? b.mapping.table.name).isNone || !b.fragment.runs db b.mapping.table then _
    else _) = _
  rw [htable, hruns]
  rfl

theorem run_of_not_fits (hruns : b.fragment.runs db b.mapping.table = true)
    (hfits : Condition.allFit b.literals = false) :
    b.statement.run db = .error (.shape .outOfRange) := by
  show (if (db.table? b.mapping.table.name).isNone || !b.fragment.runs db b.mapping.table then _
    else if !Condition.allFit b.literals then _ else _) = _
  rw [htable, hruns, hfits]
  rfl

theorem run_of_fits (hruns : b.fragment.runs db b.mapping.table = true)
    (hfits : Condition.allFit b.literals = true) :
    b.statement.run db = ((b.apply db).map Prod.swap).mapError .sql := by
  show (if (db.table? b.mapping.table.name).isNone || !b.fragment.runs db b.mapping.table then _
    else if !Condition.allFit b.literals then _ else _) = _
  rw [htable, hruns, hfits]
  cases b.apply db <;> rfl

theorem run_eq_ok_iff :
    b.statement.run db = .ok (n, made) ↔ b.fragment.runs db b.mapping.table = true ∧
      Condition.allFit b.literals = true ∧ b.apply db = .ok (made, n) := by
  cases hruns : b.fragment.runs db b.mapping.table with
  | false => simp [run_of_not_runs htable hruns]
  | true =>
    cases hfits : Condition.allFit b.literals with
    | false => simp [run_of_not_fits htable hruns hfits]
    | true =>
      rw [run_of_fits htable hruns hfits]
      cases b.apply db with
      | error e => simp [Except.map, Except.mapError]
      | ok changed => simp [Except.map, Except.mapError, Prod.ext_iff, and_comm]

theorem run_eq_error {f : Fault} (h : b.statement.run db = .error f) :
    f.isSql = true ∨ f = .shape .outOfRange ∧ Condition.allFit b.literals = false := by
  cases hruns : b.fragment.runs db b.mapping.table with
  | false =>
    rw [run_of_not_runs htable hruns] at h
    cases h
    exact .inl rfl
  | true =>
    cases hfits : Condition.allFit b.literals with
    | false =>
      rw [run_of_not_fits htable hruns hfits] at h
      cases h
      exact .inr ⟨rfl, rfl⟩
    | true =>
      rw [run_of_fits htable hruns hfits] at h
      cases happly : b.apply db with
      | error e =>
        rw [happly] at h
        cases h
        exact .inl rfl
      | ok changed =>
        rw [happly] at h
        simp [Except.map, Except.mapError] at h

theorem tried_eq_ok_iff :
    b.statement.tried others db = .ok (n, made) ↔
      others.any Link.isWriting = false ∧ b.Acceptable db ∧ b.apply db = .ok (made, n) ∧
        made.isConsistent = true := by
  rw [Link.Statement.tried_eq_ok_iff, run_eq_ok_iff htable]
  constructor
  · rintro ⟨hbinds, hlocked, ⟨hruns, hfits, happly⟩, hconsistent⟩
    exact ⟨hlocked, ⟨hbinds, hruns, hfits⟩, happly, hconsistent⟩
  · rintro ⟨hlocked, ⟨hbinds, hruns, hfits⟩, happly, hconsistent⟩
    exact ⟨hbinds, hlocked, ⟨hruns, hfits, happly⟩, hconsistent⟩

/-- A statement that fails does so in the database, or cannot hand over a number that is too large. -/
theorem tried_eq_error {f : Fault} (h : b.statement.tried others db = .error f) :
    f.isSql = true ∨ f = .shape .outOfRange ∧ Condition.allFit b.literals = false := by
  rcases Link.Statement.of_tried_eq_error h with hsql | hrun
  · exact .inl hsql
  · exact run_eq_error htable hrun

/-- A statement that gives a count runs, and has counted rows that the batch reaches. -/
theorem runs_of_tried (h : b.statement.tried others db = .ok (n, made)) :
    b.Runs true others db ∧ n = b.counted db t := by
  obtain ⟨hlocked, hacceptable, happly, hconsistent⟩ := (tried_eq_ok_iff htable).mp h
  exact ⟨⟨rfl, hlocked, hacceptable, made, n, happly, hconsistent⟩, eq_counted_of_apply htable happly⟩

theorem not_runs_of_tried {f : Fault} (h : b.statement.tried others db = .error f) :
    ¬ b.Runs true others db := by
  rintro ⟨_, hlocked, hacceptable, made, n, happly, hconsistent⟩
  have hok := (tried_eq_ok_iff htable).mpr ⟨hlocked, hacceptable, happly, hconsistent⟩
  rw [h] at hok
  simp at hok

end Statement

/-! ## The outcome -/

section Outcome

variable (htable : db.table? b.mapping.table.name = some t)
  (hplain : ∀ target ∈ b.targets, target.identity.IsPlain) (hdistinct : b.Distinct t.rows)

include htable hplain hdistinct

/-- A batch that succeeds has run, has reached all its targets, and could be committed. -/
theorem outcome_of_ok (h : (b.outcome others db).1 = .ok n) :
    b.Runs true others db ∧ b.ReachesAll db t ∧ others.any Link.isReading = false ∧
      n = b.targets.length ∧ b.apply db = .ok ((b.outcome others db).2, n) := by
  obtain ⟨htried, hlength, hread⟩ := tried_of_outcome_ok h
  obtain ⟨hruns, hcount⟩ := runs_of_tried htable htried
  have hall := (counted_eq_iff hplain hdistinct).mp (hcount.symm.trans hlength)
  exact ⟨hruns, hall, hread, hlength, ((tried_eq_ok_iff htable).mp htried).2.2.1⟩

/-- A batch that runs, reaches all its targets and can be committed succeeds. -/
theorem exists_outcome_eq_ok (hruns : b.Runs true others db) (hall : b.ReachesAll db t)
    (hread : others.any Link.isReading = false) : ∃ n, (b.outcome others db).1 = .ok n := by
  obtain ⟨_, hlocked, hacceptable, made, n, happly, hconsistent⟩ := hruns
  have htried := (tried_eq_ok_iff htable).mpr ⟨hlocked, hacceptable, happly, hconsistent⟩
  obtain ⟨_, hcount⟩ := runs_of_tried htable htried
  have hlength : n = b.targets.length := hcount.trans ((counted_eq_iff hplain hdistinct).mpr hall)
  refine ⟨n, ?_⟩
  unfold outcome
  rw [htried]
  dsimp only
  rw [if_neg (not_not.mpr hlength), hread, if_neg Bool.false_ne_true]

/-- A batch that fails stores nothing. It is denied when its statement has run but did not reach all
targets; otherwise access to the database has failed, or a number was too large to be handed over. -/
theorem outcome_of_error {f : Fault} (h : (b.outcome others db).1 = .error f) :
    (b.outcome others db).2 = db ∧
      (b.Runs true others db ∧ ¬ b.ReachesAll db t → f = b.denial) ∧
      (¬ (b.Runs true others db ∧ ¬ b.ReachesAll db t) →
        f = .dataAccess b.operation ∨ f = .shape .outOfRange ∧ Condition.allFit b.literals = false) := by
  unfold outcome at h ⊢
  cases htried : b.statement.tried others db with
  | error e =>
    have hnot := not_runs_of_tried htable htried
    rw [htried] at h
    refine ⟨rfl, fun hruns => absurd hruns.1 hnot, ?_⟩
    intro _
    obtain rfl : (if e.isSql then .dataAccess b.operation else e) = f := Except.error.inj h
    rcases tried_eq_error htable htried with hsql | ⟨rfl, hfits⟩
    · exact .inl (if_pos hsql)
    · exact .inr ⟨rfl, hfits⟩
  | ok pair =>
    obtain ⟨count, made⟩ := pair
    obtain ⟨hruns, hcount⟩ := runs_of_tried htable htried
    rw [htried] at h
    dsimp only at h ⊢
    -- the count tells whether all targets were reached
    have hall : count = b.targets.length ↔ b.ReachesAll db t := by
      rw [hcount]
      exact counted_eq_iff hplain hdistinct
    by_cases hlength : count = b.targets.length
    · rw [if_neg (not_not.mpr hlength)] at h ⊢
      cases hread : others.any Link.isReading with
      | true =>
        rw [hread, if_pos rfl] at h
        refine ⟨rfl, fun hdenied => absurd (hall.mp hlength) hdenied.2, ?_⟩
        intro _
        refine .inl ?_
        exact (Except.error.inj h).symm
      | false =>
        rw [hread, if_neg Bool.false_ne_true] at h
        simp at h
    · rw [if_pos hlength] at h ⊢
      refine ⟨rfl, fun _ => (Except.error.inj h).symm, ?_⟩
      intro hnot
      exact absurd ⟨hruns, fun hreached => hlength (hall.mpr hreached)⟩ hnot

end Outcome

/-! ## The operation -/

/-- A batch succeeds exactly when its statement runs, every target names a row that may be changed, no two
targets name the same row, and nobody else relies on the database as it was. Then the answer is the number
of targets, and exactly the rows they name have been changed. Otherwise nothing is stored, and the batch is
denied if its statement has run, while anything else is a failure of data access or a number too large.
Whether a batch succeeds that is permitted on all its targets is said where no row that a deletion reaches goes
with one that is deleted before it. The database before the statement is the one before planning, for an
evaluator that stores nothing. -/
theorem all_or_nothing {e : Evaluator} {given : Option Config} {s : Subject} {r : Request}
    {plan : Sys Batch} {sys₀ sys : System} (reachable : Bool)
    (hplan : plan = planUpdate e given s r ∨ plan = planDelete e given s r)
    (hplanned : plan sys₀ = (.ok b, sys))
    (hplain : ∀ target ∈ r.targets, target.identity.IsPlain)
    (htable : sys.disk.table? b.mapping.table.name = some t) (hschema : t.schema = b.mapping.table)
    (hstores : ∀ row ∈ t.rows, t.schema.Stores row) (hdistinct : b.Distinct t.rows) :
    b.Planned s r ∧ (e.StoresNothing → sys.disk = sys₀.disk) ∧
      ∃ outcome sys', (plan >>= execute (.engine reachable)) sys₀ = (outcome, sys') ∧
        (b.InTurn sys.disk t → ((∃ n, outcome = .ok n) ↔ b.Runs reachable sys.others sys.disk ∧
          b.AllPermitted sys.disk t.rows ∧ sys.others.any Link.isReading = false)) ∧
        (∀ n, outcome = .ok n → b.Runs reachable sys.others sys.disk ∧ b.AllPermitted sys.disk t.rows ∧
          n = r.targets.length ∧ b.Changes r.constant t sys.disk sys'.disk) ∧
        (∀ f, outcome = .error f → sys'.disk = sys.disk ∧
          (b.Runs reachable sys.others sys.disk ∧ ¬ b.AllPermitted sys.disk t.rows →
            f = .denied (Denial.ofBatch s r.action r.type)) ∧
          (b.InTurn sys.disk t → ¬ (b.Runs reachable sys.others sys.disk ∧ ¬ b.AllPermitted sys.disk t.rows) →
            f = .dataAccess b.operation ∨
              f = .shape .outOfRange ∧ Condition.allFit b.literals = false)) := by
  have hb : b.Planned s r := by
    rcases hplan with rfl | rfl
    · exact planned_of_planUpdate hplanned
    · exact planned_of_planDelete hplanned
  have hdenial : b.denial = .denied (Denial.ofBatch s r.action r.type) := by
    unfold denial
    rw [hb.subject, hb.action, hb.type]
  have hplain' : ∀ target ∈ b.targets, target.identity.IsPlain := by
    rw [hb.targets]
    exact hplain
  have hstores' : ∀ row ∈ t.rows, b.mapping.table.Stores row := by
    rw [← hschema]
    exact hstores
  have hstored : e.StoresNothing → sys.disk = sys₀.disk := by
    intro he
    have hdisk := storesNothing_of_plan he hplan sys₀
    rwa [hplanned] at hdisk
  refine ⟨hb, hstored, ?_⟩
  cases reachable with
  | false =>
    obtain ⟨sys', hexecute, hdisk⟩ := execute_unreachable_apply b sys
    have hnot : ¬ b.Runs false sys.others sys.disk := fun h => Bool.false_ne_true h.reachable
    refine ⟨_, sys', (Sys.bind_of_ok hplanned).trans hexecute, ?_, ?_, ?_⟩
    · simp [hnot]
    · simp
    · rintro f hf
      obtain rfl := Except.error.inj hf
      exact ⟨hdisk, fun hruns => absurd hruns.1 hnot, fun _ _ => .inl rfl⟩
  | true =>
    obtain ⟨sys', hexecute, hdisk⟩ := execute_engine_apply b sys
    refine ⟨_, sys', (Sys.bind_of_ok hplanned).trans hexecute, ?_, fun n hn => ?_, fun f hf => ?_⟩
    · intro hturn
      constructor
      · rintro ⟨n, hn⟩
        obtain ⟨hruns, hall, hread, _⟩ := outcome_of_ok htable hplain' hdistinct hn
        exact ⟨hruns, hall.permitted, hread⟩
      · rintro ⟨hruns, hall, hread⟩
        exact exists_outcome_eq_ok htable hplain' hdistinct hruns ⟨hall, hturn⟩ hread
    · obtain ⟨hruns, ⟨hall, _⟩, _, hlength, happly⟩ := outcome_of_ok htable hplain' hdistinct hn
      rw [hb.targets] at hlength
      refine ⟨hruns, hall, hlength, ?_⟩
      rw [hdisk]
      unfold Changes
      rcases hb.change with hchange | ⟨hchange, hsets⟩
      · rw [hchange]
        exact deletes_of_apply hchange htable hdistinct hplain' hall happly
      · rw [← hb.targets] at hchange hsets
        rw [hchange]
        exact updates_of_apply hchange hsets htable hschema hstores' hdistinct hplain' hall happly
    · obtain ⟨hkept, hdenied, hfailed⟩ := outcome_of_error htable hplain' hdistinct hf
      rw [hdenial] at hdenied
      refine ⟨hdisk.trans hkept, fun hrefused => hdenied ⟨hrefused.1, fun hall => hrefused.2 hall.permitted⟩, ?_⟩
      intro hturn hnot
      exact hfailed fun hrefused => hnot ⟨hrefused.1, fun hall => hrefused.2 ⟨hall, hturn⟩⟩

end RowGuard.Batch

/-! ## Notes -/

namespace RowGuard.Notes

open Batch

/-- Notes with whole numbers as identities. -/
def notes : Schema :=
  ⟨"notes", [{ name := "id", type := .integer, isKey := true },
    { name := "title", type := .text, nullable := true }]⟩

def mapping : Mapping := ⟨.text "Note", notes, { name := "id", type := .integer, isKey := true }⟩

def table : Table := ⟨notes, [[.int 1, .text "one"], [.int 2, .text "two"]]⟩

def system : System := { disk := ⟨[table]⟩, globals := { registry := ⟨[mapping]⟩ } }

def editor : Subject := ⟨.text "User", .text "ed"⟩

/-- An evaluator that allows everything. -/
def evaluator : Evaluator := .fixed {}

/-- Gives both notes new titles. -/
def retitle : Request where
  action := .text "edit"
  type := .text "Note"
  targets := [⟨.int 1, [("title", .text "first")]⟩, ⟨.int 2, [("title", .text "second")]⟩]

/-- Deletes the first note, naming it by a number and by a text. -/
def deleteTwice : Request where
  action := .text "delete"
  type := .text "Note"
  targets := [⟨.int 1, []⟩, ⟨.text "1", []⟩]

/-- The fragment for an action on notes, as it is placed in a statement. -/
def fragment (action : Data) : Fragment :=
  { Fragment.ofText (.text "notes.id") (.text "1 = 1") action (.text "Note") with embedded := true }

/-- The batch that a request for notes is planned to be. -/
def batchOf (r : Request) (change : Change) : Batch where
  subject := editor
  action := r.action
  type := r.type
  mapping := mapping
  targets := r.targets
  change := change
  excluded := none
  fragment := fragment r.action
  config := {}

/-- The system when a request has been planned. -/
def planned (r : Request) : System :=
  { system with fragments := ⟨#[fragment r.action]⟩, watch := { calls := .int 1 } }

theorem lookup_note : system.globals.registry.lookup (.text "Note") = .ok mapping := by
  simp [Registry.lookup, Registry.get?, system, mapping, Data.requireKey]
  rfl

theorem valid_retitle : checkTargets (none.getD system.globals.config) retitle.targets = .ok () ∧
    checkColumns mapping retitle.targets retitle.constant = .ok () ∧ keysOf retitle.targets = ["title"] := by
  decide +kernel

theorem planUpdate_retitle : planUpdate evaluator none editor retitle system =
    (.ok (batchOf retitle (.update ["title"] [])), planned retitle) := by
  obtain ⟨htargets, hcolumns, hkeys⟩ := valid_retitle
  rw [planUpdate_of_valid lookup_note htargets hcolumns, hkeys]
  rfl

theorem planDelete_deleteTwice : planDelete evaluator none editor deleteTwice system =
    (.ok (batchOf deleteTwice .delete), planned deleteTwice) := by
  have htargets : checkTargets (none.getD system.globals.config) deleteTwice.targets = .ok () := by decide +kernel
  rw [planDelete_of_valid lookup_note htargets]
  rfl

theorem distinct_notes (r : Request) (change : Change) : (batchOf r change).Distinct table.rows := by
  show (batchOf retitle .delete).Distinct table.rows
  unfold Distinct
  decide +kernel

theorem stores_notes : ∀ row ∈ table.rows, notes.Stores row := by
  have hrows : ∀ row ∈ table.rows, row.length = notes.columns.length ∧ notes.stored row = row := by
    decide +kernel
  exact fun row hrow => ⟨(hrows row hrow).1, (hrows row hrow).2⟩

theorem isPlain_retitle : ∀ target ∈ retitle.targets, target.identity.IsPlain := by
  simp [retitle, Data.IsPlain, Data.int]

theorem isPlain_deleteTwice : ∀ target ∈ deleteTwice.targets, target.identity.IsPlain := by
  simp [deleteTwice, Data.IsPlain, Data.int, Data.text]

/-- New titles violate no constraint: the notes keep their numbers. -/
theorem admissible_retitle : (batchOf retitle (.update ["title"] [])).Admissible (planned retitle).disk := by
  have hkeys : ∀ row ∈ table.rows, (batchOf retitle (.update ["title"] [])).reaches (planned retitle).disk row = true →
      notes.keyOf (notes.stored ((batchOf retitle (.update ["title"] [])).updatedByChoice row)) = notes.keyOf row := by
    decide +kernel
  rw [admissible_iff]
  unfold apply
  rw [show (batchOf retitle (.update ["title"] [])).change = .update ["title"] [] from rfl]
  dsimp only
  rw [Database.update_of_keys (t := table) rfl (by decide +kernel) hkeys]
  decide +kernel

theorem succeeds_retitle :
    (batchOf retitle (.update ["title"] [])).Runs true (planned retitle).others (planned retitle).disk ∧
      (batchOf retitle (.update ["title"] [])).AllPermitted (planned retitle).disk table.rows := by
  constructor
  · exact ⟨rfl, rfl, ⟨by decide +kernel, by decide +kernel, by decide +kernel⟩, admissible_retitle⟩
  · exact (length_reached_iff isPlain_retitle (distinct_notes _ _)).mp (by decide +kernel)

theorem fails_deleteTwice :
    (batchOf deleteTwice .delete).Runs true (planned deleteTwice).others (planned deleteTwice).disk ∧
      ¬ (batchOf deleteTwice .delete).AllPermitted (planned deleteTwice).disk table.rows := by
  constructor
  · exact ⟨rfl, rfl, ⟨by decide +kernel, by decide +kernel, by decide +kernel⟩, by decide +kernel⟩
  · exact (length_reached_iff isPlain_deleteTwice (distinct_notes _ _)).not.mp (by decide +kernel)

/-- Both notes get their new titles. -/
theorem all_or_nothing_retitle :
    ∃ sys', (planUpdate evaluator none editor retitle >>= execute (.engine true)) system =
        (.ok 2, sys') ∧
      (batchOf retitle (.update ["title"] [])).Changes [] table system.disk sys'.disk := by
  have hdistinct := distinct_notes retitle (.update ["title"] [])
  obtain ⟨_, _, outcome, sys', hrun, hsucceeds, hchanges, _⟩ :=
    all_or_nothing true (.inl rfl) planUpdate_retitle isPlain_retitle (by rfl) rfl stores_notes hdistinct
  obtain ⟨n, rfl⟩ := (hsucceeds (inTurn_of_update (by simp [batchOf]))).mpr
    ⟨succeeds_retitle.1, succeeds_retitle.2, rfl⟩
  obtain ⟨_, _, rfl, hmade⟩ := hchanges n rfl
  exact ⟨sys', hrun, hmade⟩

/-- Every target of the deletion names a note that may be deleted, and the statement runs, yet the batch
is denied: there are two targets, and one row. -/
theorem deleteTwice_is_denied :
    planDelete evaluator none editor deleteTwice system =
        (.ok (batchOf deleteTwice .delete), planned deleteTwice) ∧
      (planned deleteTwice).disk.table? mapping.table.name = some table ∧
      (batchOf deleteTwice .delete).Distinct table.rows ∧
      (batchOf deleteTwice .delete).Runs true (planned deleteTwice).others (planned deleteTwice).disk ∧
      (∀ target ∈ (batchOf deleteTwice .delete).targets, ∃ row ∈ table.rows,
        (batchOf deleteTwice .delete).Names target row ∧
          (batchOf deleteTwice .delete).Permits (planned deleteTwice).disk row) ∧
      ((planDelete evaluator none editor deleteTwice >>= execute (.engine true)) system).1 =
        .error (.denied (Denial.ofBatch editor (.text "delete") (.text "Note"))) := by
  have htable : (planned deleteTwice).disk.table? mapping.table.name = some table := by rfl
  have hdistinct := distinct_notes deleteTwice .delete
  obtain ⟨hruns, hnot⟩ := fails_deleteTwice
  refine ⟨planDelete_deleteTwice, htable, hdistinct, hruns, ?_, ?_⟩
  · intro target htarget
    refine ⟨[.int 1, .text "one"], by decide +kernel, ?_, ?_, by decide +kernel⟩
    · have hnamed : ∀ target ∈ deleteTwice.targets, (batchOf deleteTwice .delete).isNamed
          [.int 1, .text "one"] (ownLiteral target.identity) = true := by
        decide +kernel
      exact hnamed target htarget
    · rintro self ⟨⟩
  · obtain ⟨sys', hexecute, _⟩ := execute_engine_apply (batchOf deleteTwice .delete) (planned deleteTwice)
    rw [Sys.bind_of_ok planDelete_deleteTwice, hexecute]
    cases houtcome : ((batchOf deleteTwice .delete).outcome (planned deleteTwice).others
        (planned deleteTwice).disk).1 with
    | ok n =>
      obtain ⟨_, hall, _⟩ := outcome_of_ok htable isPlain_deleteTwice hdistinct houtcome
      exact absurd hall.permitted hnot
    | error f =>
      obtain ⟨_, hdenied, _⟩ := outcome_of_error htable isPlain_deleteTwice hdistinct houtcome
      rw [hdenied ⟨hruns, fun hall => hnot hall.permitted⟩]
      rfl

end RowGuard.Notes
