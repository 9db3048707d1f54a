import RowGuard.Proofs.Session.Outermost

/-!
# What a scope's commits store

A scope on a connection of its own answers calls that begin, commit and roll back transactions and run
statements. A ledger of what the calls have answered says what is stored when the scope is left: the statements
that have given an answer between a beginning and the commit that ends it, in order (`Scope.durable`). That is
so as long as no statement goes astray: one that reaches the database outside a transaction of the scope begins
another one, in which all that the scope begins from then on is a savepoint, and nothing more is stored
(`Scope.stored_of_block`).
-/

namespace RowGuard

namespace Link

/-- A connection on which a commit has failed answers no statement, and stays as it is. -/
theorem execute_of_failed {α : Type} {l : Link} (h : l.stage = .failed) (disk : Database)
    (others : List Link) (st : Statement α) :
    ∃ f l', l.execute disk others st = (.error f, l') ∧ l'.stage = .failed := by
  have htouched : l.touch.2.stage = .failed := by
    unfold touch
    cases l.health with
    | lost => dsimp only; split <;> exact h
    | _ => exact h
  unfold execute
  obtain ⟨touched, l', htouch⟩ : ∃ outcome l', l.touch = (outcome, l') := ⟨_, _, rfl⟩
  rw [htouch] at htouched ⊢
  cases touched with
  | error e => exact ⟨_, _, rfl, htouched⟩
  | ok _ =>
    cases st.refused with
    | some e => exact ⟨_, _, rfl, htouched⟩
    | none =>
      dsimp only at htouched ⊢
      rw [htouched]
      exact ⟨_, _, rfl, htouched⟩

end Link

namespace Scope

variable {α β : Type}

/-! ## Calls -/

/-- A call on a scope. -/
inductive Call (β : Type) where
  | begin
  | execute (st : Link.Statement β)
  | commit
  | rollback

/-- Carries out a call. -/
def Call.run : Call β → Sys Unit
  | begin => Scope.begin
  | execute st => do let _ ← Scope.execute st
  | commit => Scope.commit
  | rollback => Scope.rollback

/-- Calls one after the other, each of which may fail, and then an end with a value or a fault. -/
def block (calls : List (Call β)) (ending : Except Fault α) : Sys α :=
  match calls with
  | [] => Sys.ofExcept ending
  | c :: rest => do
    let _ ← Sys.attempt c.run
    block rest ending

/-- Calls with what each of them has answered. -/
def trace : List (Call β) → System → List (Call β × Except Fault Unit)
  | [], _ => []
  | c :: rest, sys => (c, (c.run sys).1) :: trace rest (c.run sys).2

/-! ## The ledger -/

/-- What is stored, and what the transaction that was begun, if there is one, has made of it. -/
structure Ledger where
  stored : Database
  pending : Option Database := none

namespace Ledger

/-- The ledger after a call has answered. -/
def record (ledger : Ledger) : Call β × Except Fault Unit → Ledger
  | (.begin, .ok _) => { ledger with pending := some ledger.stored }
  | (.execute st, .ok _) =>
    { ledger with pending := ledger.pending.map fun db => ((st.run db).toOption.map (·.2)).getD db }
  | (.commit, .ok _) => { stored := ledger.pending.getD ledger.stored }
  | (.commit, .error _) => { ledger with pending := none }
  | (.rollback, _) => { ledger with pending := none }
  | (_, .error _) => ledger

/-- The call is a statement that reaches the database when no transaction was begun. -/
def isStray (ledger : Ledger) : Call β → Bool
  | .execute st => ledger.pending.isNone && st.refused.isNone
  | _ => false

end Ledger

/-- What has been stored after calls that have answered this. -/
def durable (db : Database) (events : List (Call β × Except Fault Unit)) : Database :=
  (events.foldl Ledger.record { stored := db }).stored

/-- The events before the first statement that goes astray. -/
def untilStray (ledger : Ledger) : List (Call β × Except Fault Unit) → List (Call β × Except Fault Unit)
  | [] => []
  | event :: rest =>
    if ledger.isStray event.1 then [] else event :: untilStray (ledger.record event) rest

/-! ## Phases -/

variable {operation : String} {ledger : Ledger} {sys : System} {c : Call β}

/-- How the system stands to the ledger, as long as no statement has gone astray. -/
inductive Phase (operation : String) (ledger : Ledger) (sys : System) : Prop
  | clear (hdisk : sys.disk = ledger.stored) (hnone : ledger.pending = none)
      (hscope : sys.scope = some { operation }) (hlink : sys.link = some {})
  | segment {l : Link} (hdisk : sys.disk = ledger.stored)
      (hpending : ledger.pending = some (l.view ledger.stored))
      (hscope : sys.scope = some { operation, handle := some .outermost }) (hlink : sys.link = some l)
      (hl : l.InProgress)
  | failed {l : Link} (hdisk : sys.disk = ledger.stored) (hnone : ledger.pending = none)
      (hscope : sys.scope = some { operation }) (hlink : sys.link = some l) (hl : l.stage = .failed)

/-- A fault changes nothing in the ledger when no transaction was begun. -/
theorem Ledger.record_error (hnone : ledger.pending = none) (c : Call β) (f : Fault) :
    ledger.record (c, .error f) = ledger := by
  obtain ⟨stored, pending⟩ := ledger
  obtain rfl : pending = none := hnone
  cases c <;> rfl

theorem Ledger.record_execute {st : Link.Statement β} {a : β} {db db' : Database}
    (hpending : ledger.pending = some db) (hrun : st.run db = .ok (a, db')) :
    ledger.record (.execute st, .ok ()) = { ledger with pending := some db' } := by
  unfold record
  simp [hpending, hrun, Except.toOption]

/-- When a commit has failed, every call fails and leaves it at that. -/
theorem run_of_failed {l : Link} (hscope : sys.scope = some { operation }) (hlink : sys.link = some l)
    (hl : l.stage = .failed) (c : Call β) :
    ∃ f sys' l', c.run sys = (.error f, sys') ∧ sys'.disk = sys.disk ∧
      sys'.scope = some { operation } ∧ sys'.link = some l' ∧ l'.stage = .failed := by
  cases c with
  | begin =>
    have hbegin : l.begin = (.error .unusable, l) := by
      unfold Link.begin
      rw [hl]
    obtain ⟨journal, hfailed⟩ := begin_of_error hscope hlink rfl hbegin
    exact ⟨_, _, l, hfailed, rfl, hscope, rfl, hl⟩
  | execute st =>
    obtain ⟨f, l', hexecute, hl'⟩ := Link.execute_of_failed hl sys.disk sys.lent st
    obtain ⟨journal, hfailed⟩ := execute_apply hlink hscope hexecute
    exact ⟨_, _, l', Sys.bind_of_error hfailed, rfl, hscope, rfl, hl'⟩
  | commit => exact ⟨_, sys, l, ending_of_none hscope rfl, rfl, hscope, hlink, hl⟩
  | rollback => exact ⟨_, sys, l, ending_of_none hscope rfl, rfl, hscope, hlink, hl⟩

/-- Calls on a scope without a transaction. -/
theorem phase_of_clear (hdisk : sys.disk = ledger.stored) (hnone : ledger.pending = none)
    (hscope : sys.scope = some { operation }) (hlink : sys.link = some {})
    (hstray : ledger.isStray c = false) :
    Phase operation (ledger.record (c, (c.run sys).1)) (c.run sys).2 := by
  cases c with
  | begin =>
    have hbegin : begin sys = _ := begin_of_ok hscope hlink rfl (rfl : _ = (_, Link.begun))
    simp only [Call.run, hbegin]
    exact .segment hdisk rfl rfl rfl Link.inProgress_begun
  | execute st =>
    cases hrefused : st.refused with
    | none => simp [Ledger.isStray, hnone, hrefused] at hstray
    | some e =>
      have hexecute : ({} : Link).execute sys.disk sys.lent st = (.error (.sql e), {}) := by
        unfold Link.execute
        rw [hrefused]
        rfl
      obtain ⟨journal, hfailed⟩ := execute_apply hlink hscope hexecute
      have hrun : (Call.execute st).run sys = _ := Sys.bind_of_error hfailed
      rw [hrun, Ledger.record_error hnone]
      exact .clear hdisk hnone hscope rfl
  | commit =>
    have hrun : (Call.commit : Call β).run sys = _ := ending_of_none hscope rfl
    rw [hrun, Ledger.record_error hnone]
    exact .clear hdisk hnone hscope hlink
  | rollback =>
    have hrun : (Call.rollback : Call β).run sys = _ := ending_of_none hscope rfl
    rw [hrun, Ledger.record_error hnone]
    exact .clear hdisk hnone hscope hlink

/-- Calls on a scope whose transaction is in progress. -/
theorem phase_of_segment {l : Link} (hdisk : sys.disk = ledger.stored)
    (hpending : ledger.pending = some (l.view ledger.stored))
    (hscope : sys.scope = some { operation, handle := some .outermost }) (hlink : sys.link = some l)
    (hl : l.InProgress) (c : Call β) :
    Phase operation (ledger.record (c, (c.run sys).1)) (c.run sys).2 := by
  cases c with
  | begin =>
    have hrun : (Call.begin : Call β).run sys = _ :=
      begin_of_alive hscope hlink (Link.isAlive_outermost hl.inTransaction_eq)
    rw [hrun]
    exact .segment hdisk hpending hscope hlink hl
  | execute st =>
    obtain ⟨hgoes, hview⟩ := hl.execute ledger.stored sys.lent st
    obtain ⟨own, l', hexecute⟩ : ∃ own l', l.execute ledger.stored sys.lent st = (own, l') := ⟨_, _, rfl⟩
    rw [hexecute] at hgoes hview
    rw [← hdisk] at hexecute
    obtain ⟨journal, hstatement⟩ := execute_apply hlink hscope hexecute
    cases own with
    | error f =>
      have hrun : (Call.execute st).run sys = _ := Sys.bind_of_error hstatement
      rw [hrun]
      refine .segment hdisk ?_ hscope rfl hgoes
      exact hpending.trans (congrArg some hview.symm)
    | ok a =>
      have hrun : (Call.execute st).run sys = (.ok (), { sys with link := some l', journal }) :=
        Sys.bind_of_ok hstatement
      rw [hrun, Ledger.record_execute hpending hview]
      exact .segment hdisk rfl hscope rfl hgoes
  | commit =>
    obtain ⟨l', journal, hcommit, hl'⟩ := commit_outermost_apply hscope hlink hl.inTransaction_eq
    have hrun : (Call.commit : Call β).run sys = _ := hcommit
    rw [hrun]
    cases hcan : sys.canCommit with
    | true =>
      rw [hcan] at hl'
      obtain rfl : l' = {} := hl'
      refine .clear ?_ rfl rfl rfl
      simp only [if_true, Ledger.record, hpending, Option.getD_some, System.seen_of_some hlink, hdisk]
    | false =>
      rw [hcan] at hl'
      exact .failed hdisk rfl rfl rfl hl'
  | rollback =>
    obtain ⟨journal, hrollback⟩ := rollback_outermost_apply hscope hlink hl
    have hrun : (Call.rollback : Call β).run sys = _ := hrollback
    rw [hrun]
    exact .clear hdisk rfl rfl rfl

/-- One call: unless it is a statement that goes astray, the ledger is right again. -/
theorem phase_of_run (h : Phase operation ledger sys) (hstray : ledger.isStray c = false) :
    Phase operation (ledger.record (c, (c.run sys).1)) (c.run sys).2 := by
  cases h with
  | clear hdisk hnone hscope hlink => exact phase_of_clear hdisk hnone hscope hlink hstray
  | segment hdisk hpending hscope hlink hl => exact phase_of_segment hdisk hpending hscope hlink hl c
  | failed hdisk hnone hscope hlink hl =>
    obtain ⟨f, sys', l', hrun, hdisk', hscope', hlink', hl'⟩ := run_of_failed hscope hlink hl c
    rw [hrun, Ledger.record_error hnone]
    exact .failed (hdisk'.trans hdisk) hnone hscope' hlink' hl'

/-! ## Astray -/

/-- The system after a statement has gone astray: no call stores anything any more. -/
inductive Lost (stored : Database) (sys : System) : Prop
  | nested {lent : List Link} (h : System.Nested stored lent sys)
  | failed {operation : String} {l : Link} (hdisk : sys.disk = stored)
      (hscope : sys.scope = some { operation }) (hlink : sys.link = some l) (hl : l.stage = .failed)

theorem keeps_run {disk : Database} {lent : List Link} (c : Call β) :
    Sys.Keeps (System.Nested disk lent) c.run := by
  cases c with
  | begin => exact keeps_begin
  | execute st => exact (keeps_execute st).bind fun _ => Sys.Keeps.pure ()
  | commit => exact keeps_commit
  | rollback => exact keeps_rollback

theorem Lost.disk_eq {stored : Database} (h : Lost stored sys) : sys.disk = stored := by
  cases h with
  | nested h => exact h.disk
  | failed hdisk => exact hdisk

theorem Lost.run {stored : Database} (h : Lost stored sys) (c : Call β) : Lost stored (c.run sys).2 := by
  cases h with
  | nested h => exact .nested (keeps_run c sys h)
  | failed hdisk hscope hlink hl =>
    obtain ⟨f, sys', l', hrun, hdisk', hscope', hlink', hl'⟩ := run_of_failed hscope hlink hl c
    rw [hrun]
    exact .failed (hdisk'.trans hdisk) hscope' hlink' hl'

theorem Lost.block {stored : Database} (h : Lost stored sys) (calls : List (Call β))
    (ending : Except Fault α) : (block calls ending sys).2.disk = stored := by
  induction calls generalizing sys with
  | nil =>
    show (Sys.ofExcept ending sys).2.disk = stored
    rw [Sys.ofExcept_apply]
    exact h.disk_eq
  | cons c rest ih => exact ih (h.run c)

/-- A statement that goes astray begins a transaction that is not the scope's. -/
theorem lost_of_stray (h : Phase operation ledger sys) (hstray : ledger.isStray c = true) :
    Lost ledger.stored (c.run sys).2 := by
  cases c with
  | execute st =>
    obtain ⟨hnone, hrefused⟩ : ledger.pending = none ∧ st.refused = none := by
      simpa [Ledger.isStray] using hstray
    cases h with
    | clear hdisk _ hscope hlink =>
      have hopen : (({} : Link).execute sys.disk sys.lent st).2.inTransaction = true :=
        Link.inTransaction_execute rfl hrefused rfl
      obtain ⟨journal, hstatement⟩ := execute_apply hlink hscope (rfl : ({} : Link).execute _ _ st = _)
      have hafter : ((Call.execute st).run sys).2 = (execute st sys).2 := Sys.bind_pure_snd _ _ sys
      rw [hafter, hstatement]
      exact .nested ⟨hdisk, rfl, ⟨_, hscope, by simp⟩, _, rfl, hopen⟩
    | segment _ hpending => simp [hpending] at hnone
    | failed hdisk _ hscope hlink hl =>
      obtain ⟨f, sys', l', hrun, hdisk', hscope', hlink', hl'⟩ :=
        run_of_failed hscope hlink hl (.execute st)
      rw [hrun]
      exact .failed (hdisk'.trans hdisk) hscope' hlink' hl'
  | _ => simp [Ledger.isStray] at hstray

/-! ## What is stored -/

/-- What a block has stored is what the ledger says, up to the first statement that goes astray. -/
theorem disk_of_block (h : Phase operation ledger sys) (calls : List (Call β)) (ending : Except Fault α) :
    (block calls ending sys).2.disk =
      ((untilStray ledger (trace calls sys)).foldl Ledger.record ledger).stored := by
  induction calls generalizing ledger sys with
  | nil =>
    show (Sys.ofExcept ending sys).2.disk = ledger.stored
    rw [Sys.ofExcept_apply]
    cases h with
    | clear hdisk => exact hdisk
    | segment hdisk => exact hdisk
    | failed hdisk => exact hdisk
  | cons c rest ih =>
    show (block rest ending (c.run sys).2).2.disk = _
    unfold trace untilStray
    cases hstray : ledger.isStray c with
    | true =>
      rw [if_pos rfl]
      exact (lost_of_stray h hstray).block rest ending
    | false =>
      rw [if_neg Bool.false_ne_true, List.foldl_cons]
      exact ih (phase_of_run h hstray)

theorem storesNothing_rollbackOpen : Sys.StoresNothing rollbackOpen := by
  refine (Sys.StoresNothing.get.bind fun sys => .pure _).bind ?_
  intro isOpen
  cases isOpen with
  | false => exact .pure ()
  | true =>
    have hcurrent : Sys.StoresNothing current := by
      refine Sys.StoresNothing.get.bind ?_
      intro sys
      cases sys.scope with
      | none => exact .throw _
      | some scope => exact .pure scope
    have hhandle : Sys.StoresNothing requireHandle := by
      refine hcurrent.bind ?_
      intro scope
      cases scope.handle with
      | none => exact .throw _
      | some h => exact .pure h
    refine hhandle.bind ?_
    intro h
    exact Sys.StoresNothing.bind (fun _ => rfl) fun _ => .rollbackHere h

/-- Whatever is left open when a scope is left is rolled back, and not stored. -/
theorem storesNothing_closing : Sys.StoresNothing closing := by
  refine storesNothing_rollbackOpen.attempt.bind ?_
  intro cleaned
  have hall : Sys.StoresNothing rollbackAll := by
    refine Sys.StoresNothing.currentLink.bind ?_
    intro l
    cases l.inTransaction with
    | false => exact .pure ()
    | true => exact .rollbackHere .outermost
  exact hall.bind fun _ => .ofExcept cleaned

theorem within_engine_disk (operation : String) (body : Sys α) (sys : System) :
    (within (.engine true) operation body sys).2.disk =
      (body (opened sys {} sys.others operation)).2.disk := by
  obtain ⟨outcome, sys₁, hbody⟩ : ∃ outcome sys₁,
      body (opened sys {} sys.others operation) = (outcome, sys₁) := ⟨_, _, rfl⟩
  obtain ⟨journal, hleft⟩ := leave_snd operation closing outcome sys₁
  have hclosed := storesNothing_closing sys₁
  rw [hbody]
  unfold opened System.others at hbody
  show (Sys.onLink {} (held operation closing body) sys).2.disk = _
  rw [Sys.onLink_apply, held_apply, hbody, hleft]
  exact hclosed

/-- When a scope on a connection of its own is left, the database has the effects of exactly those statements
that have given an answer between a beginning and the commit that has ended it, in order, up to the first
statement that has gone astray. -/
theorem stored_of_block (operation : String) (calls : List (Call β)) (ending : Except Fault α)
    (sys : System) :
    (within (.engine true) operation (block calls ending) sys).2.disk =
      durable sys.disk (untilStray { stored := sys.disk }
        (trace calls (opened sys {} sys.others operation))) := by
  rw [within_engine_disk]
  exact disk_of_block (.clear rfl rfl rfl rfl) calls ending

end Scope

end RowGuard

/-! ## Tags -/

namespace RowGuard.Tags

open Scope

def tags : Schema := ⟨"tags", [{ name := "name", type := .text, isKey := true }]⟩

def tagged (names : List String) : Database := ⟨[⟨tags, names.map fun name => [.text name]⟩]⟩

def system : System := { disk := tagged [] }

/-- Adds a tag. -/
def tag (name : String) : Call Unit := .execute (.insert tags [("name", .text name)])

/-- A tag is added before a transaction is begun and another one inside it. Every call gives an answer, the
commit too, so that the second tag should be stored; but it is not. -/
theorem committed_tag_is_lost :
    (trace [tag "red", .begin, tag "blue", .commit] (opened system {} system.others "query")).map
        (·.2.isOk) = [true, true, true, true] ∧
      durable system.disk
        (trace [tag "red", .begin, tag "blue", .commit] (opened system {} system.others "query")) =
          tagged ["blue"] ∧
      (within (.engine true) "query" (block [tag "red", .begin, tag "blue", .commit] (.ok ()))
        system).2.disk = tagged [] := by
  decide +kernel

end RowGuard.Tags
