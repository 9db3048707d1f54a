import RowGuard.Proofs.Guarded.Basic
import RowGuard.Proofs.Outcome

/-!
# Calls on one lent connection

A call that writes on a connection at rest works in a transaction of its own: what it has made is stored when it
gives an answer, and the connection is idle again. A listing begins no transaction, but its statement does, and
nobody ends that one. From then on every call on the connection works in a savepoint, and nothing that it
makes is stored (`Guarded.stored_on_lent_link`).
-/

namespace RowGuard

open Sys Scope

namespace Link

variable {α : Type} {l : Link} {disk : Database} {others : List Link} {st : Statement α}

/-- A statement that has given an answer is in a transaction afterwards. -/
theorem inTransaction_of_execute {a : α} (h : (l.execute disk others st).1 = .ok a) :
    (l.execute disk others st).2.inTransaction = true := by
  obtain ⟨touched, l', htouch⟩ : ∃ outcome l', l.touch = (outcome, l') := ⟨_, _, rfl⟩
  cases touched with
  | error e => simp [execute, htouch] at h
  | ok _ =>
    cases hrefused : st.refused with
    | some e => simp [execute, htouch, hrefused] at h
    | none =>
      cases hstage : l'.stage with
      | running => exact inTransaction_execute htouch hrefused hstage
      | failed => simp [execute, htouch, hrefused, hstage] at h
      | abandoned => simp [execute, htouch, hrefused, hstage] at h

/-- A statement that only reads, on a connection that has not been used. -/
theorem execute_new {a : α} {db : Database} (hrefused : st.refused = none) (hwrites : st.writes = false)
    (hdefers : st.defers = false) (hrun : st.run disk = .ok (a, db)) :
    ({} : Link).execute disk others st = (.ok a, { transaction := some { view := some db } }) := by
  unfold execute
  rw [usable_new.touch_eq, hrefused]
  simp [hwrites, hdefers, hrun]

end Link

/-- How an operation that writes has left a lent connection and the stored database: if it has given an answer,
the connection is idle and what it has made is stored. -/
structure System.Wrote {α : Type} (makes : Database → Prop) (before : System) (outcome : Except Fault α)
    (after : System) : Prop where
  link : ∃ l, after.link = some l ∧ l.Resting ∧ ∀ a, outcome = .ok a → l.Idle
  made : ∀ a, outcome = .ok a → makes after.disk
  kept : ∀ f, outcome = .error f → after.disk = before.disk

theorem System.Wrote.map {α β : Type} {makes : Database → Prop} {before after : System}
    {outcome : Except Fault α} {f : α → β} (h : System.Wrote makes before outcome after) :
    System.Wrote makes before (outcome.map f) after := by
  obtain ⟨⟨l, hlink, hl, hidle⟩, hmade, hkept⟩ := h
  cases outcome with
  | error e => exact ⟨⟨l, hlink, hl, by simp [Except.map]⟩, by simp [Except.map], fun _ _ => hkept e rfl⟩
  | ok a => exact ⟨⟨l, hlink, hl, fun _ _ => hidle a rfl⟩, fun _ _ => hmade a rfl, by simp [Except.map]⟩

namespace Scope

variable {α : Type} {operation : String} {sys : System} {l : Link} {body : Sys α}

/-- An operation in a transaction of its own, on a connection at rest. -/
theorem wrote_of_ends (makes : Database → Prop) {own : Except Fault α} {stored : Database}
    (hlink : sys.link = some l) (hl : l.Resting) (hends : Ends operation sys body own stored)
    (hmakes : ∀ a, own = .ok a → makes stored) (hkept : ∀ f, own = .error f → stored = sys.disk) :
    ∃ outcome sys', within .connection operation (do begin; body) sys = (outcome, sys') ∧
      System.Wrote makes sys outcome sys' := by
  obtain ⟨sys', l', hlink', _, _, hl', ⟨hwithin, rfl, hidle⟩ | ⟨hwithin, hdisk⟩⟩ :=
    within_connection_of_ends hlink hl hends
  · refine ⟨_, sys', hwithin, ?_⟩
    cases own with
    | ok a => exact ⟨⟨l', hlink', hl', fun _ _ => hidle a rfl⟩, fun _ _ => hmakes a rfl, by simp [report]⟩
    | error f => exact ⟨⟨l', hlink', hl', by simp [report]⟩, by simp [report], fun _ _ => hkept f rfl⟩
  · exact ⟨_, sys', hwithin, ⟨l', hlink', hl', by simp⟩, by simp, fun _ _ => hdisk⟩

/-- A statement in a scope that begins nothing leaves the connection as the statement does, and a failure is
logged. -/
theorem within_execute_apply {st : Link.Statement α} {own : Except Fault α} {l' : Link}
    (hlink : sys.link = some l) (hexecute : l.execute sys.disk sys.lent st = (own, l'))
    (operation : String) :
    ∃ journal, within .connection operation (execute st) sys =
        (report operation own, { sys with link := some l', journal }) ∧
      ∀ a, own = .ok a → journal = sys.journal := by
  have hopened : ({ sys with scope := some { operation } } : System).link = some l := hlink
  have hnothing : ∀ journal, rollbackOpen
      { sys with link := some l', scope := some { operation }, journal } =
        (.ok (), { sys with link := some l', scope := some { operation }, journal }) :=
    fun journal => rollbackOpen_of_ended rfl rfl rfl
  cases own with
  | ok a =>
    have hstatement : execute st { sys with scope := some { operation } } =
        (.ok a, { sys with link := some l', scope := some { operation } }) := by
      refine execute_of_ok ⟨_, rfl⟩ ?_
      rw [execute_of_some hopened, hexecute]
    refine ⟨sys.journal, ?_, fun _ _ => rfl⟩
    show held operation rollbackOpen (execute st) sys = _
    rw [held_apply, hstatement]
    unfold leave
    rw [attempt_bind_apply, hnothing]
    rfl
  | error f =>
    obtain ⟨journal, hstatement⟩ := execute_apply hopened rfl hexecute
    obtain ⟨journal', hleave⟩ := leave_apply (hnothing journal) operation (report operation (.error f))
    refine ⟨journal', ?_, by simp⟩
    show held operation rollbackOpen (execute st) sys = _
    rw [held_apply, hstatement, hleave, report_report]

end Scope

namespace Guarded

variable {g : Guarded} {sys : System} {l : Link}

/-- What a call that gives an answer makes of the stored database. -/
def Makes (g : Guarded) (sys : System) (stored : Database) : Prop :=
  match g.task with
  | .list _ => stored = sys.disk
  | .mutate r mutation => ∃ d, Mutation.Course g.evaluator g.subject r mutation sys (.ok d) stored
  | .batch deletes r => ∃ b, (g.planBatch deletes r sys).1 = .ok b ∧
      b.statement.run sys.disk = .ok (b.targets.length, stored)

theorem wrote_mutate {e : Evaluator} {s : Subject} {r : Mutation.Request} {mutation : Sys Data}
    (he : e.OnlyAnswers) (hmutation : StaysInside mutation) (given : Option Config)
    (hlink : sys.link = some l) (hl : l.Resting) :
    ∃ outcome sys', Mutation.guarded e .connection given s r mutation sys = (outcome, sys') ∧
      System.Wrote (fun stored => ∃ d, Mutation.Course e s r mutation sys (.ok d) stored) sys outcome sys' := by
  obtain ⟨own, stored, hcourse, hends⟩ := Mutation.exists_course (he.check s r.action r.resource) hmutation sys
  obtain ⟨outcome, sys', hwithin, hwrote⟩ := wrote_of_ends
    (fun stored => ∃ d, Mutation.Course e s r mutation sys (.ok d) stored) hlink hl hends
    (fun d hd => ⟨d, hd ▸ hcourse⟩) (fun f hf => hcourse.stored_eq hf)
  obtain ⟨journal, hguarded⟩ := Mutation.guarded_of_within hwithin given
  exact ⟨outcome, _, hguarded, hwrote.link, hwrote.made, hwrote.kept⟩

theorem wrote_batch (b : Batch) (hlink : sys.link = some l) (hl : l.Resting) :
    ∃ outcome sys', Batch.execute .connection b sys = (outcome, sys') ∧
      System.Wrote (fun stored => b.statement.run sys.disk = .ok (b.targets.length, stored))
        sys outcome sys' := by
  have hmade : ∀ n, (b.outcome sys.lent sys.disk).1 = .ok n →
      b.statement.run sys.disk = .ok (b.targets.length, (b.outcome sys.lent sys.disk).2) := by
    intro n hn
    obtain ⟨htried, rfl, _⟩ := Batch.tried_of_outcome_ok hn
    exact (Link.Statement.tried_eq_ok_iff.mp htried).2.2.1
  obtain ⟨outcome, sys', hwithin, hwrote⟩ := wrote_of_ends
    (fun stored => b.statement.run sys.disk = .ok (b.targets.length, stored)) hlink hl
    (Batch.ends_outcome b sys) hmade fun f hf => Batch.stored_of_outcome_error hf
  obtain ⟨journal, hexecute⟩ := Batch.execute_of_within hwithin
  exact ⟨outcome, _, hexecute, hwrote.link, hwrote.made, hwrote.kept⟩

/-- A call that writes, on a connection at rest. -/
theorem wrote_run (hg : g.Honest) (hwrites : g.isListing = false) (hlink : sys.link = some l)
    (hl : l.Resting) : System.Wrote (g.Makes sys) sys (g.run .connection sys).1 (g.run .connection sys).2 := by
  obtain ⟨e, s, task, config⟩ := g
  have he : e.OnlyAnswers := hg.evaluator
  cases task with
  | list r => simp [isListing] at hwrites
  | mutate r mutation =>
    obtain ⟨outcome, sys', hguarded, hwrote⟩ :=
      wrote_mutate (s := s) (r := r) he (hg.mutation r mutation rfl) config hlink hl
    have hrun : run ⟨e, s, .mutate r mutation, config⟩ .connection sys = (outcome.map .value, sys') := by
      cases outcome with
      | error f => exact bind_of_error hguarded
      | ok d => exact bind_of_ok hguarded
    rw [hrun]
    exact hwrote.map
  | batch deletes r =>
    have hkept := (aside_planBatch (g := ⟨e, s, .batch deletes r, config⟩) he deletes r).kept sys
    obtain ⟨planned, sys₁, hplan⟩ : ∃ planned sys₁,
        planBatch ⟨e, s, .batch deletes r, config⟩ deletes r sys = (planned, sys₁) := ⟨_, _, rfl⟩
    rw [hplan] at hkept
    have hlink₁ : sys₁.link = some l := hkept.link.trans hlink
    cases planned with
    | error f =>
      have hrun : run ⟨e, s, .batch deletes r, config⟩ .connection sys = (.error f, sys₁) :=
        bind_of_error hplan
      rw [hrun]
      exact ⟨⟨l, hlink₁, hl, by simp⟩, by simp, fun _ _ => hkept.disk⟩
    | ok b =>
      obtain ⟨outcome, sys', hexecute, hwrote⟩ := wrote_batch b hlink₁ hl
      have hrun : run ⟨e, s, .batch deletes r, config⟩ .connection sys = (outcome.map .count, sys') := by
        refine (bind_of_ok hplan).trans ?_
        cases outcome with
        | error f => exact bind_of_error hexecute
        | ok n => exact bind_of_ok hexecute
      rw [hrun]
      refine System.Wrote.map ⟨hwrote.link, ?_, ?_⟩
      · intro n hn
        refine ⟨b, congrArg Prod.fst hplan, ?_⟩
        rw [← hkept.disk]
        exact hwrote.made n hn
      · exact fun f hf => (hwrote.kept f hf).trans hkept.disk

/-- Running a planned listing stores nothing. If it gives rows, it leaves a transaction open. -/
theorem listed_execute (p : Listing.Plan) (hlink : sys.link = some l) :
    ∃ outcome sys' l', Listing.execute .connection p sys = (outcome, sys') ∧ sys'.disk = sys.disk ∧
      sys'.link = some l' ∧ ∀ listing, outcome = .ok listing → l'.inTransaction = true := by
  obtain ⟨own, l', hexecute⟩ : ∃ own l', l.execute sys.disk sys.lent p.statement = (own, l') := ⟨_, _, rfl⟩
  have hopen : ∀ rows, own = .ok rows → l'.inTransaction = true := by
    rintro rows rfl
    have hopen := Link.inTransaction_of_execute (congrArg Prod.fst hexecute)
    rwa [hexecute] at hopen
  obtain ⟨journal, hwithin, _⟩ := within_execute_apply hlink hexecute (Listing.operation p.mapping.type)
  cases own with
  | error f => exact ⟨_, _, l', bind_of_error hwithin, rfl, rfl, by simp⟩
  | ok rows =>
    have hrun : Listing.execute .connection p sys =
        (p.listing rows, { sys with link := some l', journal }) := by
      refine (bind_of_ok hwithin).trans ?_
      exact ofExcept_apply _
    exact ⟨_, _, l', hrun, rfl, rfl, fun _ _ => hopen rows rfl⟩

/-- A listing stores nothing. One that has given an answer leaves a transaction open on the connection. -/
theorem listed_run (hg : g.Honest) (hlists : g.isListing = true) (hlink : sys.link = some l) :
    (g.run .connection sys).2.disk = sys.disk ∧ ∃ l', (g.run .connection sys).2.link = some l' ∧
      ∀ a, (g.run .connection sys).1 = .ok a → l'.inTransaction = true := by
  obtain ⟨e, s, task, config⟩ := g
  cases task with
  | mutate r mutation => simp [isListing] at hlists
  | batch deletes r => simp [isListing] at hlists
  | list r =>
    have hkept := (Listing.aside_plan hg.evaluator s r).kept sys
    obtain ⟨planned, sys₁, hplan⟩ : ∃ planned sys₁, Listing.plan e s r sys = (planned, sys₁) := ⟨_, _, rfl⟩
    have hrun : run ⟨e, s, .list r, config⟩ .connection sys = (do
        let p ← Listing.plan e s r
        let listing ← Listing.execute .connection p
        Listing.logListed (some (config.getD sys.globals.config)) s r listing
        return .rows listing : Sys Answer) sys := by
      simp only [run, Listing.list, bind_assoc, pure_bind]
      exact bind_of_ok (configOr_apply config)
    rw [hplan] at hkept
    cases planned with
    | error f =>
      rw [hrun, bind_of_error hplan]
      exact ⟨hkept.disk, l, hkept.link.trans hlink, by simp⟩
    | ok p =>
      obtain ⟨outcome, sys₂, l₂, hexecute, hdisk, hlink₂, hopen⟩ :=
        listed_execute p (hkept.link.trans hlink)
      rw [hrun, bind_of_ok hplan]
      cases outcome with
      | error f =>
        rw [bind_of_error hexecute]
        exact ⟨hdisk.trans hkept.disk, l₂, hlink₂, by simp⟩
      | ok listing =>
        rw [bind_of_ok hexecute]
        have hlast := ((Listing.aside_logListed (some (config.getD sys.globals.config)) s r listing).bind
          fun _ => Aside.pure (Answer.rows listing)).kept sys₂
        exact ⟨hlast.disk.trans (hdisk.trans hkept.disk), l₂, hlast.link.trans hlink₂,
          fun _ _ => hopen listing rfl⟩

/-- Carries out calls on a lent connection, one after the other. -/
def runAll (calls : List Guarded) (sys : System) : System :=
  calls.foldl (fun sys g => (g.run .connection sys).2) sys

/-- As long as nothing is listed, the connection is at rest after each call. -/
theorem resting_runAll {calls : List Guarded} (hcalls : ∀ g ∈ calls, g.Honest ∧ g.isListing = false)
    (hlink : sys.link = some l) (hl : l.Resting) :
    ∃ l', (runAll calls sys).link = some l' ∧ l'.Resting := by
  induction calls generalizing sys l with
  | nil => exact ⟨l, hlink, hl⟩
  | cons g rest ih =>
    obtain ⟨hg, hwrites⟩ := hcalls g List.mem_cons_self
    obtain ⟨l₁, hlink₁, hl₁, _⟩ := (wrote_run hg hwrites hlink hl).link
    exact ih (fun g' hg' => hcalls g' (List.mem_cons_of_mem _ hg')) hlink₁ hl₁

/-- In a transaction that is in progress, all calls stay. -/
theorem amid_runAll {calls : List Guarded} (hcalls : ∀ g ∈ calls, g.Honest) {disk : Database}
    {lent : List Link} {scope : Option Scope} (h : System.Amid disk lent scope sys) :
    System.Amid disk lent scope (runAll calls sys) := by
  induction calls generalizing sys with
  | nil => exact h
  | cons g rest ih =>
    exact ih (fun g' hg' => hcalls g' (List.mem_cons_of_mem _ hg'))
      (staysInside_run (hcalls g List.mem_cons_self) _ _ _ _ h)

/-- On a connection that was lent at rest and on which nothing has been listed yet, a call that writes and gives
an answer has stored what it has made, and the connection is idle; one that fails has stored nothing. Once a
listing has given its answer, no later call stores anything, and the connection stays in a transaction that
the lender knows nothing of. -/
theorem stored_on_lent_link {before : List Guarded}
    (hbefore : ∀ g ∈ before, g.Honest ∧ g.isListing = false) (hg : g.Honest) (hlink : sys.link = some l)
    (hl : l.Idle) :
    (g.isListing = false →
      (∀ a, (g.run .connection (runAll before sys)).1 = .ok a →
        g.Makes (runAll before sys) (runAll (before ++ [g]) sys).disk ∧
          ∃ l', (runAll (before ++ [g]) sys).link = some l' ∧ l'.Idle) ∧
      ∀ f, (g.run .connection (runAll before sys)).1 = .error f →
        (runAll (before ++ [g]) sys).disk = (runAll before sys).disk) ∧
    (g.isListing = true → ∀ a, (g.run .connection (runAll before sys)).1 = .ok a →
      ∀ after : List Guarded, (∀ g ∈ after, g.Honest) →
        (runAll (before ++ g :: after) sys).disk = (runAll before sys).disk ∧
          ∃ l', (runAll (before ++ g :: after) sys).link = some l' ∧ l'.inTransaction = true) := by
  obtain ⟨l₁, hlink₁, hl₁⟩ := resting_runAll hbefore hlink (.idle hl)
  have hnext : ∀ after, runAll (before ++ g :: after) sys =
      runAll after (g.run .connection (runAll before sys)).2 := by
    intro after
    simp [runAll, List.foldl_append]
  refine ⟨?_, ?_⟩
  · intro hwrites
    have hwrote := wrote_run hg hwrites hlink₁ hl₁
    rw [hnext []]
    refine ⟨?_, hwrote.kept⟩
    intro a ha
    obtain ⟨l₂, hlink₂, _, hidle⟩ := hwrote.link
    exact ⟨hwrote.made a ha, l₂, hlink₂, hidle a ha⟩
  · intro hlists a ha after hafter
    obtain ⟨hdisk, l₂, hlink₂, hopen⟩ := listed_run hg hlists hlink₁
    rw [hnext after]
    obtain ⟨outcome, sys₂, hrun⟩ : ∃ outcome sys₂, g.run .connection (runAll before sys) = (outcome, sys₂) :=
      ⟨_, _, rfl⟩
    rw [hrun] at hdisk hlink₂ ⊢
    have hopened : System.Amid sys₂.disk sys₂.lent sys₂.scope sys₂ :=
      ⟨rfl, rfl, rfl, l₂, hlink₂, hopen a ha⟩
    have hamid := amid_runAll hafter hopened
    exact ⟨hamid.disk.trans hdisk, hamid.link⟩

end Guarded

end RowGuard

/-! ## A list of members -/

namespace RowGuard.Teams

open Guarded

def mapping : Mapping := ⟨.text "Member", members, { name := "name", type := .text, isKey := true }⟩

/-- Members are registered, and a connection is lent. -/
def lent : System := { system with link := some {}, globals := { registry := ⟨[mapping]⟩ } }

def listMembers : Guarded := { evaluator, subject := ann, task := .list { type := .text "Member" } }

theorem honest_listMembers : listMembers.Honest where
  evaluator := Evaluator.onlyAnswers_fixed {}
  mutation _ _ htask := by simp [listMembers] at htask

def fragment : Fragment :=
  { Fragment.ofText (.text "members.name") (.text "1 = 1") (.text "read") (.text "Member") with
    embedded := true }

def membersPlan : Listing.Plan :=
  { subject := ann, mapping, read := fragment, extras := [], order := [], extractSelf := false }

/-- The system when the listing of the members has been planned. -/
def selecting : System := { lent with fragments := ⟨#[fragment]⟩, watch := { calls := .int 1 } }

/-- The system when the members have been listed. -/
def listed : System :=
  { selecting with link := some { transaction := some { view := some system.disk } } }

theorem plan_listMembers :
    Listing.plan evaluator ann { type := .text "Member" } lent = (.ok membersPlan, selecting) := by
  have hlookup : lent.globals.registry.lookup (.text "Member") = .ok mapping := by
    simp [Registry.lookup, Registry.get?, lent, mapping, Data.requireKey]
    rfl
  have hcheck : Listing.Request.check { type := .text "Member" } ann = .ok () := by decide +kernel
  unfold Listing.plan
  rw [Sys.get_bind_apply, hlookup, Sys.ofExcept_ok, Sys.pure_bind_apply, hcheck]
  rfl

theorem readable_membersPlan : membersPlan.readable system.disk = [[.text "ann", .text "ants"]] := by
  have htable : system.disk.table? membersPlan.mapping.table.name =
      some ⟨members, [[.text "ann", .text "ants"]]⟩ := by rfl
  have hscanned : (⟨members, [[.text "ann", .text "ants"]]⟩ : Table).scanned =
      [[.text "ann", .text "ants"]] := by rfl
  have hread : (([[.text "ann", .text "ants"]] : List Row).filter
      (membersPlan.read.admits system.disk membersPlan.mapping.table membersPlan.identityPosition)) =
        [[.text "ann", .text "ants"]] := by
    decide +kernel
  unfold Listing.Plan.readable
  rw [htable]
  dsimp only
  rw [hscanned, hread]
  exact List.mergeSort_singleton _

/-- The one row of the list. -/
def annsRow : PermissionVector := ⟨.text "ann", [("name", .text "ann"), ("team", .text "ants")], []⟩

theorem select_membersPlan : membersPlan.select system.disk = .ok [annsRow] := by
  have hruns : membersPlan.runs system.disk = true := by decide +kernel
  unfold Listing.Plan.select
  rw [hruns, readable_membersPlan]
  decide +kernel

/-- The members are listed, and the transaction that their selection has begun stays open. -/
theorem run_listMembers : listMembers.run .connection lent = (.ok (.rows ⟨[annsRow], none⟩), listed) := by
  have hrun : membersPlan.statement.run system.disk = .ok ([annsRow], system.disk) := by
    show (do return (← membersPlan.select system.disk, system.disk)) = _
    rw [select_membersPlan]
    rfl
  have hexecute : ({} : Link).execute system.disk [] membersPlan.statement = _ :=
    Link.execute_new rfl rfl rfl hrun
  have hlink : selecting.link = some {} := rfl
  obtain ⟨journal, hwithin, hjournal⟩ := Scope.within_execute_apply hlink hexecute
    (Listing.operation membersPlan.mapping.type)
  obtain rfl := hjournal _ rfl
  have hlisted : Listing.execute .connection membersPlan selecting = (.ok ⟨[annsRow], none⟩, listed) :=
    Sys.bind_of_ok hwithin
  refine Sys.bind_of_ok ?_
  unfold Listing.list
  refine (Sys.bind_of_ok (Sys.configOr_apply _)).trans ?_
  refine (Sys.bind_of_ok plan_listMembers).trans ?_
  exact Sys.bind_of_ok hlisted

/-- Cleo and bob join one after the other, and both are stored. Had the members been listed after cleo, bob
would not have been stored. -/
theorem stored_on_lent_link_cleo_bob :
    (joins "bob" "bees").Makes (runAll [joins "cleo" "ants"] lent)
        (runAll [joins "cleo" "ants", joins "bob" "bees"] lent).disk ∧
      ((listMembers.run .connection (runAll [joins "cleo" "ants"] lent)).1.isOk = true →
        (runAll [joins "cleo" "ants", listMembers, joins "bob" "bees"] lent).disk =
          (runAll [joins "cleo" "ants"] lent).disk) := by
  have hcleo : ∀ g ∈ [joins "cleo" "ants"], g.Honest ∧ g.isListing = false := by
    intro g hg
    obtain rfl := List.mem_singleton.mp hg
    exact ⟨honest_joins _ _, rfl⟩
  constructor
  · obtain ⟨hwrites, _⟩ :=
      stored_on_lent_link hcleo (honest_joins "bob" "bees") (rfl : lent.link = some {}) Link.idle_new
    have hanswered : ((joins "bob" "bees").run .connection (runAll [joins "cleo" "ants"] lent)).1.isOk =
        true := by
      decide +kernel
    obtain ⟨a, ha⟩ := Outcome.exists_of_isOk hanswered
    exact ((hwrites rfl).1 a ha).1
  · intro hanswered
    obtain ⟨_, hlists⟩ :=
      stored_on_lent_link hcleo honest_listMembers (rfl : lent.link = some {}) Link.idle_new
    obtain ⟨a, ha⟩ := Outcome.exists_of_isOk hanswered
    refine (hlists rfl a ha [joins "bob" "bees"] ?_).1
    intro g hg
    obtain rfl := List.mem_singleton.mp hg
    exact honest_joins _ _

/-- When the members have been listed, bob joins, and gets the answer that he has. But he has only joined in a
savepoint of a transaction that nobody commits: he is not among the members that are stored, and the
connection is not idle. -/
theorem bob_is_lost :
    (listMembers.run .connection lent).1.isOk = true ∧
      ((joins "bob" "bees").run .connection (runAll [listMembers] lent)).1.isOk = true ∧
      (runAll [listMembers, joins "bob" "bees"] lent).disk = database [[.text "ann", .text "ants"]] ∧
      (runAll [listMembers, joins "bob" "bees"] lent).link.map (·.inTransaction) = some true := by
  have hlisted : runAll [listMembers] lent = listed := congrArg Prod.snd run_listMembers
  have hboth : runAll [listMembers, joins "bob" "bees"] lent = ((joins "bob" "bees").run .connection listed).2 := by
    rw [← hlisted]
    rfl
  rw [hlisted, hboth, run_listMembers]
  decide +kernel

end RowGuard.Teams
