import RowGuard.Proofs.Session.Keeps
import RowGuard.Proofs.Session.Writing
import RowGuard.Session.Script

/-!
# Inside a transaction

As long as a transaction goes on, nothing reaches the stored database but through a commit of the outermost
one. An operation that leaves the transaction open, and the scope and the other connections alone, stays
inside it (`Sys.StaysInside`); statements and scripts do. A scope on a lent connection with a transaction
works in a savepoint, and stays inside the transaction whatever its operation comes to
(`Sys.StaysInside.within`).
-/

namespace RowGuard

namespace Link

variable {α : Type} {l : Link} {disk : Database} {others : List Link} {st : Statement α}

theorem inTransaction_iff :
    l.inTransaction = true ↔ l.transaction.isSome = true ∧ l.stage = .running := by
  simp [inTransaction]

/-- Using a connection finds out about its health and changes nothing else. -/
theorem inTransaction_touch : l.touch.2.inTransaction = l.inTransaction := by
  unfold touch
  cases l.health with
  | lost =>
    dsimp only
    cases h : l.transaction.isSome <;> simp [inTransaction]
  | _ => rfl

/-- Inside a transaction, what is begun is a savepoint. -/
theorem begin_of_inTransaction (h : l.inTransaction = true) :
    l.begin.2.inTransaction = true ∧
      ∀ handle, l.begin.1 = .ok handle → handle ≠ .outermost := by
  have htouched : l.touch.2.inTransaction = true := inTransaction_touch.trans h
  unfold begin
  rw [(inTransaction_iff.mp h).2]
  obtain ⟨outcome, l', htouch⟩ : ∃ outcome l', l.touch = (outcome, l') := ⟨_, _, rfl⟩
  rw [htouch] at htouched ⊢
  cases outcome with
  | error e => exact ⟨htouched, by simp⟩
  | ok _ =>
    obtain ⟨hopen, hrunning⟩ := inTransaction_iff.mp htouched
    obtain ⟨t, ht⟩ := Option.isSome_iff_exists.mp hopen
    dsimp only at ht hrunning ⊢
    rw [ht]
    exact ⟨inTransaction_iff.mpr ⟨rfl, hrunning⟩, by simp [eq_comm]⟩

/-- A statement that reaches the database is in a transaction afterwards, whatever it comes to. -/
theorem inTransaction_execute {l' : Link} (htouch : l.touch = (.ok (), l')) (hrefused : st.refused = none)
    (hrunning : l'.stage = .running) : (l.execute disk others st).2.inTransaction = true := by
  unfold execute
  rw [htouch, hrefused]
  dsimp only
  rw [hrunning]
  dsimp only
  split
  case isTrue => exact inTransaction_iff.mpr ⟨rfl, rfl⟩
  case isFalse =>
    split
    case h_1 => exact inTransaction_iff.mpr ⟨rfl, rfl⟩
    case h_2 => split <;> exact inTransaction_iff.mpr ⟨rfl, rfl⟩

/-- A statement ends no transaction, whatever it comes to. -/
theorem execute_of_inTransaction (h : l.inTransaction = true) :
    (l.execute disk others st).2.inTransaction = true := by
  have htouched : l.touch.2.inTransaction = true := inTransaction_touch.trans h
  obtain ⟨outcome, l', htouch⟩ : ∃ outcome l', l.touch = (outcome, l') := ⟨_, _, rfl⟩
  rw [htouch] at htouched
  cases outcome with
  | error e =>
    unfold execute
    rw [htouch]
    exact htouched
  | ok _ =>
    cases hrefused : st.refused with
    | some e =>
      unfold execute
      rw [htouch, hrefused]
      exact htouched
    | none => exact inTransaction_execute htouch hrefused (inTransaction_iff.mp htouched).2

/-- A statement that has given an answer has made of the database seen what it says, and that is seen from then
on; after one that has failed the same is seen as before. The transaction stays in progress. -/
theorem InProgress.execute (h : l.InProgress) (disk : Database) (others : List Link) (st : Statement α) :
    (l.execute disk others st).2.InProgress ∧
      match (l.execute disk others st).1 with
      | .ok a => st.run (l.view disk) = .ok (a, (l.execute disk others st).2.view disk)
      | .error _ => (l.execute disk others st).2.view disk = l.view disk := by
  have hseen : ((l.transaction.getD {}).view).getD disk = l.view disk := by
    rw [h.usable.view_eq]
    cases l.transaction <;> rfl
  -- the transaction goes on with a database that has been seen
  have hgoes : ∀ (t : Transaction) (db : Database), t.view = some db →
      ({ health := l.health, transaction := some t } : Link).InProgress ∧
        ({ health := l.health, transaction := some t } : Link).view disk = db := by
    intro t db ht
    have hin : ({ health := l.health, transaction := some t } : Link).InProgress :=
      ⟨⟨h.usable.sound, rfl⟩, rfl⟩
    refine ⟨hin, ?_⟩
    rw [hin.usable.view_eq]
    simp [ht]
  unfold Link.execute
  rw [h.usable.touch_eq]
  cases st.refused with
  | some e => exact ⟨h, rfl⟩
  | none =>
    dsimp only
    rw [h.usable.running, hseen]
    dsimp only
    split
    case isTrue => exact hgoes _ _ rfl
    case isFalse =>
      cases hrun : st.run (l.view disk) with
      | error f => exact hgoes _ _ rfl
      | ok outcome =>
        obtain ⟨a, db⟩ := outcome
        dsimp only
        split
        case isTrue =>
          refine ⟨(hgoes _ db rfl).1, ?_⟩
          dsimp only
          rw [(hgoes _ db rfl).2]
        case isFalse => exact hgoes _ _ rfl

/-- Committing a savepoint stores nothing and leaves the transaction open. -/
theorem commit_savepoint (h : l.inTransaction = true) (depth : Nat) :
    (l.commit disk others (.savepoint depth)).2.1.inTransaction = true ∧
      (l.commit disk others (.savepoint depth)).2.2 = disk := by
  have htouched : l.touch.2.inTransaction = true := inTransaction_touch.trans h
  unfold commit
  cases l.isAlive (.savepoint depth) with
  | false => exact ⟨h, rfl⟩
  | true =>
    obtain ⟨outcome, l', htouch⟩ : ∃ outcome l', l.touch = (outcome, l') := ⟨_, _, rfl⟩
    rw [htouch] at htouched ⊢
    cases outcome with
    | error e => exact ⟨htouched, rfl⟩
    | ok _ =>
      refine ⟨?_, rfl⟩
      obtain ⟨hopen, hrunning⟩ := inTransaction_iff.mp htouched
      exact inTransaction_iff.mpr ⟨by simpa using hopen, hrunning⟩

/-- Rolling back to a savepoint leaves the transaction open. -/
theorem rollback_savepoint (h : l.inTransaction = true) (depth : Nat) :
    (l.rollback (.savepoint depth)).2.inTransaction = true := by
  obtain ⟨hopen, hrunning⟩ := inTransaction_iff.mp h
  unfold rollback
  dsimp only
  split
  case isTrue => exact h
  case isFalse =>
    split <;> exact inTransaction_iff.mpr ⟨by simpa using hopen, hrunning⟩

end Link

/-- The system while a transaction goes on: nothing has been stored meanwhile, the scope and the other
connections are as they were, and the transaction is still in progress. -/
structure System.Amid (disk : Database) (lent : List Link) (scope : Option Scope) (sys : System) :
    Prop where
  disk : sys.disk = disk
  lent : sys.lent = lent
  scope : sys.scope = scope
  link : ∃ l, sys.link = some l ∧ l.inTransaction = true

/-- The system inside a transaction in which a scope may have set a savepoint. -/
structure System.Nested (disk : Database) (lent : List Link) (sys : System) : Prop where
  disk : sys.disk = disk
  lent : sys.lent = lent
  scope : ∃ scope, sys.scope = some scope ∧ scope.handle ≠ some .outermost
  link : ∃ l, sys.link = some l ∧ l.inTransaction = true

theorem System.Amid.of_kept {disk : Database} {lent : List Link} {scope : Option Scope} {a b : System}
    (hab : a.Kept b) (h : a.Amid disk lent scope) : b.Amid disk lent scope :=
  ⟨hab.disk.trans h.disk, hab.lent.trans h.lent, hab.scope.trans h.scope, by rw [hab.link]; exact h.link⟩

theorem System.Nested.of_kept {disk : Database} {lent : List Link} {a b : System} (hab : a.Kept b)
    (h : a.Nested disk lent) : b.Nested disk lent :=
  ⟨hab.disk.trans h.disk, hab.lent.trans h.lent, by rw [hab.scope]; exact h.scope,
    by rw [hab.link]; exact h.link⟩

namespace Sys

variable {α β : Type} {x : Sys α} {f : α → Sys β} {sys : System} {disk : Database} {lent : List Link}

/-- The operation stays inside the transaction that it begins in: whatever it comes to, it stores nothing,
leaves the scope and the other connections alone, and does not end the transaction. -/
def StaysInside (x : Sys α) : Prop :=
  ∀ disk lent scope, Keeps (System.Amid disk lent scope) x

namespace StaysInside

theorem bind (hx : StaysInside x) (hf : ∀ a, StaysInside (f a)) : StaysInside (x >>= f) :=
  fun disk lent scope => (hx disk lent scope).bind fun a => hf a disk lent scope

theorem pure (a : α) : StaysInside (Pure.pure a : Sys α) := fun _ _ _ => Keeps.pure a

theorem throw (e : Fault) : StaysInside (MonadExcept.throw e : Sys α) := fun _ _ _ => Keeps.throw e

theorem get : StaysInside (MonadState.get : Sys System) := fun _ _ _ => Keeps.get

theorem ofExcept (r : Except Fault α) : StaysInside (Sys.ofExcept r) := fun _ _ _ => Keeps.ofExcept r

/-- Inside a scope's savepoint, an operation that stays inside the transaction leaves the savepoint alone. -/
theorem nested (hx : StaysInside x) : Keeps (System.Nested disk lent) x := by
  rintro sys ⟨hdisk, hlent, hscope, hlink⟩
  have hafter := hx disk lent sys.scope sys ⟨hdisk, hlent, rfl, hlink⟩
  exact ⟨hafter.disk, hafter.lent, by rwa [hafter.scope], hafter.link⟩

/-- A statement on the connection. -/
theorem execute (st : Link.Statement α) : StaysInside (Sys.execute st) := by
  rintro disk lent scope sys ⟨hdisk, hlent, hscope, l, hlink, hopen⟩
  rw [execute_of_some hlink]
  exact ⟨hdisk, hlent, hscope, _, rfl, Link.execute_of_inTransaction hopen⟩

end StaysInside

end Sys

/-! ## Scripts -/

namespace ScriptItem

open Sys

variable {P : System → Prop}

theorem keeps_schemaOf (name : String) : Keeps P (schemaOf name) := by
  refine Keeps.get.bind ?_
  intro sys
  cases sys.disk.table? name with
  | some t => exact Keeps.pure t.schema
  | none => exact Keeps.throw _

theorem keeps_checkFilter (s : Schema) (filter : Assignments) : Keeps P (checkFilter s filter) := by
  unfold checkFilter
  cases filter.known s with
  | true => exact Keeps.pure ()
  | false => exact Keeps.throw _

/-- A step keeps what every statement keeps. -/
theorem keeps_run (hexecute : ∀ {β : Type} (st : Link.Statement β), Keeps P (Sys.execute st))
    (item : ScriptItem) : Keeps P item.run := by
  cases item with
  | insert table values =>
    refine (keeps_schemaOf table).bind ?_
    intro s
    exact (hexecute _).bind fun _ => Keeps.pure _
  | update table filter values =>
    refine (keeps_schemaOf table).bind ?_
    intro s
    refine (keeps_checkFilter s filter).bind ?_
    intro _
    exact (hexecute _).bind fun _ => Keeps.pure _
  | delete table filter =>
    refine (keeps_schemaOf table).bind ?_
    intro s
    refine (keeps_checkFilter s filter).bind ?_
    intro _
    exact (hexecute _).bind fun _ => Keeps.pure _
  | select table filter =>
    refine (keeps_schemaOf table).bind ?_
    intro s
    refine (keeps_checkFilter s filter).bind ?_
    intro _
    refine (hexecute _).bind ?_
    intro rows
    exact (Keeps.ofExcept _).bind fun _ => Keeps.pure _
  | command sql => exact (hexecute _).bind fun _ => Keeps.pure none
  | fault message => exact Keeps.throw _
  | value d => exact Keeps.pure (some d)

end ScriptItem

namespace Script

/-- A script keeps what every statement keeps, at whichever step it stops. -/
theorem keeps_run {P : System → Prop}
    (hexecute : ∀ {β : Type} (st : Link.Statement β), Sys.Keeps P (Sys.execute st)) (script : Script) :
    Sys.Keeps P script.run := by
  have hfrom : ∀ (rest : Script) (last : Data), Sys.Keeps P (runFrom last rest) := by
    intro rest
    induction rest with
    | nil => exact fun last => Sys.Keeps.pure last
    | cons item rest ih =>
      intro last
      refine (item.keeps_run hexecute).bind ?_
      intro answer
      cases item.ends with
      | true => exact Sys.Keeps.pure _
      | false => exact ih _
  exact hfrom script .null

/-- A script ends no transaction. -/
theorem staysInside_run (script : Script) : Sys.StaysInside script.run :=
  fun disk lent scope => script.keeps_run fun st => Sys.StaysInside.execute st disk lent scope

end Script

/-! ## A scope in a savepoint -/

namespace Scope

variable {α : Type} {operation : String} {sys : System} {disk : Database} {lent : List Link} {l : Link}
  {scope : Scope}

theorem beginHere_apply (hlink : sys.link = some l) :
    Sys.beginHere sys = (l.begin.1.mapError .sql, { sys with link := some l.begin.2 }) := by
  unfold Sys.beginHere
  rw [Sys.bind_of_ok (Sys.currentLink_of_some hlink)]
  simp [Sys.settle]

/-- A scope begins once. -/
theorem begin_of_alive (hscope : sys.scope = some scope) (hlink : sys.link = some l)
    (halive : (scope.handle.map l.isAlive).getD false = true) :
    begin sys = (.error (.scope .transactionOpen), sys) := by
  unfold begin
  rw [Sys.bind_of_ok (inTransaction_apply hscope hlink), halive]
  rfl

/-- What a scope begins is begun on its connection, and the scope remembers it. -/
theorem begin_of_ok {h : Handle} {l' : Link} (hscope : sys.scope = some scope) (hlink : sys.link = some l)
    (hended : (scope.handle.map l.isAlive).getD false = false) (hbegin : l.begin = (.ok h, l')) :
    begin sys = (.ok (), { sys with
      link := some l', scope := some { scope with handle := some h } }) := by
  have hreported : reporting scope.operation Sys.beginHere sys = (.ok h, { sys with link := some l' }) := by
    unfold reporting Sys.handling
    rw [beginHere_apply hlink, hbegin]
    rfl
  have hscope' : ({ sys with link := some l' } : System).scope = some scope := hscope
  unfold begin
  rw [Sys.bind_of_ok (inTransaction_apply hscope hlink), hended]
  show (current >>= _) sys = _
  rw [Sys.bind_of_ok (current_of_some hscope), Sys.bind_of_ok hreported]
  exact setHandle_apply hscope' (some h)

theorem begin_of_error {e : SqlFault} {l' : Link} (hscope : sys.scope = some scope)
    (hlink : sys.link = some l) (hended : (scope.handle.map l.isAlive).getD false = false)
    (hbegin : l.begin = (.error e, l')) :
    ∃ journal, begin sys =
      (.error (.dataAccess scope.operation), { sys with link := some l', journal }) := by
  have hhere : Sys.beginHere sys = (.error (.sql e), { sys with link := some l' }) := by
    rw [beginHere_apply hlink, hbegin]
    rfl
  obtain ⟨journal, hreported⟩ := @reporting_apply _ scope.operation _ _ _ _ hhere
  refine ⟨journal, ?_⟩
  unfold begin
  rw [Sys.bind_of_ok (inTransaction_apply hscope hlink), hended]
  show (current >>= _) sys = _
  rw [Sys.bind_of_ok (current_of_some hscope), Sys.bind_of_error hreported]
  rfl

theorem ending_of_none {finish : Handle → Sys Unit} (hscope : sys.scope = some scope)
    (hnone : scope.handle = none) : ending finish sys = (.error (.scope .noTransaction), sys) := by
  have hrequired : requireHandle sys = (.error (.scope .noTransaction), sys) := by
    unfold requireHandle
    rw [Sys.bind_of_ok (current_of_some hscope), hnone]
    rfl
  unfold ending
  exact Sys.bind_of_error hrequired

/-! ### What a scope does inside a savepoint -/

open Sys (Keeps)
open RowGuard.System (Nested)

theorem keeps_begin : Keeps (Nested disk lent) begin := by
  rintro sys ⟨hdisk, hlent, ⟨scope, hscope, houter⟩, l, hlink, hopen⟩
  cases halive : (scope.handle.map l.isAlive).getD false with
  | true =>
    rw [begin_of_alive hscope hlink halive]
    exact ⟨hdisk, hlent, ⟨scope, hscope, houter⟩, l, hlink, hopen⟩
  | false =>
    obtain ⟨hstill, hinner⟩ := Link.begin_of_inTransaction hopen
    obtain ⟨outcome, l', hbegin⟩ : ∃ outcome l', l.begin = (outcome, l') := ⟨_, _, rfl⟩
    rw [hbegin] at hstill hinner
    cases outcome with
    | error e =>
      obtain ⟨journal, hfailed⟩ := begin_of_error hscope hlink halive hbegin
      rw [hfailed]
      exact ⟨hdisk, hlent, ⟨scope, hscope, houter⟩, _, rfl, hstill⟩
    | ok h =>
      rw [begin_of_ok hscope hlink halive hbegin]
      exact ⟨hdisk, hlent, ⟨_, rfl, by simpa using hinner h rfl⟩, _, rfl, hstill⟩

theorem keeps_execute (st : Link.Statement α) : Keeps (Nested disk lent) (execute st) := by
  rintro sys ⟨hdisk, hlent, ⟨scope, hscope, houter⟩, l, hlink, hopen⟩
  obtain ⟨journal, hexecute⟩ := execute_apply hlink hscope (rfl : l.execute _ _ st = _)
  rw [hexecute]
  exact ⟨hdisk, hlent, ⟨scope, hscope, houter⟩, _, rfl, Link.execute_of_inTransaction hopen⟩

theorem keeps_commitHere (depth : Nat) : Keeps (Nested disk lent) (Sys.commitHere (.savepoint depth)) := by
  rintro sys ⟨hdisk, hlent, hscope, l, hlink, hopen⟩
  obtain ⟨hstill, hstored⟩ := Link.commit_savepoint hopen depth
  rw [commitHere_apply hlink]
  exact ⟨hstored.trans hdisk, hlent, hscope, _, rfl, hstill⟩

theorem keeps_rollbackHere (depth : Nat) :
    Keeps (Nested disk lent) (Sys.rollbackHere (.savepoint depth)) := by
  rintro sys ⟨hdisk, hlent, hscope, l, hlink, hopen⟩
  rw [rollbackHere_apply hlink]
  exact ⟨hdisk, hlent, hscope, _, rfl, Link.rollback_savepoint hopen depth⟩

/-- Only a savepoint is ended inside one. -/
theorem keeps_ending {finish : Handle → Sys Unit}
    (hfinish : ∀ depth, Keeps (Nested disk lent) (finish (.savepoint depth))) :
    Keeps (Nested disk lent) (ending finish) := by
  rintro sys ⟨hdisk, hlent, ⟨⟨operation, handle⟩, hscope, houter⟩, hlink⟩
  cases handle with
  | none =>
    rw [ending_of_none hscope rfl]
    exact ⟨hdisk, hlent, ⟨_, hscope, houter⟩, hlink⟩
  | some h =>
    cases h with
    | outermost => exact absurd rfl houter
    | savepoint depth =>
      have hfinished := hfinish depth { sys with scope := some { operation } }
        ⟨hdisk, hlent, ⟨_, rfl, by simp⟩, hlink⟩
      obtain ⟨journal, hending⟩ := ending_apply hscope (rfl : finish (.savepoint depth) _ = _)
      rw [hending]
      exact ⟨hfinished.disk, hfinished.lent, hfinished.scope, hfinished.link⟩

theorem keeps_commit : Keeps (Nested disk lent) commit := keeps_ending keeps_commitHere

theorem keeps_rollback : Keeps (Nested disk lent) rollback := keeps_ending keeps_rollbackHere

theorem keeps_rollbackOpen : Keeps (Nested disk lent) rollbackOpen := by
  rintro sys ⟨hdisk, hlent, ⟨⟨operation, handle⟩, hscope, houter⟩, l, hlink, hopen⟩
  cases halive : (handle.map l.isAlive).getD false with
  | false =>
    rw [rollbackOpen_of_ended hscope hlink halive]
    exact ⟨hdisk, hlent, ⟨_, hscope, houter⟩, l, hlink, hopen⟩
  | true =>
    cases handle with
    | none => simp at halive
    | some h =>
      cases h with
      | outermost => exact absurd rfl houter
      | savepoint depth =>
        rw [rollbackOpen_of_alive hscope hlink halive]
        exact ⟨hdisk, hlent, ⟨_, rfl, by simp⟩, _, rfl, Link.rollback_savepoint hopen depth⟩

/-- Leaving a scope cleans up, and otherwise only logs. -/
theorem leave_snd (operation : String) (cleanup : Sys Unit) (outcome : Except Fault α) (sys : System) :
    ∃ journal, (leave operation cleanup outcome sys).2 = { (cleanup sys).2 with journal } := by
  unfold leave
  rw [Sys.attempt_bind_apply]
  cases (cleanup sys).1 with
  | error _ =>
    cases outcome with
    | ok a => exact ⟨_, rfl⟩
    | error f => exact ⟨_, congrArg Prod.snd (raise_apply operation f _)⟩
  | ok _ =>
    cases outcome with
    | ok a => exact ⟨_, rfl⟩
    | error f => exact ⟨_, congrArg Prod.snd (raise_apply operation f _)⟩

/-- Leaving a scope keeps what its cleanup keeps. -/
theorem keeps_leave {P : System → Prop} (hP : ∀ {a b : System}, a.Kept b → P a → P b)
    {cleanup : Sys Unit} (hcleanup : Keeps P cleanup) (operation : String) (outcome : Except Fault α) :
    Keeps P (leave operation cleanup outcome) := by
  intro sys hsys
  obtain ⟨journal, hleft⟩ := leave_snd operation cleanup outcome sys
  have hkept : (cleanup sys).2.Kept (leave operation cleanup outcome sys).2 := by
    rw [hleft]
    exact ⟨rfl, rfl, rfl, rfl, rfl⟩
  exact hP hkept (hcleanup sys hsys)

end Scope

/-- A scope on a lent connection with a transaction stays inside the transaction if its operation keeps to
savepoints. -/
theorem Sys.StaysInside.within {α : Type} {body : Sys α}
    (hbody : ∀ disk lent, Keeps (System.Nested disk lent) body) (operation : String) :
    StaysInside (Scope.within .connection operation body) := by
  rintro disk lent scope sys ⟨hdisk, hlent, rfl, hlink⟩
  have hopened : System.Nested disk lent { sys with scope := some { operation } } :=
    ⟨hdisk, hlent, ⟨_, rfl, by simp⟩, hlink⟩
  have hdone := hbody disk lent _ hopened
  have hleft := Scope.keeps_leave System.Nested.of_kept Scope.keeps_rollbackOpen operation
    (body { sys with scope := some { operation } }).1 _ hdone
  exact ⟨hleft.disk, hleft.lent, rfl, hleft.link⟩

end RowGuard
