import RowGuard.Proofs.Mutation.CheckThenAct
import RowGuard.Proofs.Session.Orderly
import RowGuard.Proofs.Session.Transaction

/-!
# Faults that leave blocks

Scopes are entered one inside the other, each on a connection of its own or on the one in use, and a fault leaves the
innermost block. On its way out every scope cleans up. A fault of the database reaches the caller as one failure that
names the innermost operation and was logged once; any other fault reaches the caller as it is
(`Scope.fault_unwinds`). What the scopes have begun and not ended is rolled back: their own connections are gone, and
a lent one is back in the state that it had before (`Link.Restored`).

* `Scope.Frame`: one block, with what it does before the next one is entered.
* `Scope.Unwinds`: a nest of blocks is left by a fault, and every clean-up succeeds.
-/

namespace RowGuard

/-- The connection is as it was before something was begun on it: in the same transaction, with the same savepoints
and the same view, or as good as new if no transaction was in progress. -/
inductive Link.Restored (l l' : Link) : Prop
  | inProgress (hl : l.InProgress) (hl' : l'.InProgress) (hmarks : l'.marks = l.marks)
      (hview : ∀ disk, l'.view disk = l.view disk)
  | idle (hl : l.Resting) (hl' : l' = {})

namespace Link

variable {l l' l₁ : Link} {handle : Handle}

/-- What a connection begins is a savepoint in the transaction in progress, or the outermost transaction. -/
theorem inProgress_of_begin (h : l.begin = (.ok handle, l')) :
    l'.InProgress ∧ ((l.InProgress ∧ handle = .savepoint (l.marks.length + 1) ∧ l'.marks = l.looked :: l.marks) ∨
      (l.Resting ∧ handle = .outermost)) := by
  rcases l.begin_cases with hl | ⟨hl, hbegin⟩ | ⟨_, e, _, hbegin, _⟩
  · rw [hl.begin_eq] at h
    obtain ⟨hhandle, rfl⟩ := Prod.mk.inj h
    exact ⟨hl.marked, .inl ⟨hl, (Except.ok.inj hhandle).symm, hl.marks_marked⟩⟩
  · rw [hbegin] at h
    obtain ⟨hhandle, rfl⟩ := Prod.mk.inj h
    exact ⟨inProgress_begun, .inr ⟨hl, (Except.ok.inj hhandle).symm⟩⟩
  · rw [hbegin] at h
    cases (Prod.mk.inj h).1

/-- As long as it is in progress, what was begun can be rolled back, which restores the connection. -/
theorem restored_of_begin (h : l.begin = (.ok handle, l')) (hl₁ : l₁.InProgress) (hmarks : l'.marks <:+ l₁.marks) :
    l₁.isAlive handle = true ∧ ∃ l₂, l₁.rollback handle = (.ok (), l₂) ∧ l.Restored l₂ := by
  obtain ⟨_, ⟨hl, rfl, hmarked⟩ | ⟨hl, rfl⟩⟩ := inProgress_of_begin h
  · rw [hmarked] at hmarks
    obtain ⟨inner, hinner⟩ := hmarks
    have hset : l.marks.length + 1 ≤ l₁.marks.length := by
      rw [← hinner]
      simp
    obtain ⟨l₂, hrollback, hl₂, hmarks₂, hview⟩ := hl₁.rollback_savepoint hinner
    exact ⟨hl₁.isAlive_savepoint hset, l₂, hrollback,
      .inProgress hl hl₂ hmarks₂ fun disk => (hview disk).trans hl.view_eq.symm⟩
  · exact ⟨isAlive_outermost hl₁.inTransaction_eq, {}, hl₁.rollback_eq, .idle hl rfl⟩

end Link

namespace Scope

open Sys

variable {α : Type} {operation : String} {sys sys' start raised left : System} {f : Fault}

/-! ## Leaving one scope -/

/-- How a fault that was raised in a system reaches the caller: one of the database's own as the failure of the
operation, with one record, and any other as it is, without a record. -/
structure Reported (operation : String) (f : Fault) (raised : System) (result : Except Fault α × System) : Prop where
  sql : f.isSql = true → result.1 = .error (.dataAccess operation) ∧
    result.2.journal = failure operation :: raised.journal
  other : f.isSql = false → result.1 = .error f ∧ result.2.journal = raised.journal

/-- Rolling back what a scope has begun touches only its connection and what the scope remembers. -/
theorem rollbackOpen_snd (sys : System) : ∃ link scope, (rollbackOpen sys).2 = { sys with link, scope } := by
  have hnone : (sys.scope = none ∨ sys.link = none) → ∃ link scope, (rollbackOpen sys).2 = { sys with link, scope } := by
    intro h
    refine ⟨sys.link, sys.scope, ?_⟩
    unfold rollbackOpen
    rw [bind_of_ok (inTransaction_of_none h)]
    rfl
  cases hscope : sys.scope with
  | none => exact hnone (.inl hscope)
  | some scope =>
    cases hlink : sys.link with
    | none => exact hnone (.inr hlink)
    | some l =>
      obtain ⟨operation, handle⟩ := scope
      cases hended : (handle.map l.isAlive).getD false with
      | false => exact ⟨sys.link, sys.scope, by rw [rollbackOpen_of_ended hscope hlink hended]⟩
      | true =>
        obtain ⟨h, rfl, halive⟩ : ∃ h, handle = some h ∧ l.isAlive h = true := by
          cases handle with
          | none => simp at hended
          | some h => exact ⟨h, rfl, by simpa using hended⟩
        exact ⟨_, _, by rw [rollbackOpen_of_alive hscope hlink halive]⟩

theorem rollbackAll_snd (sys : System) : ∃ link, (rollbackAll sys).2 = { sys with link } := by
  unfold rollbackAll
  cases hlink : sys.link with
  | none => exact ⟨sys.link, by rw [bind_of_error (currentLink_of_none hlink)]⟩
  | some l =>
    rw [bind_of_ok (currentLink_of_some hlink)]
    cases l.inTransaction with
    | false => exact ⟨sys.link, rfl⟩
    | true => exact ⟨_, congrArg Prod.snd (rollbackHere_apply hlink .outermost)⟩

theorem closing_snd (sys : System) : ∃ link scope, (closing sys).2 = { sys with link, scope } := by
  obtain ⟨_, scope, hopen⟩ := rollbackOpen_snd sys
  obtain ⟨link, hall⟩ := rollbackAll_snd (rollbackOpen sys).2
  refine ⟨link, scope, ?_⟩
  have hlast : (closing sys).2 = (rollbackAll (rollbackOpen sys).2).2 := by
    unfold closing
    rw [attempt_bind_apply]
    obtain ⟨outcome, sys₁, hrun⟩ : ∃ outcome sys₁, rollbackAll (rollbackOpen sys).2 = (outcome, sys₁) := ⟨_, _, rfl⟩
    cases outcome with
    | ok _ => rw [bind_of_ok hrun, ofExcept_apply, hrun]
    | error e => rw [bind_of_error hrun, hrun]
  rw [hlast, hall, hopen]

/-! ## Blocks -/

/-- What a block does before the next one inside it is entered. With `plain` its scope has then begun nothing that it
has not tried to end; with `begun` it has begun a transaction or savepoint, in which the next block is entered; with
`transaction` the whole block is one transaction. -/
inductive Conduct where
  | plain (before : Sys Unit)
  | begun (before inside : Sys Unit)
  | transaction (inside : Sys Unit)

/-- A block: a scope on a connection of its own or on the one in use, the name of its operation, and its conduct. -/
structure Frame where
  own : Bool
  operation : String
  conduct : Conduct

namespace Conduct

/-- All that the block does before the next one is entered. -/
def prologue : Conduct → Sys Unit
  | plain before => before
  | begun before inside => do before; begin; inside
  | transaction inside => do begin; inside

/-- All that is done in the block when the next one is inside it. -/
def body (inner : Sys α) : Conduct → Sys α
  | plain before => do before; inner
  | begun before inside => do before; begin; inside; inner
  | transaction inside => do
    begin
    let a ← (do inside; inner)
    commit
    return a

/-- What is done before and after the beginning of the transaction that is open when the next block is entered. -/
def opens : Conduct → Option (Sys Unit × Sys Unit)
  | plain _ => none
  | begun before inside => some (before, inside)
  | transaction inside => some (pure (), inside)

/-- What the block does ends nothing that was begun around it, and nothing that is open when the next block is
entered. -/
inductive Orderly : Conduct → Prop
  | plain {before} (h : before.Orderly) : Orderly (plain before)
  | begun {before inside} (hbefore : before.Orderly) (hinside : inside.Secluded) : Orderly (begun before inside)
  | transaction {inside} (h : inside.Secluded) : Orderly (transaction inside)

/-- A fault inside the block stops the block. -/
theorem body_left {c : Conduct} {inner : Sys α} (hentered : c.prologue sys = (.ok (), sys'))
    (hleft : inner sys' = (.error f, left)) : c.body inner sys = (.error f, left) := by
  have hrun : (c.prologue >>= fun _ => inner) sys = (.error f, left) := (bind_of_ok hentered).trans hleft
  cases c with
  | plain before => exact hrun
  | begun before inside => simpa only [prologue, body, bind_assoc] using hrun
  | transaction inside =>
    simp only [prologue, bind_assoc] at hrun
    have hstopped := bind_of_error (f := fun a => (do commit; return a : Sys α)) hrun
    simpa only [body, bind_assoc] using hstopped

theorem Orderly.body {c : Conduct} (hc : c.Orderly) {inner : Sys α} (hinner : inner.Secluded) :
    Sys.Orderly (c.body inner) := by
  cases hc with
  | plain hbefore => exact hbefore.bind fun _ => hinner.orderly
  | begun hbefore hinside =>
    exact hbefore.bind fun _ => orderly_begin.bind fun _ => hinside.orderly.bind fun _ => hinner.orderly
  | transaction hinside =>
    refine orderly_begin.bind fun _ => (hinside.orderly.bind fun _ => hinner.orderly).bind fun a => ?_
    exact orderly_commit.bind fun _ => .pure a

theorem prologue_of_opens {c : Conduct} {before inside : Sys Unit} (h : c.opens = some (before, inside)) :
    c.prologue = (do before; begin; inside) := by
  cases c with
  | plain _ => cases h
  | begun _ _ =>
    obtain ⟨rfl, rfl⟩ := Prod.mk.inj (Option.some.inj h)
    rfl
  | transaction _ =>
    obtain ⟨rfl, rfl⟩ := Prod.mk.inj (Option.some.inj h)
    rfl

theorem Orderly.secluded_of_opens {c : Conduct} (hc : c.Orderly) {before inside : Sys Unit}
    (h : c.opens = some (before, inside)) : inside.Secluded := by
  cases hc with
  | plain _ => cases h
  | begun _ hinside =>
    obtain ⟨_, rfl⟩ := Prod.mk.inj (Option.some.inj h)
    exact hinside
  | transaction hinside =>
    obtain ⟨_, rfl⟩ := Prod.mk.inj (Option.some.inj h)
    exact hinside

end Conduct

namespace Frame

/-- Where the block gets its connection. -/
def source (fr : Frame) : Bind := if fr.own then .engine true else .connection

/-- The block with what is done inside it, up to where a fault can come from. -/
def enter (fr : Frame) (inner : Sys α) : Sys α :=
  match fr.conduct with
  | .plain before => within fr.source fr.operation (do before; inner)
  | .begun before inside => within fr.source fr.operation (do before; begin; inside; inner)
  | .transaction inside => Scope.transaction fr.source fr.operation (do inside; inner)

/-- A block is a scope, in which its conduct says what is done. -/
theorem enter_eq (fr : Frame) (inner : Sys α) :
    fr.enter inner = within fr.source fr.operation (fr.conduct.body inner) := by
  obtain ⟨own, operation, conduct⟩ := fr
  cases conduct <;> rfl

/-- The state in which the block starts. -/
def opened (fr : Frame) (sys : System) : System :=
  if fr.own then Scope.opened sys {} sys.others fr.operation
  else { sys with scope := some { operation := fr.operation } }

/-- What is done when the block is left. -/
def cleanup (fr : Frame) : Sys Unit := if fr.own then closing else rollbackOpen

/-- The state in which the caller finds itself when the block is left by a fault. -/
def closed (fr : Frame) (sys left : System) (f : Fault) : System :=
  { left with
    link := if fr.own then sys.link else (fr.cleanup left).2.link
    lent := if fr.own then sys.lent else left.lent
    scope := sys.scope
    journal := blame fr.operation f ++ left.journal }

end Frame

/-- Blocks one inside the other, with an operation in the innermost one. -/
def nest (frames : List Frame) (x : Sys α) : Sys α := frames.foldr Frame.enter x

/-- The blocks are entered one inside the other from a state, the operation raises a fault in the innermost one, whose
name is given, and every clean-up on the way out succeeds. The operation starts and raises the fault in the given
states. -/
inductive Unwinds (x : Sys α) (operation : String) (start raised : System) (f : Fault) : List Frame → System → Prop
  | innermost {fr sys} : fr.operation = operation → fr.conduct.prologue (fr.opened sys) = (.ok (), start) →
      start.scope.map (·.operation) = some operation → x start = (.error f, raised) →
      (fr.cleanup raised).1 = .ok () → Unwinds x operation start raised f [fr] sys
  | outer {fr rest sys inside} : fr.conduct.prologue (fr.opened sys) = (.ok (), inside) →
      Unwinds x operation start raised f rest inside → (fr.cleanup (nest rest x inside).2).1 = .ok () →
      Unwinds x operation start raised f (fr :: rest) sys

/-! ## Faults reach the caller -/

section Left

variable {fr : Frame} {inner : Sys α} {inside : System}

theorem within_left {body : Sys α} (hbody : body (fr.opened sys) = (.error f, left))
    (hclean : (fr.cleanup left).1 = .ok ()) :
    within fr.source fr.operation body sys = (report fr.operation (.error f), fr.closed sys left f) := by
  obtain ⟨own, operation, conduct⟩ := fr
  cases own with
  | true =>
    obtain ⟨link, scope, hclosed⟩ := closing_snd left
    have hleave := leave_error (α := α) (Prod.ext hclean hclosed : closing left = (.ok (), _)) operation f
    replace hbody : body { sys with link := some {}, lent := sys.link.toList ++ sys.lent, scope := some { operation } } =
      (.error f, left) := hbody
    show Sys.onLink {} (held operation closing body) sys = _
    rw [Sys.onLink_apply, held_apply, hbody, hleave]
    rfl
  | false =>
    obtain ⟨link, scope, hopen⟩ := rollbackOpen_snd left
    have hleave := leave_error (α := α) (Prod.ext hclean hopen : rollbackOpen left = (.ok (), _)) operation f
    replace hbody : body { sys with scope := some { operation } } = (.error f, left) := hbody
    have hclosed : Frame.closed ⟨false, operation, conduct⟩ sys left f =
        { left with link, scope := sys.scope, journal := blame operation f ++ left.journal } := by
      unfold Frame.closed Frame.cleanup
      simp only [Bool.false_eq_true, if_false, hopen]
    show held operation rollbackOpen body sys = _
    rw [held_apply, hbody, hleave, hclosed]

/-- A block whose inside is left by a fault is left by what its scope reports. -/
theorem enter_left (hentered : fr.conduct.prologue (fr.opened sys) = (.ok (), inside))
    (hleft : inner inside = (.error f, left)) (hclean : (fr.cleanup left).1 = .ok ()) :
    fr.enter inner sys = (report fr.operation (.error f), fr.closed sys left f) := by
  rw [Frame.enter_eq]
  exact within_left (Conduct.body_left hentered hleft) hclean

end Left

/-- What a scope has reported is no fault of the database any more. -/
theorem isSql_of_report {g : Fault} (h : (report operation (.error f) : Except Fault α) = .error g) :
    g.isSql = false := by
  obtain rfl := Except.error.inj h
  cases hsql : f.isSql with
  | false => exact hsql
  | true => rfl

namespace Unwinds

variable {x : Sys α} {frames : List Frame}

/-- The fault leaves the outermost block as the innermost scope has reported it; nothing is stored on the way, and
only the innermost scope logs. -/
theorem nest_apply (h : Unwinds x operation start raised f frames sys) :
    (nest frames x sys).1 = report operation (.error f) ∧
      (nest frames x sys).2.journal = blame operation f ++ raised.journal ∧
      (nest frames x sys).2.disk = raised.disk := by
  induction h with
  | @innermost fr sys hoperation hentered hscope hraised hclean =>
    have hleft : nest [fr] x sys = _ := enter_left hentered hraised hclean
    rw [hleft, hoperation]
    refine ⟨rfl, ?_, rfl⟩
    show blame fr.operation f ++ raised.journal = _
    rw [hoperation]
  | @outer fr rest sys inside hentered _ hclean ih =>
    obtain ⟨hreported, hjournal, hdisk⟩ := ih
    obtain ⟨g, hg⟩ : ∃ g, (report operation (.error f) : Except Fault α) = .error g := ⟨_, rfl⟩
    have hleft : nest (fr :: rest) x sys = _ := enter_left hentered (Prod.ext (hreported.trans hg) rfl) hclean
    rw [hleft, ← hg, report_report]
    refine ⟨rfl, ?_, hdisk⟩
    show blame fr.operation g ++ (nest rest x inside).2.journal = _
    rw [hjournal, blame, isSql_of_report hg]
    rfl

/-- The operation was called in the innermost scope, and has raised the fault. -/
theorem raises (h : Unwinds x operation start raised f frames sys) :
    start.scope.map (·.operation) = some operation ∧ x start = (.error f, raised) := by
  induction h with
  | innermost _ _ hscope hraised _ => exact ⟨hscope, hraised⟩
  | outer _ _ _ ih => exact ih

end Unwinds

theorem Reported.of_apply {result : Except Fault α × System} (houtcome : result.1 = report operation (.error f))
    (hjournal : result.2.journal = blame operation f ++ raised.journal) : Reported operation f raised result := by
  constructor
  · intro hsql
    rw [houtcome, hjournal]
    simp [report, blame, hsql]
  · intro hsql
    rw [houtcome, hjournal]
    simp [report, blame, hsql]

/-- Whether the scope has reported a statement's fault or it came directly from the connection makes no difference
when the scope is left. -/
theorem blame_statement {x : Sys α} {st : Link.Statement α} {own : Fault}
    (hx : x = Scope.execute st ∨ x = Sys.execute st) (hinner : start.scope.map (·.operation) = some operation)
    (hown : (Sys.execute st start).1 = .error own) (hraised : x start = (.error f, raised)) :
    (report operation (.error f) : Except Fault α) = report operation (.error own) ∧
      blame operation f ++ raised.journal = blame operation own ++ start.journal := by
  have hjournal : (Sys.execute st start).2.journal = start.journal := by
    cases hlink : start.link with
    | none =>
      have hnowhere : Sys.execute st start = _ := bind_of_error (currentLink_of_none hlink)
      rw [hnowhere]
    | some l => rw [execute_of_some hlink]
  obtain ⟨scope, hscope, rfl⟩ := Option.map_eq_some_iff.mp hinner
  rcases hx with rfl | rfl
  · have hstatement : Scope.execute st start = (report scope.operation (.error own), _) :=
      (bind_of_ok (current_of_some hscope)).trans (reporting_error (Prod.ext hown rfl) scope.operation)
    rw [hstatement] at hraised
    obtain ⟨houtcome, rfl⟩ := Prod.mk.inj hraised
    rw [← houtcome, report_report]
    refine ⟨rfl, ?_⟩
    rw [hjournal, blame, isSql_of_report houtcome]
    rfl
  · rw [hraised] at hown hjournal
    obtain rfl := Except.error.inj hown
    exact ⟨rfl, congrArg _ hjournal⟩

/-! ## What was begun is rolled back -/

namespace Frame

/-- What the block has begun and not ended is gone where its caller finds the system: with the connection of the
block's own, or the connection that it was lent is as it was before. -/
structure Undoes (fr : Frame) (sys final : System) : Prop where
  own : fr.own = true → final.link = sys.link ∧ final.lent = sys.lent
  lent : fr.own = false → ∀ before inside, fr.conduct.opens = some (before, inside) →
    ∃ l l', (before (fr.opened sys)).2.link = some l ∧ final.link = some l' ∧ l.Restored l'

/-- A block on a connection of its own is secluded, and one on the connection in use is if it is orderly. -/
theorem secluded_enter {fr : Frame} {inner : Sys α} (hfr : fr.own = false → fr.conduct.Orderly)
    (hinner : inner.Secluded) : (fr.enter inner).Secluded := by
  rw [enter_eq]
  obtain ⟨own, operation, conduct⟩ := fr
  cases own with
  | true => exact .within_engine _ true operation
  | false => exact ((hfr rfl).body hinner).within_connection operation

end Frame

theorem secluded_nest {x : Sys α} (hx : x.Secluded) {frames : List Frame}
    (hframes : ∀ fr ∈ frames, fr.own = false → fr.conduct.Orderly) : (nest frames x).Secluded := by
  induction frames with
  | nil => exact hx
  | cons fr rest ih =>
    obtain ⟨hfr, hrest⟩ := List.forall_mem_cons.mp hframes
    exact Frame.secluded_enter hfr (ih hrest)

/-- What a scope begins is begun on its connection, and the scope remembers it. -/
theorem begin_eq_ok (h : begin sys = (.ok (), sys')) :
    ∃ operation l handle l', sys.link = some l ∧ l.begin = (.ok handle, l') ∧
      sys' = { sys with link := some l', scope := some { operation, handle := some handle } } := by
  have hfailed : ∀ {e : Fault} {last : System}, begin sys = (.error e, last) → False := by
    intro e last herror
    rw [h] at herror
    cases (Prod.mk.inj herror).1
  cases hscope : sys.scope with
  | none =>
    have hinactive : current sys = (.error (.scope .inactive), sys) := by
      unfold current
      simp [hscope]
    have hbegin : begin sys = (.error (.scope .inactive), sys) := by
      unfold begin
      rw [bind_of_ok (inTransaction_of_none (.inl hscope))]
      exact bind_of_error hinactive
    exact (hfailed hbegin).elim
  | some scope =>
    cases hlink : sys.link with
    | none => exact (hfailed (begin_of_none hscope hlink)).elim
    | some l =>
      cases halive : (scope.handle.map l.isAlive).getD false with
      | true => exact (hfailed (begin_of_alive hscope hlink halive)).elim
      | false =>
        obtain ⟨outcome, l', hbegin⟩ : ∃ outcome l', l.begin = (outcome, l') := ⟨_, _, rfl⟩
        cases outcome with
        | error e =>
          obtain ⟨journal, herror⟩ := begin_of_error hscope hlink halive hbegin
          exact (hfailed herror).elim
        | ok handle =>
          rw [begin_of_ok hscope hlink halive hbegin] at h
          exact ⟨scope.operation, l, handle, l', rfl, hbegin, (Prod.mk.inj h).2.symm⟩

/-- What a scope has begun is rolled back when the scope is left, if nothing in between was not secluded. -/
theorem restored_of_secluded {x : Sys α} (hx : x.Secluded) (hbegin : begin sys = (.ok (), start)) :
    ∃ l l', sys.link = some l ∧ (rollbackOpen (x start).2).2.link = some l' ∧ l.Restored l' := by
  obtain ⟨operation, l, handle, l', hlink, hbegun, hstart⟩ := begin_eq_ok hbegin
  have hopen : System.Amidst sys.lent (some { operation, handle := some handle }) l'.marks start := by
    rw [hstart]
    exact ⟨rfl, rfl, rfl, l', rfl, (Link.inProgress_of_begin hbegun).1, List.suffix_refl _⟩
  have hstill := hx _ _ _ start hopen
  obtain ⟨l₁, hlink₁, hl₁, hmarks⟩ := hstill.link
  obtain ⟨halive, l₂, hrollback, hrestored⟩ := Link.restored_of_begin hbegun hl₁ hmarks
  refine ⟨l, l₂, hlink, ?_, hrestored⟩
  rw [rollbackOpen_of_alive hstill.scope hlink₁ halive, hrollback]

/-- A block that is left by a fault undoes what it has begun. -/
theorem undoes_enter {fr : Frame} {inner : Sys α} {inside : System} (hfr : fr.own = false → fr.conduct.Orderly)
    (hinner : inner.Secluded) (hentered : fr.conduct.prologue (fr.opened sys) = (.ok (), inside))
    (hleft : inner inside = (.error f, left)) (hclean : (fr.cleanup left).1 = .ok ()) :
    fr.Undoes sys (fr.enter inner sys).2 := by
  rw [enter_left hentered hleft hclean]
  constructor
  · intro hown
    simp [Frame.closed, hown]
  · intro hlent before inside' hopens
    have hsecluded := (hfr hlent).secluded_of_opens hopens
    rw [Conduct.prologue_of_opens hopens] at hentered
    obtain ⟨_, ready, hready, hbegun⟩ := bind_eq_ok hentered
    obtain ⟨_, start, hbegin, hinside⟩ := bind_eq_ok hbegun
    obtain ⟨l, l', hlink, hlink', hrestored⟩ := restored_of_secluded (hsecluded.bind fun _ => hinner) hbegin
    rw [bind_of_ok hinside, hleft] at hlink'
    refine ⟨l, l', ?_, ?_, hrestored⟩
    · rw [hready]
      exact hlink
    · simpa [Frame.closed, Frame.cleanup, hlent] using hlink'

/-- Every block has undone what it had begun, where its caller finds the system. -/
def AllUndone (x : Sys α) : List Frame → System → Prop
  | [], _ => True
  | fr :: rest, sys =>
    fr.Undoes sys (nest (fr :: rest) x sys).2 ∧ AllUndone x rest (fr.conduct.prologue (fr.opened sys)).2

theorem Unwinds.allUndone {x : Sys α} {frames : List Frame} (h : Unwinds x operation start raised f frames sys)
    (hframes : ∀ fr ∈ frames, fr.own = false → fr.conduct.Orderly) (hx : x.Secluded) : AllUndone x frames sys := by
  induction h with
  | @innermost fr sys _ hentered _ hraised hclean =>
    exact ⟨undoes_enter (hframes fr (by simp)) hx hentered hraised hclean, trivial⟩
  | @outer fr rest sys inside hentered hinner hclean ih =>
    obtain ⟨hfr, hrest⟩ := List.forall_mem_cons.mp hframes
    obtain ⟨g, hg⟩ : ∃ g, (nest rest x inside).1 = .error g := ⟨_, hinner.nest_apply.1⟩
    refine ⟨undoes_enter hfr (secluded_nest hx hrest) hentered (Prod.ext hg rfl) hclean, ?_⟩
    rw [hentered]
    exact ih hrest

/-- A fault leaves blocks that are entered one inside the other, and every clean-up succeeds. The caller of the
outermost block gets a fault of the database as the failure of the innermost operation, with one record; that is so
whether it came directly from the connection or from a statement of the scope, which has reported it already. Any other
fault reaches the caller as it is, and leaves no record. Nothing is stored on the way, and every block undoes what it
has begun, if the blocks on a connection that they were lent end nothing that was begun around them. -/
theorem fault_unwinds {x : Sys α} {frames : List Frame} (h : Unwinds x operation start raised f frames sys) :
    Reported operation f raised (nest frames x sys) ∧
      (∀ (st : Link.Statement α) (own : Fault), x = Scope.execute st ∨ x = Sys.execute st →
        (Sys.execute st start).1 = .error own → Reported operation own start (nest frames x sys)) ∧
      (nest frames x sys).2.disk = raised.disk ∧
      ((∀ fr ∈ frames, fr.own = false → fr.conduct.Orderly) → x.Secluded → AllUndone x frames sys) := by
  obtain ⟨houtcome, hjournal, hdisk⟩ := h.nest_apply
  refine ⟨.of_apply houtcome hjournal, ?_, hdisk, h.allUndone⟩
  intro st own hx hown
  obtain ⟨hinner, hraised⟩ := h.raises
  obtain ⟨hreport, hblame⟩ := blame_statement hx hinner hown hraised
  exact .of_apply (houtcome.trans hreport) (hjournal.trans hblame)

end Scope

end RowGuard

/-! ## Enlisting -/

namespace RowGuard.Teams

open Scope

/-- Adds a member to a team. -/
def joining (name team : String) : Link.Statement Unit :=
  .insert members [("name", .text name), ("team", .text team)]

/-- A team gets its first member, in a transaction. -/
def found : Frame := ⟨true, "found", .transaction (Sys.execute (joining "bob" "bees"))⟩

/-- Then others are enlisted, each in a savepoint of its own. -/
def enlist : Frame where
  own := false
  operation := "enlist"
  conduct := .begun
    (do
      begin
      Scope.execute (joining "cid" "ants")
      commit)
    (Scope.execute (joining "eve" "ants"))

/-- The system in which one more member is to be enlisted. -/
def enlisting : System := (enlist.conduct.prologue (enlist.opened (found.conduct.prologue (found.opened system)).2)).2

/-- There is no team of wasps: the last member is not enlisted, and of the others nothing remains. -/
theorem fault_unwinds_enlist :
    (nest [found, enlist] (Scope.execute (joining "dan" "wasps")) system).1 = .error (.dataAccess "enlist") ∧
      (nest [found, enlist] (Scope.execute (joining "dan" "wasps")) system).2.journal = [failure "enlist"] ∧
      (nest [found, enlist] (Scope.execute (joining "dan" "wasps")) system).2.disk = system.disk ∧
      AllUndone (Scope.execute (joining "dan" "wasps")) [found, enlist] system := by
  have hunwinds : Unwinds (Scope.execute (joining "dan" "wasps")) "enlist" enlisting
      (Scope.execute (joining "dan" "wasps") enlisting).2 (.dataAccess "enlist") [found, enlist] system := by
    refine .outer (Prod.ext (by decide +kernel) rfl) (.innermost rfl (Prod.ext (by decide +kernel) rfl) ?_
      (Prod.ext ?_ rfl) ?_) ?_
    · decide +kernel
    · decide +kernel
    · decide +kernel
    · decide +kernel
  obtain ⟨_, hstatement, hdisk, hundone⟩ := fault_unwinds hunwinds
  have hreported := (hstatement (joining "dan" "wasps") (.sql .constraint) (.inl rfl) (by decide +kernel)).sql rfl
  have hquiet : enlisting.journal = [] := by decide +kernel
  rw [hquiet] at hreported
  have hstored : (Scope.execute (joining "dan" "wasps") enlisting).2.disk = system.disk := by decide +kernel
  refine ⟨hreported.1, hreported.2, hdisk.trans hstored, hundone ?_ (contained_execute _).secluded⟩
  intro fr hfr hlent
  obtain rfl | rfl := by simpa using hfr
  · cases hlent
  · refine .begun (orderly_begin.bind fun _ => ?_) (contained_execute _).secluded
    exact (contained_execute _).secluded.orderly.bind fun _ => orderly_commit

/-- A block that takes in a member of a team that is nowhere to be found when it commits, and goes on after that. -/
def intake : Frame where
  own := false
  operation := "intake"
  conduct := .plain do
    begin
    let _ ← (addEarly "bob" "wasps").run
    let _ ← Sys.attempt commit

/-- The teams on a connection on which nothing was begun. -/
def idle : System := { system with link := some {} }

/-- A fault leaves the block after its commit has failed, and every clean-up succeeds; but the transaction stays open
on the connection that was lent, and no other one can be begun there, as it could before. -/
theorem failed_commit_stays_open :
    Unwinds (throw (.scripted "boom") : Sys Unit) "intake" (intake.conduct.prologue (intake.opened idle)).2
        (intake.conduct.prologue (intake.opened idle)).2 (.scripted "boom") [intake] idle ∧
      (nest [intake] (throw (.scripted "boom") : Sys Unit) idle).1 = .error (.scripted "boom") ∧
      (nest [intake] (throw (.scripted "boom") : Sys Unit) idle).2.link.map (·.transaction.isSome) = some true ∧
      (within .connection "query" begin (nest [intake] (throw (.scripted "boom") : Sys Unit) idle).2).1 =
        .error (.dataAccess "query") ∧
      (within .connection "query" begin idle).1 = .ok () := by
  refine ⟨.innermost rfl (Prod.ext (by decide +kernel) rfl) (by decide +kernel) rfl (by decide +kernel), ?_⟩
  decide +kernel

end RowGuard.Teams
