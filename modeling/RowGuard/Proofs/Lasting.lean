import RowGuard.Proofs.Database.Change
import RowGuard.Proofs.Records.Service
import RowGuard.Records.Storage

/-!
# Properties that last

A property of the system lasts (`System.Lasting`) if it does not depend on scopes and on what is logged, and no
step of a connection ends it: beginning, committing and rolling back, and running a statement that is prompt, which
is to say that its references are checked when it ends. Whatever is made of such steps keeps the property, whether
it succeeds or fails: scopes, guarded operations and services (`Records.Service.keeps_run`).
-/

namespace RowGuard

open Sys

/-- The statement has its references checked when it ends, and says so if it changes the database. -/
structure Link.Statement.Prompt {α : Type} (st : Link.Statement α) : Prop where
  checks : st.defers = false
  reads : st.writes = false → st.Reads

/-- The property lasts whatever connections do. -/
structure System.Lasting (P : System → Prop) : Prop where
  of_same : ∀ {a b : System}, P a → b.disk = a.disk → b.link = a.link → b.globals = a.globals → P b
  fresh : ∀ {sys : System}, P sys → P { sys with link := some {} }
  returned : ∀ {sys after : System}, P sys → P after → P { after with link := sys.link }
  begins : ∀ {sys : System} {l : Link}, sys.link = some l → P sys → P { sys with link := some l.begin.2 }
  commits : ∀ {sys : System} {l : Link} (h : Handle), sys.link = some l → P sys →
    P { sys with
      disk := (l.commit sys.disk sys.lent h).2.2
      link := some (l.commit sys.disk sys.lent h).2.1 }
  rollsBack : ∀ {sys : System} {l : Link} (h : Handle), sys.link = some l → P sys →
    P { sys with link := some (l.rollback h).2 }
  executes : ∀ {sys : System} {l : Link} {α : Type} {st : Link.Statement α}, st.Prompt → sys.link = some l →
    P sys → P { sys with link := some (l.execute sys.disk sys.lent st).2 }

namespace Sys.Keeps

variable {α β : Type} {x : Sys α} {P : System → Prop}

theorem map (hx : Keeps P x) (g : α → β) : Keeps P (g <$> x) := by
  rw [map_eq_pure_bind]
  exact hx.bind fun _ => Keeps.pure _

theorem attempt (hx : Keeps P x) : Keeps P (Sys.attempt x) := hx

theorem ite {p : Prop} [Decidable p] {y : Sys α} (hx : Keeps P x) (hy : Keeps P y) :
    Keeps P (if p then x else y) := by
  split
  case isTrue => exact hx
  case isFalse => exact hy

/-- What is done on the connection is not done without one. -/
theorem of_link {x : Sys α} {f : Link → Sys α} (hx : x = currentLink >>= f)
    (hlink : ∀ sys l, sys.link = some l → P sys → P (x sys).2) : Keeps P x := by
  intro sys h
  cases hl : sys.link with
  | some l => exact hlink sys l hl h
  | none =>
    have hnone : currentLink sys = (.error (.scope .inactive), sys) := by
      unfold currentLink
      simp only [get_bind_apply, hl]
      rfl
    rw [hx, bind_of_error hnone]
    exact h

theorem currentLink : Keeps P Sys.currentLink :=
  of_link (bind_pure _).symm fun sys l hl h => by rwa [currentLink_of_some hl]

end Sys.Keeps

/-! ## Connections stay sound -/

namespace Link

variable {α : Type} {l : Link}

theorem touch_of_sound (h : l.health = .sound) : l.touch = (.ok (), l) := by
  unfold touch
  rw [h]

theorem sound_begin (h : l.health = .sound) : l.begin.2.health = .sound := by
  unfold begin
  rw [touch_of_sound h]
  cases l.stage with
  | failed | abandoned => exact h
  | running =>
    dsimp only
    split <;> exact h

theorem sound_commit (h : l.health = .sound) (disk : Database) (others : List Link) (handle : Handle) :
    (l.commit disk others handle).2.1.health = .sound := by
  unfold commit
  rw [touch_of_sound h]
  split
  case isTrue => exact h
  case isFalse =>
    cases handle with
    | savepoint depth => exact h
    | outermost =>
      dsimp only
      split
      case isTrue => exact h
      case isFalse => split <;> exact h

theorem sound_rollback (h : l.health = .sound) (handle : Handle) : (l.rollback handle).2.health = .sound := by
  have hwhole : l.health ≠ .broken := by simp [h]
  unfold rollback
  cases handle with
  | outermost =>
    cases l.stage with
    | failed =>
      dsimp only
      split <;> exact h
    | abandoned => exact h
    | running =>
      dsimp only
      split
      case isTrue hbroken => exact absurd hbroken (by simp [hwhole])
      case isFalse => exact h
  | savepoint depth =>
    dsimp only
    split
    case isTrue => exact h
    case isFalse => exact h

theorem sound_execute (h : l.health = .sound) (disk : Database) (others : List Link) (st : Statement α) :
    (l.execute disk others st).2.health = .sound := by
  unfold execute
  rw [touch_of_sound h]
  cases st.refused with
  | some e => exact h
  | none =>
    cases hstage : l.stage with
    | failed | abandoned =>
      simp only [hstage]
      exact h
    | running =>
      simp only [hstage]
      split
      case isTrue => exact h
      case isFalse =>
        split
        case h_1 => exact h
        case h_2 => split <;> exact h

end Link

/-- The connection is sound, if there is one. -/
def System.Sound (sys : System) : Prop := ∀ l, sys.link = some l → l.health = .sound

/-- Nobody severs a connection in such steps. -/
theorem System.lasting_sound : System.Lasting System.Sound where
  of_same h _ hlink _ l hl := h l (hlink ▸ hl)
  fresh _ _ hl := Option.some.inj hl ▸ rfl
  returned h _ := h
  begins hl h _ hl' := Option.some.inj hl' ▸ Link.sound_begin (h _ hl)
  commits handle hl h _ hl' := Option.some.inj hl' ▸ Link.sound_commit (h _ hl) _ _ handle
  rollsBack handle hl h _ hl' := Option.some.inj hl' ▸ Link.sound_rollback (h _ hl) handle
  executes _ hl h _ hl' := Option.some.inj hl' ▸ Link.sound_execute (h _ hl) _ _ _

/-- Where nothing has changed of what is seen, nothing has changed of what is stored. -/
theorem System.Served.disk_eq {α : Type} {bind : Bind} {makes : α → Database → Prop} {before after : System}
    {outcome : Except Fault α} (h : System.Served bind makes before outcome after) (hsound : before.Sound)
    (hsame : bind.view after = bind.view before) : after.disk = before.disk := by
  cases hbind : bind with
  | engine reachable =>
    rw [hbind] at hsame
    exact hsame
  | connection =>
    rw [hbind] at hsame
    have hseen : after.seen = before.seen := hsame
    cases hl : before.link with
    | none =>
      have hbefore : before.seen = before.disk := by
        unfold System.seen
        rw [hl]
        rfl
      rcases h.stored hbind with hdisk | hdisk
      · exact hdisk
      · rw [hdisk, hseen, hbefore]
    | some l =>
      cases hopen : l.inTransaction with
      | true =>
        obtain ⟨htransaction, hrunning⟩ := Link.inTransaction_iff.mp hopen
        exact (h.returned l hbind hl ⟨⟨hsound l hl, hrunning⟩, htransaction⟩).disk
      | false =>
        have hbefore : before.seen = before.disk := by
          rw [System.seen_of_some hl]
          unfold Link.view
          rw [hopen]
          rfl
        rcases h.stored hbind with hdisk | hdisk
        · exact hdisk
        · rw [hdisk, hseen, hbefore]

/-! ## Statements -/

namespace Link.Statement

theorem prompt_of_writes {α : Type} {st : Link.Statement α} (hdefers : st.defers = false)
    (hwrites : st.writes = true) : st.Prompt where
  checks := hdefers
  reads hreads := absurd (hwrites.symm.trans hreads) (by simp)

theorem prompt_insert (s : Schema) (values : Assignments) : (insert s values).Prompt := prompt_of_writes rfl rfl

theorem prompt_insertReturning (s : Schema) (values : Assignments) (column : String) :
    (insertReturning s values column).Prompt :=
  prompt_of_writes rfl rfl

theorem prompt_update (s : Schema) (filter values : Assignments) : (update s filter values).Prompt :=
  prompt_of_writes rfl rfl

theorem prompt_delete (s : Schema) (filter : Assignments) : (delete s filter).Prompt := prompt_of_writes rfl rfl

theorem prompt_select (s : Schema) (filter : Assignments) : (select s filter).Prompt where
  checks := rfl
  reads _ db rows made hrun := by
    obtain ⟨hbound, _⟩ := bound_run_eq_ok hrun
    cases htable : db.table? s.name with
    | none => simp [htable] at hbound
    | some t =>
      rw [htable] at hbound
      exact (Prod.mk.inj (Except.ok.inj hbound)).2.symm

end Link.Statement

/-! ## What scopes know -/

namespace Scope

variable {P : System → Prop}

theorem keeps_current : Keeps P current := by
  refine Keeps.get.bind ?_
  intro sys
  cases sys.scope with
  | none => exact Keeps.throw _
  | some scope => exact Keeps.pure scope

theorem keeps_requireHandle : Keeps P requireHandle := by
  refine keeps_current.bind ?_
  intro scope
  cases scope.handle with
  | none => exact Keeps.throw _
  | some h => exact Keeps.pure h

theorem keeps_inTransaction : Keeps P inTransaction := Keeps.get.bind fun _ => Keeps.pure _

end Scope

open Scope

namespace System.Lasting

variable {α : Type} {P : System → Prop} (hP : System.Lasting P)

include hP

theorem of_kept {a b : System} (hab : a.Kept b) (h : P a) : P b := hP.of_same h hab.disk hab.link hab.globals

theorem keeps_aside {x : Sys α} (hx : Aside x) : Keeps P x := hx.keeps hP.of_kept

/-! ## On connections -/

theorem keeps_beginHere : Keeps P beginHere := by
  refine Keeps.of_link rfl ?_
  intro sys l hl h
  rw [Scope.beginHere_apply hl]
  exact hP.begins hl h

theorem keeps_commitHere (handle : Handle) : Keeps P (commitHere handle) := by
  refine Keeps.of_link rfl ?_
  intro sys l hl h
  rw [Scope.commitHere_apply hl]
  exact hP.commits handle hl h

theorem keeps_rollbackHere (handle : Handle) : Keeps P (rollbackHere handle) := by
  refine Keeps.of_link rfl ?_
  intro sys l hl h
  rw [Scope.rollbackHere_apply hl]
  exact hP.rollsBack handle hl h

theorem keeps_executeHere {st : Link.Statement α} (hst : st.Prompt) : Keeps P (Sys.execute st) := by
  refine Keeps.of_link rfl ?_
  intro sys l hl h
  rw [execute_of_some hl]
  exact hP.executes hst hl h

/-! ## In scopes -/

theorem keeps_fail (operation : String) : Keeps P (Scope.fail operation : Sys α) :=
  hP.keeps_aside ((Aside.log _ _ _).bind fun _ => Aside.throw _)

theorem keeps_reporting {x : Sys α} (hx : Keeps P x) (operation : String) : Keeps P (Scope.reporting operation x) := by
  refine hx.handling ?_
  intro f
  exact .ite (hP.keeps_fail operation) (Keeps.throw f)

theorem keeps_setHandle (h : Option Handle) : Keeps P (Scope.setHandle h) :=
  fun _ hsys => hP.of_same hsys rfl rfl rfl

theorem keeps_begin : Keeps P Scope.begin := by
  refine keeps_inTransaction.bind ?_
  intro alive
  have hbegins : Keeps P (do
      let scope ← Scope.current
      let h ← Scope.reporting scope.operation Sys.beginHere
      Scope.setHandle (some h)) := by
    refine keeps_current.bind ?_
    intro scope
    exact (hP.keeps_reporting hP.keeps_beginHere _).bind fun h => hP.keeps_setHandle _
  exact .ite ((Keeps.throw _).bind fun _ => hbegins) hbegins

theorem keeps_ending {finish : Handle → Sys Unit} (hfinish : ∀ h, Keeps P (finish h)) :
    Keeps P (Scope.ending finish) := by
  refine keeps_requireHandle.bind ?_
  intro h
  refine keeps_current.bind ?_
  intro scope
  exact (hP.keeps_setHandle _).bind fun _ => hP.keeps_reporting (hfinish h) _

theorem keeps_commit : Keeps P Scope.commit := hP.keeps_ending hP.keeps_commitHere

theorem keeps_rollback : Keeps P Scope.rollback := hP.keeps_ending hP.keeps_rollbackHere

theorem keeps_execute {st : Link.Statement α} (hst : st.Prompt) : Keeps P (Scope.execute st) :=
  keeps_current.bind fun _ => hP.keeps_reporting (hP.keeps_executeHere hst) _

theorem keeps_rollbackOpen : Keeps P Scope.rollbackOpen := by
  refine keeps_inTransaction.bind ?_
  intro alive
  refine .ite ?_ (Keeps.pure ())
  refine keeps_requireHandle.bind ?_
  intro h
  exact (hP.keeps_setHandle _).bind fun _ => hP.keeps_rollbackHere h

theorem keeps_rollbackAll : Keeps P Scope.rollbackAll :=
  Keeps.currentLink.bind fun _ => .ite (hP.keeps_rollbackHere _) (Keeps.pure ())

theorem keeps_held {cleanup : Sys Unit} {x : Sys α} (hcleanup : Keeps P cleanup) (hx : Keeps P x)
    (operation : String) : Keeps P (Scope.held operation cleanup x) := by
  have hbody : Keeps P (do
      modify fun s => { s with scope := some { operation } }
      let outcome ← Sys.attempt x
      Scope.leave operation cleanup outcome : Sys α) := by
    refine Keeps.bind (fun _ h => hP.of_same h rfl rfl rfl) ?_
    intro _
    exact hx.attempt.bind fun outcome => Scope.keeps_leave hP.of_kept hcleanup operation outcome
  -- the scope from before is put back, which the property does not depend on
  exact fun sys h => hP.of_same (hbody sys h) rfl rfl rfl

theorem keeps_within {x : Sys α} (hx : Keeps P x) (bind : Bind) (operation : String) :
    Keeps P (Scope.within bind operation x) := by
  have hclosing : Keeps P (do
      let outcome ← Sys.attempt Scope.rollbackOpen
      Scope.rollbackAll
      Sys.ofExcept outcome) := by
    refine hP.keeps_rollbackOpen.attempt.bind ?_
    intro outcome
    exact hP.keeps_rollbackAll.bind fun _ => Keeps.ofExcept _
  cases bind with
  | connection => exact hP.keeps_held hP.keeps_rollbackOpen hx operation
  | engine reachable =>
    cases reachable with
    | false => exact hP.keeps_fail operation
    | true =>
      intro sys h
      have hfresh : P { sys with link := some {}, lent := sys.link.toList ++ sys.lent } :=
        hP.of_same (hP.fresh h) rfl rfl rfl
      have hafter := hP.keeps_held hclosing hx operation _ hfresh
      exact hP.of_same (hP.returned h hafter) rfl rfl rfl

theorem keeps_transaction {x : Sys α} (hx : Keeps P x) (bind : Bind) (operation : String) :
    Keeps P (Scope.transaction bind operation x) := by
  refine hP.keeps_within ?_ bind operation
  refine hP.keeps_begin.bind ?_
  intro _
  refine hx.bind ?_
  intro a
  exact hP.keeps_commit.bind fun _ => Keeps.pure a

end System.Lasting

/-! ## Guarded operations -/

/-- Whatever the evaluator's checks come to, they keep the property. -/
def Evaluator.Keeps (P : System → Prop) (e : Evaluator) : Prop :=
  ∀ onCallersLink s action r, Sys.Keeps P (e.check onCallersLink s action r)

section Guarded

variable {P : System → Prop} (hP : System.Lasting P)

include hP

theorem LocalEvaluator.keeps {ν : Type} [BEq ν] [ReflBEq ν] [Name ν] (e : LocalEvaluator ν) :
    e.toEvaluator.Keeps P := by
  intro onCallersLink s action r
  have hask : ∀ c target, Sys.Keeps P (ask c target) := by
    intro c target
    unfold ask
    cases Clause.nameFault?.ofAll c with
    | some f => exact Keeps.throw f
    | none =>
      refine hP.keeps_executeHere ⟨rfl, fun _ db b made hrun => ?_⟩
      unfold test at hrun
      dsimp only at hrun
      split at hrun
      case isTrue => simp at hrun
      case isFalse =>
        split at hrun
        case isTrue => simp at hrun
        case isFalse => exact (Prod.mk.inj (Except.ok.inj hrun)).2.symm
  refine Sys.Keeps.bind ?_ fun allowed => Keeps.pure _
  refine (hP.keeps_aside (Aside.configOr e.config)).bind ?_
  intro config
  refine (Keeps.ofExcept _).bind ?_
  intro c
  have hlogged : ∀ allowed, Sys.Keeps P (do
      if config.logs then logCheck s action r allowed
      return allowed) :=
    fun allowed => .ite (hP.keeps_aside ((aside_logCheck s action r allowed).bind fun _ => Aside.pure allowed))
      (Keeps.pure allowed)
  refine .ite ((hask c _).bind hlogged) (.ite ?_ ?_)
  · exact (hP.keeps_within (hask c _) _ _).bind hlogged
  · exact (Keeps.throw _).bind hlogged

variable {α : Type} {e : Evaluator}

theorem Mutation.keeps_guarded (he : e.Keeps P) {mutation : Sys α} (hmutation : mutation.Keeps P) (bind : Bind)
    (given : Option Config) (s : Subject) (r : Request) : Sys.Keeps P (guarded e bind given s r mutation) := by
  have hbody : Sys.Keeps P (body e s r mutation) := by
    refine hP.keeps_begin.bind ?_
    intro _
    refine (he _ _ _ _).bind ?_
    intro allowed
    have hmutates : Sys.Keeps P (do
        let a ← mutation
        Scope.commit
        return a) := by
      refine hmutation.bind ?_
      intro a
      exact hP.keeps_commit.bind fun _ => Keeps.pure a
    refine .ite (hP.keeps_rollback.bind ?_) hmutates
    exact fun _ => (Keeps.throw _).bind fun _ => hmutates
  refine (hP.keeps_aside (Aside.configOr given)).bind ?_
  intro config
  refine (hP.keeps_within hbody bind _).bind ?_
  intro a
  exact .ite (hP.keeps_aside ((Aside.log _ _ _).bind fun _ => Aside.pure a)) (Keeps.pure a)

theorem Batch.keeps_executed (bind : Bind) (b : Batch) : Sys.Keeps P (execute bind b) := by
  have hbody : Sys.Keeps P (body b) := by
    refine hP.keeps_begin.bind ?_
    intro _
    refine (hP.keeps_execute (Link.Statement.prompt_of_writes rfl rfl)).bind ?_
    intro count
    have hcommits : Sys.Keeps P (do
        Scope.commit
        return count) :=
      hP.keeps_commit.bind fun _ => Keeps.pure count
    refine .ite (hP.keeps_rollback.bind fun _ => ?_) hcommits
    exact hP.keeps_aside (Aside.log _ _ _) |>.bind fun _ => (Keeps.throw _).bind fun _ => hcommits
  refine (hP.keeps_within hbody bind _).bind ?_
  intro count
  exact .ite (hP.keeps_aside ((Aside.log _ _ _).bind fun _ => Aside.pure count)) (Keeps.pure count)

theorem Listing.keeps_list (he : e.OnlyAnswers) (bind : Bind) (given : Option Config) (s : Subject)
    (r : Request) : Sys.Keeps P (list e bind given s r) := by
  refine (hP.keeps_aside (Aside.configOr given)).bind ?_
  intro config
  refine (hP.keeps_aside (aside_plan he s r)).bind ?_
  intro p
  have hexecute : Sys.Keeps P (execute bind p) :=
    (hP.keeps_within (hP.keeps_execute ⟨rfl, fun _ => reads_statement p⟩) bind _).bind fun rows => Keeps.ofExcept _
  refine hexecute.bind ?_
  intro l
  exact hP.keeps_aside ((aside_logListed _ _ _ _).bind fun _ => Aside.pure l)

end Guarded

/-! ## Services -/

namespace Records

open Link.Statement

variable {P : System → Prop} {c : Context} {channel : Channel} {refusal failure : String} (hP : System.Lasting P)

include hP

theorem keeps_reporting {service : Sys Outcome} (h : Keeps P service) :
    Keeps P (reporting channel refusal failure service) :=
  h.handling fun f => hP.keeps_aside (aside_report channel refusal failure f)

theorem keeps_loggingFaults {α : Type} {service : Sys α} (h : Keeps P service) :
    Keeps P (loggingFaults channel failure service) := by
  refine h.handling ?_
  intro f
  exact .ite (hP.keeps_aside ((Aside.log _ _ _).bind fun _ => Aside.throw f)) ((Keeps.pure ()).bind fun _ =>
    Keeps.throw f)

theorem keeps_mutate {α : Type} {mutation : Sys α} (hcheck : c.evaluator.Keeps P) (hmutation : Keeps P mutation)
    (action : String) (r : Resource) : Keeps P (c.mutate action r mutation) :=
  Mutation.keeps_guarded hP hcheck hmutation c.bind c.config c.subject _

theorem keeps_insertDocument (org title owner : Data) : Keeps P (insertDocument org title owner) := by
  refine (hP.keeps_executeHere (prompt_insertReturning _ _ _)).bind ?_
  intro stored
  exact (hP.keeps_executeHere (prompt_insert _ _)).bind fun _ => Keeps.pure _

theorem keeps_editRoles (he : c.evaluator.OnlyAnswers) (updates : List (String × Data)) :
    Keeps P (editRoles c updates) := by
  refine (Keeps.ofExcept _).bind ?_
  intro unknown
  have hedits : Keeps P (do
      let b ← Batch.planUpdate c.evaluator c.config c.subject (roleEdit updates)
      Batch.execute c.bind b) :=
    (hP.keeps_aside (Batch.aside_planUpdate he _ _ _)).bind fun b => Batch.keeps_executed hP c.bind b
  refine .ite ((Keeps.throw _).bind fun _ => ?_) ?_
  · exact keeps_loggingFaults hP hedits
  · exact keeps_loggingFaults hP hedits

/-- A call of a service keeps what lasts. -/
theorem Service.keeps_run (v : Service) (he : c.evaluator.OnlyAnswers) (hcheck : c.evaluator.Keeps P) :
    Keeps P (v.run c) := by
  cases v with
  | createUser username org role =>
    refine (Keeps.ite (Keeps.pure _) (keeps_reporting hP ?_)).map _
    refine (keeps_mutate hP hcheck (hP.keeps_executeHere (prompt_insert _ _)) _ _).bind ?_
    exact fun _ => hP.keeps_aside ((Aside.log _ _ _).bind fun _ => Aside.pure _)
  | deleteUser username =>
    refine (Keeps.ite (Keeps.throw _) (keeps_loggingFaults hP ?_)).map _
    refine keeps_mutate hP hcheck ?_ _ _
    exact (hP.keeps_executeHere (prompt_delete _ _)).bind fun _ => Keeps.pure ()
  | editRoles updates => exact (keeps_editRoles hP he _).map _
  | createOrganization name =>
    refine (Keeps.ite (Keeps.pure _) (keeps_reporting hP ?_)).map _
    refine (keeps_mutate hP hcheck (hP.keeps_executeHere (prompt_insert _ _)) _ _).bind ?_
    exact fun _ => hP.keeps_aside ((Aside.log _ _ _).bind fun _ => Aside.pure _)
  | createDocument org title =>
    refine (keeps_reporting hP ?_).map _
    refine (keeps_mutate hP hcheck (keeps_insertDocument hP _ _ _) _ _).bind ?_
    exact fun _ => hP.keeps_aside ((Aside.log _ _ _).bind fun _ => Aside.pure _)
  | setDocumentPublic id isPublic =>
    refine (keeps_mutate hP hcheck ?_ _ _).map _
    exact (hP.keeps_executeHere (prompt_update _ _ _)).bind fun _ => Keeps.pure ()
  | shareDocument id username role =>
    refine (Keeps.ite (Keeps.pure _) (keeps_reporting hP ?_)).map _
    refine (keeps_mutate hP hcheck ?_ _ _).bind fun _ => Keeps.pure _
    exact (hP.keeps_executeHere (prompt_delete _ _)).bind fun _ => hP.keeps_executeHere (prompt_insert _ _)
  | deleteDocument id =>
    refine (keeps_mutate hP hcheck ?_ _ _).map _
    refine (hP.keeps_executeHere (prompt_delete _ _)).bind ?_
    intro _
    exact (hP.keeps_executeHere (prompt_delete _ _)).bind fun _ => Keeps.pure ()
  | listUsers => exact (keeps_loggingFaults hP (Listing.keeps_list hP he _ _ _ _)).map _
  | listDocuments => exact (Listing.keeps_list hP he _ _ _ _).map _
  | organizationsToManage =>
    refine Keeps.map ?_ _
    rw [Service.organizationsToManage_eq]
    refine (hP.keeps_aside (Service.aside_compileManaged he)).bind ?_
    intro f
    exact hP.keeps_within (hP.keeps_execute ⟨rfl, fun _ => Service.reads_organizationNames f⟩) _ _

/-- Setting up the database keeps what lasts, if creating the tables that are missing does. -/
theorem keeps_setUp {bind : Bind} (htables : Keeps P (createTables bind)) : Keeps P (setUp bind) := by
  have hensure : ∀ s key message, ∀ insertion : Sys Unit, Keeps P insertion →
      Keeps P (ensure s key insertion message) := by
    intro s key message insertion hinsertion
    refine (hP.keeps_executeHere (prompt_select _ _)).bind ?_
    intro rows
    exact .ite (hinsertion.bind fun _ => hP.keeps_aside (Aside.log _ _ _)) (Keeps.pure ())
  refine htables.bind ?_
  intro _
  refine hP.keeps_transaction ?_ bind _
  refine (hensure _ _ _ _ (hP.keeps_executeHere (prompt_insert _ _))).bind ?_
  exact fun _ => hensure _ _ _ _ (hP.keeps_executeHere (prompt_insert _ _))

end Records

end RowGuard
