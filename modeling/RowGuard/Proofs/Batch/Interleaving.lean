import RowGuard.Proofs.Batch.AllOrNothing
import RowGuard.Proofs.Batch.Planning
import RowGuard.Proofs.Listing.Agreement

/-!
# Interleaved batches

Clients plan batches, and carry out later what they have planned; in between, other clients do the same, and
anything else may be stored. Each batch answers what it would answer if it were planned there and then, and the
database ends as it would (`decided_when_executed`): a plan says nothing about what is stored, and whether every
target may be changed is found out in the transaction that changes them. So what counts for a batch is what is
permitted when it is carried out, not when it is planned.
-/

namespace RowGuard.Batch

variable {ν : Type} [BEq ν] [ReflBEq ν] [Name ν] {ι : Type}

/-- Something that happens: a job is planned, a job that was planned is carried out, or somebody else has
committed a change of the database. -/
inductive Step (ι : Type) where
  | plan (i : ι)
  | execute (i : ι)
  | write (change : Database → Database)

/-- How far things have come: the system, what the last planning of each job came to, and what was answered, the
earliest first. -/
structure Course (ι : Type) where
  system : System
  plans : ι → Option (Except Fault Batch) := fun _ => none
  answers : List (ι × Except Fault Nat) := []

namespace Course

/-- The course with another plan of a job. -/
def planned [DecidableEq ι] (c : Course ι) (i : ι) (reply : Except Fault Batch × System) : Course ι :=
  { c with system := reply.2, plans := Function.update c.plans i (some reply.1) }

/-- The course with another answer. -/
def answered (c : Course ι) (i : ι) (reply : Except Fault Nat × System) : Course ι :=
  { c with system := reply.2, answers := c.answers ++ [(i, reply.1)] }

/-- The course with another database. -/
def written (c : Course ι) (change : Database → Database) : Course ι :=
  { c with system := { c.system with disk := change c.system.disk } }

end Course

namespace Step

/-- A step of clients that plan first and carry out later. A job that was not planned is not carried out, and one
whose planning has failed fails likewise. -/
def run [DecidableEq ι] (jobs : ι → Job ν) (c : Course ι) : Step ι → Course ι
  | plan i => c.planned i ((jobs i).plan c.system)
  | execute i => ((c.plans i).map fun outcome => c.answered i ((jobs i).carryOut outcome c.system)).getD c
  | write change => c.written change

/-- A step of clients that plan nothing beforehand: a job is run as a whole when it is carried out. -/
def runWhole (jobs : ι → Job ν) (c : Course ι) : Step ι → Course ι
  | plan _ => c
  | execute i => c.answered i ((jobs i).run c.system)
  | write change => c.written change

/-- What a step makes of what is stored and was answered, if every job is decided when it is carried out. -/
def decide (jobs : ι → Job ν) (g : Globals) (others : List Link)
    (state : Database × List (ι × Except Fault Nat)) : Step ι → Database × List (ι × Except Fault Nat)
  | plan _ => state
  | execute i =>
    (((jobs i).answer g others state.1).2, state.2 ++ [(i, ((jobs i).answer g others state.1).1)])
  | write change => (change state.1, state.2)

end Step

variable (jobs : ι → Job ν) {sys : System} {steps : List (Step ι)} {s : Step ι} {c : Course ι} {i : ι}

/-- The course of steps with plans that are made beforehand. -/
def interleaved [DecidableEq ι] (sys : System) (steps : List (Step ι)) : Course ι :=
  steps.foldl (Step.run jobs) { system := sys }

/-- The course of steps with jobs that are run as a whole. -/
def atOnce (sys : System) (steps : List (Step ι)) : Course ι := steps.foldl (Step.runWhole jobs) { system := sys }

/-- What the steps make of what is stored and answered, if every job is decided when it is carried out. -/
def decided (sys : System) (steps : List (Step ι)) : Database × List (ι × Except Fault Nat) :=
  steps.foldl (Step.decide jobs sys.globals sys.others) (sys.disk, [])

/-- Whatever is carried out has been planned before. -/
def PlannedFirst (steps : List (Step ι)) : Prop :=
  ∀ before i after, steps = before ++ .execute i :: after → .plan i ∈ before

/-- The course agrees with what is decided when jobs are carried out, in the setting in which it began. -/
structure Course.Agrees (sys : System) (steps : List (Step ι)) (c : Course ι) : Prop where
  setting : sys.SameSetting c.system
  disk : c.system.disk = (decided jobs sys steps).1
  answers : c.answers = (decided jobs sys steps).2

/-! ## Steps -/

theorem decided_concat (sys : System) (steps : List (Step ι)) (s : Step ι) :
    decided jobs sys (steps ++ [s]) = s.decide jobs sys.globals sys.others (decided jobs sys steps) := by
  unfold decided
  rw [List.foldl_append]
  rfl

namespace Course.Agrees

variable {jobs}

/-- A job that comes to its answer is decided when it is carried out. -/
theorem answered (h : c.Agrees jobs sys steps) {reply : Except Fault Nat × System}
    (hreply : ∃ sys', reply = (((jobs i).answer c.system.globals c.system.others c.system.disk).1, sys') ∧
      sys'.disk = ((jobs i).answer c.system.globals c.system.others c.system.disk).2 ∧
      c.system.SameSetting sys') : (c.answered i reply).Agrees jobs sys (steps ++ [.execute i]) := by
  obtain ⟨sys', rfl, hdisk, hsetting⟩ := hreply
  rw [h.setting.globals, h.setting.others, h.disk] at hdisk
  refine ⟨h.setting.trans hsetting, ?_, ?_⟩
  · rw [decided_concat]
    exact hdisk
  · rw [decided_concat]
    unfold Course.answered
    rw [h.setting.globals, h.setting.others, h.disk, h.answers]
    rfl

theorem written (h : c.Agrees jobs sys steps) (change : Database → Database) :
    (c.written change).Agrees jobs sys (steps ++ [.write change]) where
  setting := h.setting.trans ⟨rfl, rfl, rfl⟩
  disk := by
    rw [decided_concat]
    exact congrArg change h.disk
  answers := by
    rw [decided_concat]
    exact h.answers

/-- A step with plans keeps to what is decided when jobs are carried out, if it carries out what the job's
planning comes to. -/
theorem run [DecidableEq ι] (h : c.Agrees jobs sys steps)
    (hplanned : ∀ i, s = .execute i → c.plans i = some ((jobs i).planned sys.globals)) :
    (s.run jobs c).Agrees jobs sys (steps ++ [s]) := by
  cases s with
  | plan i =>
    refine ⟨h.setting.trans (.of_kept ((jobs i).aside_plan.kept c.system)), ?_, ?_⟩
    · rw [decided_concat]
      exact ((jobs i).aside_plan.kept c.system).disk.trans h.disk
    · rw [decided_concat]
      exact h.answers
  | execute i =>
    have hrun : (Step.execute i).run jobs c =
        c.answered i ((jobs i).carryOut ((jobs i).planned c.system.globals) c.system) := by
      rw [h.setting.globals]
      simp only [Step.run, hplanned i rfl, Option.map_some, Option.getD_some]
    rw [hrun]
    exact h.answered ((jobs i).carryOut_apply c.system)
  | write change => exact h.written change

/-- A step with jobs that are run as a whole keeps to what is decided when they are carried out. -/
theorem runWhole (h : c.Agrees jobs sys steps) : (s.runWhole jobs c).Agrees jobs sys (steps ++ [s]) := by
  cases s with
  | plan i =>
    refine ⟨h.setting, ?_, ?_⟩
    · rw [decided_concat]
      exact h.disk
    · rw [decided_concat]
      exact h.answers
  | execute i => exact h.answered ((jobs i).run_apply c.system)
  | write change => exact h.written change

end Course.Agrees

/-! ## Courses -/

theorem interleaved_concat [DecidableEq ι] (sys : System) (steps : List (Step ι)) (s : Step ι) :
    interleaved jobs sys (steps ++ [s]) = s.run jobs (interleaved jobs sys steps) := by
  unfold interleaved
  rw [List.foldl_append]
  rfl

theorem atOnce_concat (sys : System) (steps : List (Step ι)) (s : Step ι) :
    atOnce jobs sys (steps ++ [s]) = s.runWhole jobs (atOnce jobs sys steps) := by
  unfold atOnce
  rw [List.foldl_append]
  rfl

theorem PlannedFirst.of_append {before after : List (Step ι)} (h : PlannedFirst (before ++ after)) :
    PlannedFirst before := by
  rintro first i rest rfl
  exact h first i (rest ++ after) (by simp)

/-- Jobs that are run as a whole are decided when they are carried out. -/
theorem agrees_atOnce (sys : System) (steps : List (Step ι)) :
    (atOnce jobs sys steps).Agrees jobs sys steps := by
  induction steps using List.reverseRecOn with
  | nil => exact ⟨.refl sys, rfl, rfl⟩
  | append_singleton steps s ih =>
    rw [atOnce_concat]
    exact ih.runWhole

section Plans

variable [DecidableEq ι]

/-- A step that plans another job, or none, leaves the plan of a job as it is. -/
theorem plans_run_of_ne (h : s ≠ .plan i) : (s.run jobs c).plans i = c.plans i := by
  cases s with
  | plan k => exact Function.update_of_ne (fun heq => h (congrArg Step.plan heq.symm)) _ _
  | execute k => cases hplans : c.plans k <;> simp [Step.run, hplans, Course.answered]
  | write change => rfl

/-- A step that plans a job comes to what the global state says. -/
theorem plans_run_plan : ((Step.plan i).run jobs c).plans i = some ((jobs i).planned c.system.globals) := by
  show Function.update c.plans i (some ((jobs i).plan c.system).1) i = _
  rw [Function.update_self, (jobs i).plan_fst]

/-- With plans that are made beforehand, jobs are decided when they are carried out: what has been planned is what
planning would come to there and then. -/
theorem agrees_interleaved (sys : System) (h : PlannedFirst steps) :
    (interleaved jobs sys steps).Agrees jobs sys steps ∧
      ∀ i, .plan i ∈ steps → (interleaved jobs sys steps).plans i = some ((jobs i).planned sys.globals) := by
  induction steps using List.reverseRecOn with
  | nil => exact ⟨⟨.refl sys, rfl, rfl⟩, by simp⟩
  | append_singleton steps s ih =>
    obtain ⟨hagrees, hplans⟩ := ih h.of_append
    rw [interleaved_concat]
    refine ⟨hagrees.run ?_, ?_⟩
    · rintro i rfl
      exact hplans i (h steps i [] rfl)
    · intro i hi
      by_cases hs : s = .plan i
      · rw [hs, plans_run_plan, hagrees.setting.globals]
      · have hmem : .plan i ∈ steps := by
          rcases List.mem_append.mp hi with hmem | hmem
          · exact hmem
          · exact absurd (List.mem_singleton.mp hmem).symm hs
        rw [plans_run_of_ne jobs hs, hplans i hmem]

/-- A job that was planned answers what it would answer if it were planned when it is carried out. -/
theorem interleaved_execute (sys : System) {before after : List (Step ι)}
    (h : PlannedFirst (before ++ .execute i :: after)) :
    (interleaved jobs sys before).plans i = some ((jobs i).planned sys.globals) ∧
      (interleaved jobs sys (before ++ [.execute i])).answers = (interleaved jobs sys before).answers ++
        [(i, ((jobs i).answer sys.globals sys.others (interleaved jobs sys before).system.disk).1)] ∧
      (interleaved jobs sys (before ++ [.execute i])).system.disk =
        ((jobs i).answer sys.globals sys.others (interleaved jobs sys before).system.disk).2 := by
  obtain ⟨hnow, hplans⟩ := agrees_interleaved jobs sys h.of_append
  have hfirst : PlannedFirst ((before ++ [.execute i]) ++ after) := by simpa using h
  have hnext := (agrees_interleaved jobs sys hfirst.of_append).1
  have hdecided := decided_concat jobs sys before (.execute i)
  refine ⟨hplans i (h before i after rfl), ?_, ?_⟩
  · rw [hnext.answers, hdecided, hnow.answers, hnow.disk]
    rfl
  · rw [hnext.disk, hdecided, hnow.disk]
    rfl

end Plans

/-! ## The moment that counts -/

/-- The batch that a job was planned to be has the request's targets and tests the condition for its action. -/
theorem Job.condition_of_planned {j : Job ν} {b : Batch} (h : j.planned sys.globals = .ok b) :
    b.targets = j.request.targets ∧ ∃ condition,
      j.evaluator.condition (j.evaluator.configIn sys) j.subject j.request.action j.request.type = .ok condition ∧
        b.fragment.predicate = .condition condition := by
  unfold Job.planned at h
  obtain ⟨m, _, h⟩ := Outcome.bind_eq_ok_iff.mp h
  obtain ⟨_, _, h⟩ := Outcome.bind_eq_ok_iff.mp h
  obtain ⟨change, _, h⟩ := Outcome.bind_eq_ok_iff.mp h
  obtain ⟨fragment, hplaced, h⟩ := Outcome.bind_eq_ok_iff.mp h
  obtain ⟨condition, sql, hcondition, _, rfl⟩ := LocalEvaluator.placed_eq_ok_iff.mp hplaced
  obtain rfl := Except.ok.inj h
  exact ⟨rfl, condition, hcondition, rfl⟩

section Answer

variable {b : Batch} {reachable : Bool} {others : List Link} {db : Database} {t : Table}
  (htable : db.table? b.mapping.table.name = some t)
  (hplain : ∀ target ∈ b.targets, target.identity.IsPlain) (hdistinct : b.Distinct t.rows)

include htable hplain hdistinct

/-- Where some target is not reached, nothing is changed; if the statement runs, the batch is denied. -/
theorem answer_of_not_reachesAll (hdenied : ¬ b.ReachesAll db t) :
    (b.answer reachable others db).2 = db ∧ ∃ f, (b.answer reachable others db).1 = .error f ∧
      (b.Runs reachable others db → f = b.denial) := by
  cases reachable with
  | false => exact ⟨rfl, _, rfl, fun hruns => absurd hruns.reachable Bool.false_ne_true⟩
  | true =>
    show (b.outcome others db).2 = db ∧ ∃ f, (b.outcome others db).1 = .error f ∧ _
    cases houtcome : (b.outcome others db).1 with
    | ok n => exact absurd (outcome_of_ok htable hplain hdistinct houtcome).2.1 hdenied
    | error f =>
      obtain ⟨hkept, hdenial, _⟩ := outcome_of_error htable hplain hdistinct houtcome
      exact ⟨hkept, f, rfl, fun hruns => hdenial ⟨hruns, hdenied⟩⟩

/-- Where all targets are reached, the batch succeeds if its statement runs and can be committed. -/
theorem answer_of_reachesAll (hall : b.ReachesAll db t) (hruns : b.Runs reachable others db)
    (hread : others.any Link.isReading = false) :
    (b.answer reachable others db).1 = .ok b.targets.length ∧
      b.apply db = .ok ((b.answer reachable others db).2, b.targets.length) := by
  obtain rfl := hruns.reachable
  obtain ⟨n, hn⟩ := exists_outcome_eq_ok htable hplain hdistinct hruns hall hread
  obtain ⟨_, _, _, rfl, happly⟩ := outcome_of_ok htable hplain hdistinct hn
  exact ⟨hn, happly⟩

end Answer

/-- What it comes to that a job is carried out, by the rows and roles of this moment: unless every target may be
changed and is still there in its turn, nothing is changed, and the batch is denied if its statement runs; if every
target may be changed and is there, the batch succeeds if its statement runs and nobody relies on the database as it
was, and its change is stored. -/
structure Course.Turns (j : Job ν) (i : ι) (b : Batch) (others : List Link) (t : Table)
    (now next : Course ι) : Prop where
  denied : ¬ b.ReachesAll now.system.disk t → next.system.disk = now.system.disk ∧
    ∃ f, next.answers = now.answers ++ [(i, .error f)] ∧
      (b.Runs j.reachable others now.system.disk → f = b.denial)
  granted : b.ReachesAll now.system.disk t → b.Runs j.reachable others now.system.disk →
    others.any Link.isReading = false → next.answers = now.answers ++ [(i, .ok b.targets.length)] ∧
      b.apply now.system.disk = .ok (next.system.disk, b.targets.length)

end RowGuard.Batch

/-! ## On a shelf -/

namespace RowGuard.Shelf

open Batch

/-- The reader discards the only document. -/
def discard : Job String where
  evaluator := evaluator .text
  subject := reader
  deletes := true
  request := { action := .text "read", type := .text "Doc", targets := [⟨.text "d", []⟩] }

/-- The batch that discarding is planned to be. -/
def discarding : Batch where
  subject := reader
  action := .text "read"
  type := .text "Doc"
  mapping := mapping
  targets := discard.request.targets
  change := .delete
  excluded := none
  fragment :=
    { LocalEvaluator.fragmentFor (.text "read") (.text "Doc") (.text "docs.id") (readable .text) (readSql "'07'") with
      embedded := true }
  config := {}

/-- The document without readers. -/
def unread : Database := ⟨[⟨documents, [[.text "d"]]⟩, ⟨documentRoles, []⟩]⟩

/-- Discarding is planned, then the given database is stored, and then discarding is carried out. -/
def steps (db : Database) : List (Step Unit) := [.plan (), .write fun _ => db, .execute ()]

theorem plannedFirst_steps (db : Database) : PlannedFirst (steps db) := by
  rintro before i after h
  match before with
  | [] => simp [steps] at h
  | [_] => simp [steps] at h
  | first :: _ :: _ =>
    obtain rfl : first = .plan i := by simpa [steps] using (List.cons.inj h).1.symm
    exact List.mem_cons_self

theorem planned_discard : discard.planned system.globals = .ok discarding := by
  have hplaced : discard.evaluator.placed {} reader (.text "read") (.text "Doc") (.text "docs.id") =
      .ok discarding.fragment :=
    LocalEvaluator.placed_eq_ok_iff.mpr ⟨_, _, condition_read .text, compiles_text, rfl⟩
  have htargets : checkTargets {} discard.request.targets = .ok () := by decide +kernel
  unfold Job.planned
  show (system.globals.registry.lookup (.text "Doc") >>= _) = _
  rw [lookup_doc, Outcome.ok_bind]
  show (checkTargets {} discard.request.targets >>= _) = _
  rw [htargets, Outcome.ok_bind]
  show (discard.evaluator.placed {} reader (.text "read") (.text "Doc") (.text "docs.id") >>= _) = _
  rw [hplaced]
  rfl

/-- The course of steps from a database. -/
def course (stored : Database) : List (Step Unit) → Course Unit :=
  interleaved (fun _ => discard) { system with disk := stored }

/-- How far things have come when discarding is carried out. -/
theorem course_before_execute (stored db : Database) :
    (course stored [.plan (), .write fun _ => db]).plans () = some (.ok discarding) ∧
      (course stored [.plan (), .write fun _ => db]).system.disk = db ∧
      (course stored [.plan (), .write fun _ => db]).answers = [] := by
  have hfirst : PlannedFirst ([.plan (), .write fun _ => db] ++ [.execute ()]) := plannedFirst_steps db
  obtain ⟨hagrees, hplans⟩ := agrees_interleaved (fun _ => discard) { system with disk := stored } hfirst.of_append
  exact ⟨(hplans () List.mem_cons_self).trans (congrArg some planned_discard), hagrees.disk, hagrees.answers⟩

theorem isPlain_discard : ∀ target ∈ discard.request.targets, target.identity.IsPlain := by
  simp [discard, Data.IsPlain, Data.text]

theorem distinct_documents : discarding.Distinct [[.text "d"]] := by
  unfold Distinct
  decide +kernel

theorem reachesAll_database : discarding.ReachesAll database ⟨documents, [[.text "d"]]⟩ :=
  (counted_eq_iff isPlain_discard distinct_documents).mp (by decide +kernel)

theorem not_reachesAll_unread : ¬ discarding.ReachesAll unread ⟨documents, [[.text "d"]]⟩ :=
  (counted_eq_iff isPlain_discard distinct_documents).not.mp (by decide +kernel)

theorem runs_discarding {db : Database} (h : db = database ∨ db = unread) : discarding.Runs true [] db := by
  have hwhole : discarding.fragment.isWhole = true := by
    have hsql : discarding.fragment.sql.plain = readSql "'07'" := rfl
    unfold Fragment.isWhole
    rw [hsql]
    simpa using settled_read.whole
  have hruns : discarding.fragment.runs db mapping.table = true := by
    have hreads : (readable .text).runs db = true := by rcases h with rfl | rfl <;> decide +kernel
    have hparts : discarding.fragment.runs db mapping.table =
        (discarding.fragment.isWhole && (readable .text).isReadable && (readable .text).runs db &&
          (!(readable .text).mentionsTarget || isUsableRef mapping.table "docs.id")) := rfl
    simp only [hparts, hwhole, hreads, Bool.and_eq_true, true_and, and_true]
    decide +kernel
  refine ⟨rfl, rfl, ⟨by decide +kernel, hruns, by decide +kernel⟩, ?_⟩
  rcases h with rfl | rfl
  · decide +kernel
  · decide +kernel

end RowGuard.Shelf
