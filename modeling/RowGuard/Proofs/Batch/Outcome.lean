import RowGuard.Batch.Execution
import RowGuard.Proofs.Session.Outermost

/-!
# What a batch comes to

A batch that gets a connection of its own ends in one of four ways: its statement fails, or reaches another
number of rows than there are targets, or cannot be committed, or is committed. Only in the last case is
anything stored (`execute_engine_apply`).
-/

namespace RowGuard

namespace Scope

/-- The first statement of a transaction ends as it does beside the other connections. The transaction goes on,
on an intact connection that holds back what the statement has made. -/
theorem execute_started {α : Type} {st : Link.Statement α} (hwrites : st.writes = true)
    (hdefers : st.defers = false) (operation : String) (sys : System) :
    ∃ sys' l, execute st (started operation sys) =
        (report operation ((st.tried sys.lent sys.disk).map (·.1)), sys') ∧
      GoesOn operation sys sys' ∧ sys'.link = some l ∧ l.InProgress ∧
      ∀ outcome, st.tried sys.lent sys.disk = .ok outcome → l.HasMade outcome.2 := by
  obtain ⟨l, hexecute, hl, hmade⟩ := @Link.HasLooked.execute _ st sys.lent sys.disk _ Link.hasLooked_begun hwrites hdefers
  have hlink : (started operation sys).link = some Link.begun := rfl
  obtain ⟨journal, hstatement⟩ := execute_apply hlink rfl hexecute
  exact ⟨_, l, hstatement, ⟨rfl, rfl, rfl, l, rfl, hl.inTransaction_eq⟩, rfl, hl, hmade⟩

end Scope

namespace Batch

variable {b : Batch} {sys : System}

/-- The refusal of a batch that does not reach all of its targets. -/
def denial (b : Batch) : Fault := .denied (Denial.ofBatch b.subject b.action b.type)

/-- What a batch comes to beside other connections, and what is stored then. -/
def outcome (b : Batch) (others : List Link) (db : Database) : Except Fault Nat × Database :=
  match b.statement.tried others db with
  | .error f => (Scope.report b.operation (.error f), db)
  | .ok (count, made) =>
    if count ≠ b.targets.length then (.error b.denial, db)
    else if others.any Link.isReading then (.error (.dataAccess b.operation), db)
    else (.ok count, made)

theorem report_outcome (others : List Link) (db : Database) :
    Scope.report b.operation (b.outcome others db).1 = (b.outcome others db).1 := by
  unfold outcome
  cases b.statement.tried others db with
  | error f =>
    dsimp only
    exact Scope.report_report _ _ _
  | ok pair =>
    dsimp only
    split
    case isTrue => rfl
    case isFalse =>
      split
      case isTrue => rfl
      case isFalse => rfl

/-- A batch that succeeds has reached as many rows as there are targets, and could be committed; what its
statement has made is stored. -/
theorem tried_of_outcome_ok {others : List Link} {db : Database} {n : Nat}
    (h : (b.outcome others db).1 = .ok n) :
    b.statement.tried others db = .ok (n, (b.outcome others db).2) ∧ n = b.targets.length ∧
      others.any Link.isReading = false := by
  unfold outcome at h ⊢
  cases htried : b.statement.tried others db with
  | error f => simp [htried, Scope.report] at h
  | ok pair =>
    obtain ⟨count, made⟩ := pair
    rw [htried] at h
    dsimp only at h ⊢
    by_cases hlength : count = b.targets.length
    · rw [if_neg (not_not.mpr hlength)] at h ⊢
      cases hread : others.any Link.isReading with
      | true => simp [hread] at h
      | false =>
        rw [hread, if_neg Bool.false_ne_true] at h
        obtain rfl : count = n := Except.ok.inj h
        exact ⟨rfl, hlength, rfl⟩
    · simp [hlength] at h

/-- A batch that fails stores nothing. -/
theorem stored_of_outcome_error {others : List Link} {db : Database} {f : Fault}
    (h : (b.outcome others db).1 = .error f) : (b.outcome others db).2 = db := by
  unfold outcome at h ⊢
  cases htried : b.statement.tried others db with
  | error e => rfl
  | ok pair =>
    rw [htried] at h
    dsimp only at h ⊢
    split
    case isTrue => rfl
    case isFalse hlength =>
      rw [if_neg hlength] at h
      cases hread : others.any Link.isReading with
      | true => rfl
      | false => simp [hread] at h

/-- What is done once the transaction has begun. -/
def carryOut (b : Batch) : Sys Nat := do
  let count ← Scope.execute b.statement
  if count ≠ b.targets.length then
    Scope.rollback
    logUndone b count
    throw b.denial
  Scope.commit
  return count

theorem body_eq (b : Batch) : body b = (do Scope.begin; carryOut b) := rfl

/-- A batch comes to what its outcome says, and only that is stored. -/
theorem ends_outcome (b : Batch) (sys : System) :
    Scope.Ends b.operation sys (carryOut b) (b.outcome sys.lent sys.disk).1
      (b.outcome sys.lent sys.disk).2 := by
  obtain ⟨sys₁, l, hstatement, hgoes, hlink, hl, hmade⟩ :=
    Scope.execute_started (rfl : b.statement.writes = true) rfl b.operation sys
  unfold outcome
  cases htried : b.statement.tried sys.lent sys.disk with
  | error f =>
    rw [htried] at hstatement
    exact .of_stopped (Sys.bind_of_error hstatement) hgoes
  | ok pair =>
    obtain ⟨count, made⟩ := pair
    rw [htried] at hstatement
    have hmade := hmade _ htried
    have hrest : carryOut b (Scope.started b.operation sys) = (if count ≠ b.targets.length then do
        Scope.rollback; logUndone b count; throw b.denial else do Scope.commit; return count : Sys Nat)
          sys₁ := by
      unfold carryOut
      rw [Sys.bind_of_ok hstatement]
      by_cases hcount : count = b.targets.length <;> simp [hcount]
    dsimp only
    split at hrest
    case isTrue hcount =>
      rw [if_pos hcount]
      exact .of_refused hrest (fun sys => ⟨_, rfl⟩) hgoes hlink hl
    case isFalse hcount =>
      -- the count is that of the targets: what is left is the commit
      rw [if_neg hcount]
      have hfinished := Scope.Ends.of_finished hrest hgoes
      rw [System.canCommit_of_some hlink, System.seen_of_some hlink, hmade.canCommit_eq, hgoes.lent,
        hmade.view_eq] at hfinished
      cases hread : sys.lent.any Link.isReading with
      | true =>
        rw [hread] at hfinished
        exact hfinished
      | false =>
        rw [hread] at hfinished
        exact hfinished

/-- A batch ends as its scope does, and may log that it was committed. -/
theorem execute_of_within {bind : Bind} {outcome : Except Fault Nat} {sys' : System}
    (h : Scope.within bind b.operation (body b) sys = (outcome, sys')) :
    ∃ journal, execute bind b sys = (outcome, { sys' with journal }) := by
  unfold execute
  cases outcome with
  | error f => exact ⟨_, Sys.bind_of_error h⟩
  | ok count =>
    rw [Sys.bind_of_ok h]
    cases b.config.logs with
    | false => exact ⟨_, rfl⟩
    | true => exact ⟨_, rfl⟩

/-- What a batch comes to on a connection of its own, if one can be had, and what is stored then. -/
def answer (b : Batch) (reachable : Bool) (others : List Link) (db : Database) : Except Fault Nat × Database :=
  if reachable then b.outcome others db else (.error (.dataAccess b.operation), db)

/-- A batch comes to its answer, and the connections in use are as before. -/
theorem execute_answer (b : Batch) (reachable : Bool) (sys : System) :
    ∃ sys', execute (.engine reachable) b sys = ((b.answer reachable sys.others sys.disk).1, sys') ∧
      sys'.disk = (b.answer reachable sys.others sys.disk).2 ∧ sys'.link = sys.link ∧ sys'.lent = sys.lent := by
  cases reachable with
  | false =>
    unfold execute
    exact ⟨_, Sys.bind_of_error Scope.fail_apply, rfl, rfl, rfl⟩
  | true =>
    obtain ⟨sys₁, hwithin, hdisk, hlink, hlent, _⟩ :=
      Scope.within_engine_of_ends (ends_outcome b { sys with lent := sys.others })
    rw [← body_eq, report_outcome] at hwithin
    obtain ⟨journal, hexecute⟩ := execute_of_within hwithin
    exact ⟨_, hexecute, hdisk, hlink, hlent⟩

/-- A batch on a connection of its own comes to what its outcome says, and only that is stored. -/
theorem execute_engine_apply (b : Batch) (sys : System) :
    ∃ sys', execute (.engine true) b sys =
        ((b.outcome sys.others sys.disk).1, sys') ∧
      sys'.disk = (b.outcome sys.others sys.disk).2 := by
  obtain ⟨sys', hexecute, hdisk, _⟩ := execute_answer b true sys
  exact ⟨sys', hexecute, hdisk⟩

/-- A batch whose connection cannot be had fails and stores nothing. -/
theorem execute_unreachable_apply (b : Batch) (sys : System) :
    ∃ sys', execute (.engine false) b sys = (.error (.dataAccess b.operation), sys') ∧
      sys'.disk = sys.disk := by
  obtain ⟨sys', hexecute, hdisk, _⟩ := execute_answer b false sys
  exact ⟨sys', hexecute, hdisk⟩

end Batch

end RowGuard
