import RowGuard.Batch.Meaning
import RowGuard.Evaluator.Basic

/-!
# Carrying out batches

A batch is planned before a connection is used: it is validated and its fragment compiled. It is then
carried out in one transaction, in which the number of rows reached is compared with the number of
targets. Anything but equality, be it because a row does not exist or because the subject may not change
it, rolls everything back and is a denial.
-/

namespace RowGuard.Batch

/-- What a batch asks for. -/
structure Request where
  action : Data
  type : Data
  targets : List Target
  constant : List (String × Data) := []
  excludeSelf : Bool := false

/-- The registration of a resource type in the global registry. -/
def lookup (type : Data) : Sys Mapping := do
  Sys.ofExcept ((← get).globals.registry.lookup type)

/-- Compiles a validated batch's fragment and places it in the batch's statement. -/
def restrict (e : Evaluator) (config : Config) (s : Subject) (r : Request) (m : Mapping)
    (change : Change) : Sys Batch := do
  let id ← e.compile s r.action r.type (.text m.columnRef)
  let fragment ← Sys.embedFragment id (some m.columnRef)
  return {
    subject := s
    action := r.action
    type := r.type
    mapping := m
    targets := r.targets
    change
    excluded := if r.excludeSelf && s.type == r.type then some s.id else none
    fragment
    config }

/-- Plans an update. -/
def planUpdate (e : Evaluator) (given : Option Config) (s : Subject) (r : Request) : Sys Batch := do
  let config ← Sys.configOr given
  let m ← lookup r.type
  Sys.ofExcept (checkTargets config r.targets)
  Sys.ofExcept ((checkColumns m r.targets r.constant).mapError .batch)
  restrict e config s r m (.update (keysOf r.targets) r.constant)

/-- Plans a deletion. Values given with the targets play no part. -/
def planDelete (e : Evaluator) (given : Option Config) (s : Subject) (r : Request) : Sys Batch := do
  let config ← Sys.configOr given
  let m ← lookup r.type
  Sys.ofExcept (checkTargets config r.targets)
  restrict e config s r m .delete

/-- The batch in logs. -/
def describe (b : Batch) : String :=
  "Batch " ++ b.action.plain ++ " on " ++ b.type.plain ++ " by " ++ b.subject.describe

/-- The name of the operation that carries out a batch. -/
def operation (b : Batch) : String := "batch " ++ b.action.plain ++ " " ++ b.type.plain

/-- Logs that a batch was carried out. -/
def logCommitted (b : Batch) (count : Nat) : Sys Unit :=
  Sys.log .info .decisions s!"{b.describe} committed: {count} row(s)"

/-- Logs that a batch was undone. -/
def logUndone (b : Batch) (count : Nat) : Sys Unit :=
  Sys.log .warning .decisions
    s!"{b.describe} rolled back: {count} of {b.targets.length} row(s) authorized"

/-- Changes the rows and commits, or undoes the change if it did not reach every target. -/
def body (b : Batch) : Sys Nat := do
  Scope.begin
  let count ← Scope.execute b.statement
  -- some target does not exist, or is not the subject's to change
  if count ≠ b.targets.length then
    Scope.rollback
    logUndone b count
    throw (.denied (Denial.ofBatch b.subject b.action b.type))
  Scope.commit
  return count

/-- Carries out a planned batch. -/
def execute (bind : Bind) (b : Batch) : Sys Nat := do
  let count ← Scope.within bind b.operation (body b)
  if b.config.logs then logCommitted b count
  return count

/-- Carries out a planned batch in a detached scope. -/
def executeDetached (bind : Bind) (b : Batch) : Sys Nat :=
  Scope.withinDetached bind b.operation (execute .connection b)

end RowGuard.Batch
