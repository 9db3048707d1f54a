import RowGuard.Session.Scope

/-!
# Evaluators

An evaluator answers the two questions of guarded operations: whether a subject may do something to one
resource, and under which condition it may do it to the rows of a table. A point check can be asked on
the caller's connection, so that it sees what the caller has written and not yet committed. Two
evaluators wrap another one: `retrying` asks again while the evaluator is unavailable, and `recording`
notes every answer.
-/

namespace RowGuard

/-- An evaluator. A check says whether it is asked on the caller's connection; its answer allows what
is asked if it counts as true. -/
structure Evaluator where
  check : (onCallersLink : Bool) → Subject → (action : Data) → Resource → Sys Data
  compile : Subject → (action type columnRef : Data) → Sys FragmentId

namespace Sys

/-- Adds a fragment to those compiled so far. -/
def addFragment (f : Fragment) : Sys FragmentId := do
  let (pool, id) := (← get).fragments.add f
  modify fun s => { s with fragments := pool }
  return id

/-- Places a fragment, for a column if one is given. -/
def embedFragment (id : FragmentId) (column : Option String) : Sys Fragment := do
  let (outcome, pool) := (← get).fragments.embed id column
  modify fun s => { s with fragments := pool }
  ofExcept outcome

/-- The place of the fragment with a number. -/
def findFragment (number : Data) : Sys FragmentId := do
  ofExcept ((← get).fragments.find number)

/-- A fragment as it is now. -/
def fragmentAt (id : FragmentId) : Sys Fragment := do
  ofExcept (((← get).fragments.get? id).elim (.error (.shape .missingItem)) .ok)

end Sys

namespace Evaluator

/-- Refuses, with the given wording if there is one, what the evaluator does not allow. -/
def authorize (e : Evaluator) (onCallersLink : Bool) (s : Subject) (action : Data) (r : Resource)
    (wording : Option String) : Sys Unit := do
  if !(← e.check onCallersLink s action r).truthy then
    throw (.denied (Denial.ofCheck s action r wording))

/-! ## Fixed answers -/

/-- Answers that are laid down in advance. An unavailable evaluator fails at every call, or at the
first few if their number is given. Calls are counted from the given number on. -/
structure FixedAnswers where
  allowed : Data := .bool true
  listSql : Data := .text "1 = 1"
  unavailable : Data := .bool false
  failures : Data := .null
  calls : Data := .int 0

/-- Lays down one answer by its name. -/
def FixedAnswers.set (a : FixedAnswers) (name : String) (value : Data) : Except Fault FixedAnswers :=
  match name with
  | "allowed" => .ok { a with allowed := value }
  | "list_sql" => .ok { a with listSql := value }
  | "unavailable" => .ok { a with unavailable := value }
  | "failures" => .ok { a with failures := value }
  | "calls" => .ok { a with calls := value }
  | _ => .error (.shape .wrongType)

/-- Answers from names and values. -/
def FixedAnswers.ofFields (fields : List (String × Data)) : Except Fault FixedAnswers :=
  fields.foldlM (fun a field => a.set field.1 field.2) {}

/-- The number held by a value that has to be one. -/
def requireNumber (d : Data) : Sys Number :=
  Sys.ofExcept (d.number?.elim (.error (.shape .wrongType)) .ok)

/-- Counts a call and fails if the evaluator is unavailable. -/
def FixedAnswers.answerCall (a : FixedAnswers) : Sys Unit := do
  let calls := (← requireNumber (← get).watch.calls).succ
  modify fun s => { s with watch := { s.watch with calls := .scalar (.ofNumber calls) } }
  if a.unavailable.truthy then
    let fails ← if a.failures = .null then pure true else calls.atMost <$> requireNumber a.failures
    if fails then throw (.unavailable "policy service unreachable")

/-- The evaluator with fixed answers. -/
def fixed (a : FixedAnswers) : Evaluator where
  check _ _ _ _ := do
    a.answerCall
    return a.allowed
  compile _ action type columnRef := do
    a.answerCall
    Sys.addFragment (Fragment.ofText columnRef a.listSql action type)

/-! ## Retrying -/

/-- What asking again relies on between two calls: what the log makes of a warning about a delay, and what waiting
for the delay comes to. Either may fail, and so end the calls. -/
structure Pauses where
  warned : (delay : Number) → Except Fault Unit
  waited : (delay : Number) → Except Fault Unit

/-- A log that writes down every delay at once, which takes a number of seconds, and waiting that is only noted. -/
def Pauses.noted : Pauses where
  warned delay := delay.toBinary64?.elim (.error (.shape .outOfRange)) fun _ => .ok ()
  waited _ := .ok ()

/-- Warns that an attempt is waited after. A delay that is no number of seconds is left out of the text. -/
def warn (pauses : Pauses) (name : String) (attempts attempt : Nat) (delay : Number) : Sys Unit := do
  Sys.ofExcept (pauses.warned delay)
  Sys.log .warning .decisions
    (s!"Evaluator unavailable during {name} (attempt {attempt} of {attempts}), retrying in " ++
      delay.toBinary64?.elim "" (Binary64.fixed 2) ++ "s")

/-- Waits for a delay, and notes it. -/
def wait (pauses : Pauses) (delay : Number) : Sys Unit := do
  Sys.ofExcept (pauses.waited delay)
  modify fun s => { s with watch := { s.watch with sleeps := delay :: s.watch.sleeps } }

/-- Calls while the evaluator is unavailable and calls are left, waiting twice as long each time. What the last
call that is allowed comes to is the outcome, so that there is always one to come to. -/
def retryLoop {α : Type} (pauses : Pauses) (name : String) (attempts : Nat) (call : Sys α) :
    (left attempt : Nat) → (delay : Number) → Sys α
  | 0, _, _ => throw (.expectation .unreachable)
  | left + 1, attempt, delay =>
    call.handling fun f =>
      match f with
      | .unavailable _ =>
        if attempt = attempts then throw f
        else do
          warn pauses name attempts attempt delay
          wait pauses delay
          retryLoop pauses name attempts call left (attempt + 1) delay.twice
      | other => throw other

/-- Calls an evaluator as often as the configuration allows. -/
def retry {α : Type} (pauses : Pauses) (config : Option Config) (name : String) (call : Sys α) : Sys α := do
  let c ← Sys.configOr config
  match c.retryAttempts.toInt? with
  | none => throw (.shape .wrongType)
  | some n => retryLoop pauses name n.toNat call n.toNat 1 c.retryBackoff

/-- The evaluator that asks again while the inner one is unavailable. -/
def retrying (config : Option Config) (inner : Evaluator) (pauses : Pauses := .noted) : Evaluator where
  check onCallersLink s action r := retry pauses config "check" (inner.check onCallersLink s action r)
  compile s action type columnRef :=
    retry pauses config "compile_list_condition" (inner.compile s action type columnRef)

/-! ## Recording -/

/-- The evaluator that notes every answer of the inner one. After each compilation something else may
happen before the fragment is handed over. -/
def recording (after : Sys Unit) (inner : Evaluator) : Evaluator where
  check onCallersLink s action r := do
    let allowed ← inner.check onCallersLink s action r
    modify fun sys => { sys with
      watch := { sys.watch with checks := ⟨s, action, r, allowed⟩ :: sys.watch.checks } }
    return allowed
  compile s action type columnRef := do
    let id ← inner.compile s action type columnRef
    modify fun sys => { sys with
      watch := { sys.watch with
        compilations := ⟨s, action, type, id⟩ :: sys.watch.compilations } }
    after
    return id

end Evaluator

end RowGuard
