import RowGuard.Fault

/-!
# Configuration

A configuration says whether decisions are logged, what happens to an action that the policy does not
declare, how large a batch may be, and how often and how patiently an unavailable evaluator is asked
again. `Config.ofSettings` accepts exactly the settings within their bounds (`IsValid`), and
`Config.merge` lays settings over a configuration and checks the result again.
-/

namespace RowGuard

/-- What happens to an action that the policy does not declare for a resource type. -/
inductive UndeclaredAction where
  | refuse
  | deny
deriving DecidableEq, Inhabited

/-- The text a setting uses for the choice. -/
def UndeclaredAction.text : UndeclaredAction → String
  | refuse => "raise"
  | deny => "deny"

/-- A configuration. -/
structure Config where
  logDecisions : Data := .bool false
  onUndeclared : UndeclaredAction := .refuse
  maxBatchSize : Option Number := some (.int 1000)
  retryAttempts : Number := .int 3
  retryBackoff : Number := .real (Binary64.ofDecimal 1 (-1))
deriving DecidableEq, Inhabited

/-- Settings of a configuration as they are written; a field may be left out. -/
structure Settings where
  logDecisions : Option Data := none
  onUndeclared : Option Data := none
  maxBatchSize : Option Data := none
  retryAttempts : Option Data := none
  retryBackoff : Option Data := none
deriving Inhabited

namespace Settings

/-- Writes one setting by its name. -/
def set (s : Settings) (name : String) (value : Data) : Except Fault Settings :=
  match name with
  | "log_policy_decisions" => .ok { s with logDecisions := some value }
  | "on_undeclared_action" => .ok { s with onUndeclared := some value }
  | "max_batch_size" => .ok { s with maxBatchSize := some value }
  | "evaluator_retry_attempts" => .ok { s with retryAttempts := some value }
  | "evaluator_retry_backoff" => .ok { s with retryBackoff := some value }
  | _ => .error (.shape .wrongType)

/-- Settings from names and values. A name that is no setting is refused. -/
def ofFields (fields : List (String × Data)) : Except Fault Settings :=
  fields.foldlM (fun s field => s.set field.1 field.2) {}

/-- The settings that were given, by their names. -/
def toFields (s : Settings) : List (String × Data) :=
  [("log_policy_decisions", s.logDecisions), ("on_undeclared_action", s.onUndeclared),
    ("max_batch_size", s.maxBatchSize), ("evaluator_retry_attempts", s.retryAttempts),
    ("evaluator_retry_backoff", s.retryBackoff)].filterMap fun (name, value) =>
      value.map fun given => (name, given)

/-- Settings are what their names and values say. -/
theorem ofFields_toFields (s : Settings) : ofFields s.toFields = .ok s := by
  obtain ⟨a, b, c, d, e⟩ := s
  cases a <;> cases b <;> cases c <;> cases d <;> cases e <;> rfl

/-- A setting that was given and is not null. -/
def given (setting : Option Data) : Option Data :=
  setting.filter fun value => decide (value ≠ .null)

/-- One layer of settings over another: a setting that is null or left out keeps what is below. -/
def laidOver (top bottom : Settings) : Settings where
  logDecisions := (given top.logDecisions).or bottom.logDecisions
  onUndeclared := (given top.onUndeclared).or bottom.onUndeclared
  maxBatchSize := (given top.maxBatchSize).or bottom.maxBatchSize
  retryAttempts := (given top.retryAttempts).or bottom.retryAttempts
  retryBackoff := (given top.retryBackoff).or bottom.retryBackoff

end Settings

namespace Config

/-- The bounds a configuration keeps. -/
structure IsValid (c : Config) : Prop where
  batch : ∀ n, c.maxBatchSize = some n → n.isBelow 1 = false
  attempts : c.retryAttempts.isBelow 1 = false
  backoff : c.retryBackoff.isBelow 0 = false

/-- Whether decisions are logged. -/
def logs (c : Config) : Bool := c.logDecisions.truthy

/-- The configuration as settings. -/
def toSettings (c : Config) : Settings where
  logDecisions := some c.logDecisions
  onUndeclared := some (.text c.onUndeclared.text)
  maxBatchSize := some ((c.maxBatchSize.map fun n => .scalar (.ofNumber n)).getD .null)
  retryAttempts := some (.scalar (.ofNumber c.retryAttempts))
  retryBackoff := some (.scalar (.ofNumber c.retryBackoff))

/-- Reads the choice for undeclared actions. -/
def readChoice : Data → Except Fault UndeclaredAction
  | .scalar s =>
    if s = .text "raise" then .ok .refuse
    else if s = .text "deny" then .ok .deny
    else .error (.argument (.undeclaredChoice (.scalar s)))
  | _ => .error (.shape .wrongType)

/-- Reads a number. -/
def readNumber : Data → Except Fault Number
  | .scalar s =>
    match s.number? with
    | some n => .ok n
    | none => .error (.shape .wrongType)
  | _ => .error (.shape .wrongType)

/-- Reads a number that is not below a bound, or else the given fault. -/
def readBounded (least : Int) (fault : Number → ArgumentFault) (value : Data) :
    Except Fault Number := do
  let n ← readNumber value
  if n.isBelow least then throw (.argument (fault n)) else return n

/-- A configuration with the given settings; a setting left out has its default. -/
def ofSettings (s : Settings) : Except Fault Config := do
  let standard : Config := {}
  let onUndeclared ← (s.onUndeclared.map readChoice).getD (.ok standard.onUndeclared)
  let maxBatchSize ←
    match s.maxBatchSize with
    | none => pure standard.maxBatchSize
    | some .null => pure none
    | some value =>
      some <$> readBounded 1 .batchSizeNotPositive value
  let retryAttempts ←
    (s.retryAttempts.map (readBounded 1 .attemptsBelowOne)).getD
      (.ok standard.retryAttempts)
  let retryBackoff ←
    (s.retryBackoff.map (readBounded 0 .negativeBackoff)).getD
      (.ok standard.retryBackoff)
  return {
    logDecisions := s.logDecisions.getD standard.logDecisions
    onUndeclared, maxBatchSize, retryAttempts, retryBackoff }

/-- The configuration with settings laid over it. -/
def merge (c : Config) (s : Settings) : Except Fault Config :=
  ofSettings (s.laidOver c.toSettings)

end Config

end RowGuard
