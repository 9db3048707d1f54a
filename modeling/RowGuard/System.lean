import RowGuard.Fragment.Basic
import RowGuard.Globals
import RowGuard.Session.Link

/-!
# The system

All that an operation can read or change: the stored database, the connection it works on, those that
are in use elsewhere meanwhile, the records it logs, the global state, the fragments compiled so far, the
counters of evaluators that are watched, and what the items of a program in a scope have answered. An
operation is a function on this state that gives a value or a fault; a fault does not undo what the
operation did before.
-/

namespace RowGuard

/-- How grave a log record is. -/
inductive Level where
  | debug
  | info
  | warning
  | error
deriving DecidableEq

namespace Level

/-- The level as logs show it. -/
def name : Level → String
  | debug => "DEBUG"
  | info => "INFO"
  | warning => "WARNING"
  | error => "ERROR"

/-- The levels in ascending order. -/
def rank : Level → Nat
  | debug => 0
  | info => 1
  | warning => 2
  | error => 3

/-- The level that logs show in this way. -/
def ofName? (name : String) : Option Level :=
  [debug, info, warning, error].find? fun l => l.name == name

theorem ofName?_name (l : Level) : ofName? l.name = some l := by
  cases l <;> rfl

end Level

/-- Where a log record comes from. -/
inductive Channel where
  | decisions
  | dataAccess
  | users
  | documents
  | organizations
  | storage
deriving DecidableEq

/-- A log record. -/
structure Record where
  level : Level
  channel : Channel
  message : String
deriving DecidableEq

/-- A point check that was watched. -/
structure WatchedCheck where
  subject : Subject
  action : Data
  resource : Resource
  allowed : Data
deriving DecidableEq

/-- A compilation that was watched. -/
structure WatchedCompilation where
  subject : Subject
  action : Data
  type : Data
  fragment : FragmentId
deriving DecidableEq

/-- What evaluators under watch have seen: the calls of a scripted one, the delays waited for, and the
checks and compilations recorded. The latest stands first. -/
structure Watch where
  calls : Data := .int 0
  sleeps : List Number := []
  checks : List WatchedCheck := []
  compilations : List WatchedCompilation := []
deriving Inhabited

/-- A scope that holds a connection for one operation. -/
structure Scope where
  operation : String
  handle : Option Handle := none

/-- The state of the system. -/
structure System where
  disk : Database
  link : Option Link := none
  lent : List Link := []
  scope : Option Scope := none
  journal : List Record := []
  globals : Globals := {}
  fragments : FragmentPool := {}
  watch : Watch := {}
  trace : List (Except Fault Data) := []

/-- The records logged at a level or above, the earliest first. -/
def System.logged (s : System) (level : Level) : List Record :=
  s.journal.reverse.filter fun r => level.rank ≤ r.level.rank

/-- An operation on the system. -/
abbrev Sys := ExceptT Fault (StateM System)

namespace Sys

/-- Logs a record. -/
def log (level : Level) (channel : Channel) (message : String) : Sys Unit :=
  modify fun s => { s with journal := ⟨level, channel, message⟩ :: s.journal }

/-- The configuration given, or else the global one. -/
def configOr (given : Option Config) : Sys Config := do
  match given with
  | some c => return c
  | none => return (← get).globals.config

/-- A value or a fault that needs no state. -/
def ofExcept {α : Type} (r : Except Fault α) : Sys α :=
  match r with
  | .ok a => pure a
  | .error f => throw f

/-- The outcome of an operation as a value. -/
def attempt {α : Type} (body : Sys α) : Sys (Except Fault α) := fun s =>
  let (outcome, s') := body s
  (.ok outcome, s')

/-- Does the second operation after the first one, whatever the first one's outcome. -/
def thenAlways {α : Type} (body : Sys α) (after : System → System) : Sys α := fun s =>
  let (outcome, s') := body s
  (outcome, after s')

/-- Runs an operation and turns what it refuses. -/
def handling {α : Type} (body : Sys α) (handle : Fault → Sys α) : Sys α := fun s =>
  match body s with
  | (.ok a, s') => (.ok a, s')
  | (.error f, s') => handle f s'

/-- Does operations one after the other, each with an outcome of its own. -/
def each {α : Type} (s : System) : List (Sys α) → List (Except Fault α) × System
  | [] => ([], s)
  | op :: rest =>
    let (outcome, s') := op s
    let (outcomes, last) := each s' rest
    (outcome :: outcomes, last)

/-- Lays settings over the global configuration. -/
def configure (settings : NamedSettings) : Sys Config := do
  let c ← ofExcept ((← get).globals.config.mergeNamed settings)
  modify fun s => { s with globals := { s.globals with config := c } }
  return c

/-- Works on a connection of its own; the connection from before is back afterwards. -/
def onLink {α : Type} (l : Link) (body : Sys α) : Sys α := fun s =>
  let (outcome, s') := body { s with link := some l, lent := s.link.toList ++ s.lent }
  (outcome, { s' with link := s.link, lent := s.lent })

end Sys

end RowGuard
