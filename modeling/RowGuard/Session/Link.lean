import RowGuard.Database.Basic
import RowGuard.Fault

/-!
# Connections

A connection runs statements in a transaction. A transaction begins to see the database when it first
looks at it; from then on it sees that state and its own changes. Savepoints remember what was seen when
they were set. A commit hands over what the transaction has made of the database, unless references
whose check was put off lead nowhere: then the connection refuses statements until it is rolled back.
That rollback does not reach the database, which is still in the transaction: the next use of the
connection fails, and only that clears it.

Connections share the database. As long as one of them has begun to change it, no other one can; and as
long as one of them relies on what it has seen, another one's changes cannot be committed.

A connection can break without anybody noticing. The first use of a broken connection fails and
notices; once its transaction is given up, the next use starts afresh.
-/

namespace RowGuard

/-- The state a connection is in. -/
inductive Health where
  | sound
  | broken
  | lost
  | closed
deriving DecidableEq, Inhabited

/-- A transaction in progress: what it sees, if it has looked already, whether it has begun to change
that, whether the check of references is put off to the commit, and what was seen at each savepoint,
the innermost first. -/
structure Transaction where
  view : Option Database := none
  writes : Bool := false
  deferred : Bool := false
  marks : List (Option Database) := []
deriving Inhabited

/-- How far a transaction has got: it is in progress, its commit has failed, or it was given up after
that while the database is still in it. -/
inductive Stage where
  | running
  | failed
  | abandoned
deriving DecidableEq, Inhabited

/-- A connection, and how far its transaction has got. -/
structure Link where
  health : Health := .sound
  transaction : Option Transaction := none
  stage : Stage := .running
deriving Inhabited

/-- A transaction or savepoint that somebody has begun. A savepoint is known by its depth. -/
inductive Handle where
  | outermost
  | savepoint (depth : Nat)
deriving DecidableEq

namespace Link

/-- Whether a transaction is in progress. -/
def inTransaction (l : Link) : Bool := l.transaction.isSome && l.stage == .running

/-- The connection without its transaction. -/
def cleared (l : Link) : Link := { l with transaction := none, stage := .running }

/-- What the connection sees of the database: what its transaction has looked at, if one is in
progress. -/
def view (l : Link) (disk : Database) : Database :=
  if l.inTransaction then (l.transaction.bind (·.view)).getD disk else disk

/-- Whether the connection keeps others from changing the database. -/
def isWriting (l : Link) : Bool := l.health == .sound && l.transaction.any (·.writes)

/-- Whether the connection keeps others from committing changes. -/
def isReading (l : Link) : Bool := l.health == .sound && l.transaction.any (·.view.isSome)

/-- Whether what somebody has begun is still in progress. -/
def isAlive (l : Link) (h : Handle) : Bool :=
  l.inTransaction &&
    match h with
    | .outermost => true
    | .savepoint depth => decide (depth ≤ (l.transaction.map (·.marks.length)).getD 0)

/-- What any use of the connection meets first. -/
def touch (l : Link) : Except SqlFault Unit × Link :=
  match l.health with
  | .sound => (.ok (), l)
  | .broken => (.error .disconnected, { l with health := .lost })
  | .lost =>
    if l.transaction.isSome then (.error .pendingRollback, l) else (.ok (), { l with health := .sound })
  | .closed => (.error .closed, l)

/-- Begins a transaction, or a savepoint inside the one in progress. -/
def begin (l : Link) : Except SqlFault Handle × Link :=
  match l.stage with
  | .failed => (.error .unusable, l)
  | .abandoned => (.error .operational, l.cleared)
  | .running =>
    match l.touch with
    | (.error e, l) => (.error e, l)
    | (.ok (), l) =>
      match l.transaction with
      | none => (.ok .outermost, { l with transaction := some {} })
      | some t =>
        (.ok (.savepoint (t.marks.length + 1)),
          { l with transaction := some { t with marks := t.view :: t.marks } })

/-- The savepoints outside the one of the given depth. -/
def marksBelow (depth : Nat) (marks : List (Option Database)) : List (Option Database) :=
  marks.drop (marks.length + 1 - depth)

/-- Commits what was begun, beside other connections. The outermost commit hands over the new state of
the database. -/
def commit (l : Link) (disk : Database) (others : List Link) (h : Handle) :
    Except SqlFault Unit × Link × Database :=
  if !l.isAlive h then
    (.error (if l.stage = .failed && h = .outermost then .pendingRollback else .unusable), l, disk)
  else
    match l.touch, h with
    | (.error e, l), .outermost => (.error e, { l with stage := .failed }, disk)
    | (.error e, l), .savepoint _ => (.error e, l, disk)
    | (.ok (), l), .savepoint depth =>
      -- what the transaction sees stays; only the way back to the savepoint is gone
      (.ok (),
        { l with transaction := l.transaction.map fun t =>
            { t with marks := marksBelow depth t.marks } },
        disk)
    | (.ok (), l), .outermost =>
      if (l.transaction.map (·.deferred)).getD false && !(l.view disk).isConsistent then
        (.error .constraint, { l with stage := .failed }, disk)
      else if l.isWriting && others.any isReading then
        (.error .operational, { l with stage := .failed }, disk)
      else (.ok (), { l with transaction := none }, l.view disk)

/-- Rolls back what was begun. What is no longer in progress needs no rollback. -/
def rollback (l : Link) (h : Handle) : Except SqlFault Unit × Link :=
  match h with
  | .outermost =>
    match l.stage with
    | .failed => (.ok (), if l.health = .sound then { l with stage := .abandoned } else l.cleared)
    | .abandoned => (.ok (), l)
    | .running =>
      -- the first use of a broken connection notices, and there is nothing left to roll back
      if l.health = .broken && l.inTransaction then
        (.error .disconnected, { l.cleared with health := .lost })
      else (.ok (), l.cleared)
  | .savepoint depth =>
    if !l.isAlive h then (.ok (), l)
    else
      let undone :=
        l.transaction.map fun t =>
          { t with
            view := (t.marks[t.marks.length - depth]?).getD t.view
            marks := marksBelow depth t.marks }
      if l.health = .broken then (.error .disconnected, { l with health := .lost, transaction := undone })
      else (.ok (), { l with transaction := undone })

/-- Closes the connection, which ends its transaction. -/
def close (_ : Link) : Link := { health := .closed }

/-- Breaks the connection. The database gives up a transaction that nobody else knows of. -/
def sever (l : Link) : Link :=
  match l.health with
  | .sound => { (if l.stage = .abandoned then l.cleared else l) with health := .broken }
  | _ => l

/-- A statement: what is refused before it reaches the database, whether it is of a kind that changes
the database, and what it does there. -/
structure Statement (α : Type) where
  refused : Option SqlFault := none
  writes : Bool := false
  defers : Bool := false
  run : Database → Except Fault (α × Database)

/-- Runs a statement beside other connections. Without a transaction one is begun, which stays open.
Unless their check is put off, every reference has to lead somewhere after a statement that writes. -/
def execute {α : Type} (l : Link) (disk : Database) (others : List Link) (s : Statement α) :
    Except Fault α × Link :=
  match l.touch, s.refused with
  | (.error e, l), _ => (.error (.sql e), l)
  | (.ok (), l), some e => (.error (.sql e), l)
  | (.ok (), l), none =>
    match l.stage with
    | .failed => (.error (.sql .pendingRollback), l)
    | .abandoned => (.error (.sql .operational), l.cleared)
    | .running =>
      let t : Transaction := l.transaction.getD {}
      let deferred := t.deferred || s.defers
      let seen := t.view.getD disk
      let after (writes : Bool) (db : Database) : Link :=
        { l with transaction := some { t with view := some db, writes := t.writes || writes, deferred } }
      -- a statement that fails changes nothing, but the transaction has looked at the database
      if s.writes && others.any isWriting then (.error (.sql .operational), after false seen)
      else
        match s.run seen with
        | .error f => (.error f, after s.writes seen)
        | .ok (a, db) =>
          if deferred || !s.writes || db.isConsistent then (.ok a, after s.writes db)
          else (.error (.sql .constraint), after s.writes seen)

end Link

end RowGuard
