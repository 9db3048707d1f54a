import RowGuard.Batch.Basic
import RowGuard.Fragment.Meaning
import RowGuard.Session.Link

/-!
# The meaning of a batch

Which rows a batch reaches, what it makes of them, and when its statement is refused. A row is reached
if its identity is one of the targets', if it is not the subject's own row when that has to be left out,
and if it passes the fragment. A reached row is given its values by looking its identity up among the
targets.
-/

namespace RowGuard.Batch

/-- The position of the identity column. -/
def identityPosition (b : Batch) : Nat :=
  (b.mapping.table.position? b.mapping.identity.name).getD 0

/-- A row's identity. -/
def identityOf (b : Batch) (row : Row) : Operand :=
  b.mapping.table.operand row b.identityPosition

/-- Whether a row's identity is the one written. -/
def isNamed (b : Batch) (row : Row) (l : Literal) : Bool :=
  (b.identityOf row).eq (.bare l.bound)

/-- Whether a row is left out because it is the subject's own. The row of a null identity equals
nothing, so it is left out as well. -/
def isExcluded (b : Batch) (row : Row) : Bool :=
  match b.excluded with
  | none => false
  | some .null => (b.identityOf row).value == .null
  | some self => (b.identityOf row).value == .null || b.isNamed row (ownLiteral self)

/-- Whether the statement reaches a row. -/
def reaches (db : Database) (b : Batch) (row : Row) : Bool :=
  b.identityLiterals.any (b.isNamed row) && !b.isExcluded row &&
    b.fragment.admits db b.mapping.table b.identityPosition row

/-- The target a row is chosen by: the first one whose identity it has. -/
def targetOf? (b : Batch) (row : Row) : Option Target :=
  b.targets.find? fun t => b.isNamed row (ownLiteral t.identity)

/-- The value a column of a row receives when values are chosen by the identity; one that is not set
stays. -/
def choice (b : Batch) (row : Row) (column : String) (old : Value) : Value :=
  match b.constants.lookup column with
  | some s => (b.columnLiteral column s).bound
  | none =>
    if b.keys.contains column then
      match b.targetOf? row with
      | some t => (b.columnLiteral column (t.value column)).bound
      | none => old
    else old

/-- A row with new values, by the identity. -/
def updatedByChoice (b : Batch) (row : Row) : Row :=
  (b.mapping.table.columns.zip row).map fun (c, old) => b.choice row c.label old

/-- Every literal of the statement. -/
def literals (b : Batch) : List Literal :=
  b.constants.map (fun (column, s) => b.columnLiteral column s) ++
    (b.keys.flatMap fun k =>
      b.targets.flatMap fun t => [ownLiteral t.identity, b.columnLiteral k (t.value k)]) ++
    b.identityLiterals ++ (b.excluded.map ownLiteral).toList

/-- The change itself, on the rows that are reached. The answer says how many there were. -/
def apply (b : Batch) (db : Database) : Except SqlFault (Database × Nat) :=
  match b.change with
  | .update _ _ => db.update b.mapping.table.name (b.reaches db) b.updatedByChoice
  | .delete => db.delete b.mapping.table.name (b.reaches db)

/-- The statement as a connection runs it. -/
def statement (b : Batch) : Link.Statement Nat where
  refused := Condition.bindFault? b.literals
  writes := true
  run db :=
    if (db.table? b.mapping.table.name).isNone || !b.fragment.runs db b.mapping.table then
      .error (.sql .operational)
    else if !Condition.allFit b.literals then .error (.shape .outOfRange)
    else
      match b.apply db with
      | .ok (changed, count) => .ok (count, changed)
      | .error e => .error (.sql e)

end RowGuard.Batch
