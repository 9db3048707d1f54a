import RowGuard.Batch.Basic
import RowGuard.Condition.Render
import RowGuard.Sql.Statement

/-!
# The text of a batch

A batch is one statement. Values that differ from target to target are chosen by a `CASE` on the
identity in one dialect, and joined from a list of rows in the other; everything else is the same.
-/

namespace RowGuard.Batch

/-- The name of the list of rows that an update joins. -/
def joined : String := "batch_values"

/-- A column of the table as it stands in the statement. -/
def columnText (d : Dialect) (b : Batch) (column : String) : String :=
  Sql.column d b.mapping.table.name column

/-- The identity column as it stands in the statement. -/
def identityText (d : Dialect) (b : Batch) : String := b.columnText d b.mapping.identity.name

/-- Whether the statement joins a list of rows. -/
def joins (d : Dialect) (b : Batch) : Bool := d == .postgresql && !b.keys.isEmpty

/-- The value of a column that is chosen by the identity. -/
def renderChoice (d : Dialect) (b : Batch) (column : String) : Except SqlFault String := do
  let alternatives ← b.targets.mapM fun t => do
    return (← (ownLiteral t.identity).render d, ← (b.columnLiteral column (t.value column)).render d)
  return Sql.caseOf (b.identityText d) alternatives (b.columnText d (b.mapping.table.nameOf column))

/-- The name of a column's type. -/
def typeText (b : Batch) (column : String) : String :=
  ((b.mapping.table.labelled? column).map (·.type.sqlName)).getD ""

/-- The value a column receives. -/
def renderNewValue (d : Dialect) (b : Batch) (column : String) : Except SqlFault String :=
  match b.constants.lookup column with
  | some s => (b.columnLiteral column s).render d
  | none =>
    if b.joins d then .ok (Sql.castTo (b.typeText column) (Sql.column d joined column))
    else b.renderChoice d column

/-- The rows that an update joins: each target's identity and values. -/
def renderRows (d : Dialect) (b : Batch) : Except SqlFault (Option String) := do
  if b.joins d then
    let rows ← b.targets.mapM fun t => do
      let identity ← (b.identityLiteral t.identity).render d
      let values ← b.keys.mapM fun k => (b.columnLiteral k (t.value k)).render d
      return identity :: values
    return some (Sql.valuesTable d rows joined (b.mapping.identity.name :: b.keys))
  else return none

/-- The condition that ties the joined rows to the table's rows. -/
def renderJoin (d : Dialect) (b : Batch) : List String :=
  if b.joins d then
    [b.identityText d ++ " = " ++ Sql.column d joined b.mapping.identity.name]
  else []

/-- The condition that leaves out the subject's own row, if it has to be left out. -/
def renderExclusion (d : Dialect) (b : Batch) : Except SqlFault (List String) :=
  match b.excluded with
  | none => .ok []
  | some .null => .ok [b.identityText d ++ " IS NOT NULL"]
  | some self => do return [b.identityText d ++ " != " ++ (← (ownLiteral self).render d)]

/-- The conditions on the rows that the statement reaches. -/
def renderConditions (d : Dialect) (b : Batch) : Except SqlFault (List String) := do
  let identities ← b.identityLiterals.mapM (Literal.render d)
  let exclusion ← b.renderExclusion d
  return b.renderJoin d ++ [Sql.isOneOf (b.identityText d) identities] ++ exclusion ++
    [b.fragment.asFilter d]

/-- The statement. -/
def render (d : Dialect) (b : Batch) : Except SqlFault String := do
  let table := b.mapping.table.name
  match b.change with
  | .delete => return Sql.deleteFrom d table (← b.renderConditions d)
  | .update _ _ =>
    let assignments ← b.changedColumns.mapM fun c => do
      return Sql.assignment d (b.mapping.table.nameOf c) (← b.renderNewValue d c)
    return Sql.updateTable d table assignments (← b.renderRows d) (← b.renderConditions d)

end RowGuard.Batch
