import Mathlib.Data.List.Forall2
import RowGuard.Batch.Meaning
import RowGuard.Batch.Render

/-!
# Updates as statements

An update sets columns of a table's rows to written values, to values chosen by another column, or to
converted values of a row that it joins with them. `Update` is such a statement, with its text and its
meaning. A row that is paired with several joined rows takes the values of one of them, and the statement
does not say of which; a row that is paired with none is left alone. `Batch.asUpdate` is what a batch
writes in a dialect, and its text is the batch's (`Batch.render_eq_asUpdate`).
-/

namespace RowGuard

/-- What an update sets a column to. -/
inductive Assigned where
  /-- A value that is written down. -/
  | written (l : Literal)
  /-- The value that stands with the first key that a column equals; another column if there is none. -/
  | chosen (subject : String) (alternatives : List (Literal × Literal)) (otherwise : String)
  /-- A column of the joined row, converted to a type. -/
  | joined (column : String) (type : Option ColumnType)

/-- Rows that an update joins with those of its table, by a column that both have. -/
structure JoinedRows where
  key : String
  columns : List String
  rows : List (List Literal)

/-- An update but for its conditions on single rows. Columns are set by their labels. -/
structure Update where
  table : Schema
  assignments : List (String × Assigned)
  source : Option JoinedRows

/-- A column of a row. -/
def Schema.columnOf (s : Schema) (row : Row) (column : String) : Operand :=
  s.operand row ((s.position? column).getD 0)

/-! ## The text of an update -/

/-- What a column is set to, as it stands in the statement. -/
def Assigned.render (d : Dialect) (table : String) : Assigned → Except SqlFault String
  | written l => l.render d
  | chosen subject alternatives otherwise => do
    let alternatives ← alternatives.mapM fun (key, value) => do
      return (← key.render d, ← value.render d)
    return Sql.caseOf (Sql.column d table subject) alternatives (Sql.column d table otherwise)
  | joined column type =>
    .ok (Sql.castTo ((type.map (·.sqlName)).getD "") (Sql.column d Batch.joined column))

/-- The joined rows as they stand in the statement. -/
def JoinedRows.render (d : Dialect) (src : JoinedRows) : Except SqlFault String := do
  let rows ← src.rows.mapM fun row => row.mapM (Literal.render d)
  return Sql.valuesTable d rows Batch.joined src.columns

/-- The condition that ties the joined rows to the table's rows. -/
def JoinedRows.condition (d : Dialect) (table : String) (src : JoinedRows) : String :=
  Sql.column d table src.key ++ " = " ++ Sql.column d Batch.joined src.key

/-- The statement with further conditions. -/
def Update.render (d : Dialect) (u : Update) (conditions : Except SqlFault (List String)) :
    Except SqlFault String := do
  let assignments ← u.assignments.mapM fun (column, value) => do
    return Sql.assignment d (u.table.nameOf column) (← value.render d u.table.name)
  let source ← u.source.mapM (JoinedRows.render d)
  return Sql.updateTable d u.table.name assignments source
    ((u.source.map (JoinedRows.condition d u.table.name)).toList ++ (← conditions))

/-! ## The meaning of an update -/

/-- A column of a joined row. -/
def JoinedRows.value (src : JoinedRows) (literals : List Literal) (column : String) : Value :=
  (((src.columns.zip literals).lookup column).map (·.bound)).getD .null

/-- The joined rows that a row of the table is paired with. -/
def JoinedRows.pairedWith (src : JoinedRows) (s : Schema) (row : Row) : List (List Literal) :=
  src.rows.filter fun literals => (s.columnOf row src.key).eq (.bare (src.value literals src.key))

/-- The value that a column of a row is set to. How values are converted is up to the database. -/
def Assigned.value (cast : ColumnType → Value → Value) (s : Schema) (row : Row) (joinedRow : String → Value) :
    Assigned → Value
  | written l => l.bound
  | chosen subject alternatives otherwise =>
    match alternatives.find? fun alternative => (s.columnOf row subject).eq (.bare alternative.1.bound) with
    | some alternative => alternative.2.bound
    | none => (s.columnOf row otherwise).value
  | joined column type => (type.map fun type => cast type (joinedRow column)).getD (joinedRow column)

namespace Update

variable (cast : ColumnType → Value → Value) (u : Update) (test : Row → Bool)

/-- What a row can take values from: the joined rows that it is paired with. Where nothing is joined, every
row is paired once, and with no columns. -/
def pairings (row : Row) : List (String → Value) :=
  match u.source with
  | none => [fun _ => .null]
  | some src => (src.pairedWith u.table row).map src.value

/-- Whether a row is set, given a test for the further conditions. -/
def affects (row : Row) : Bool := test row && !(u.pairings row).isEmpty

/-- A row with what the assignments set. -/
def set (row : Row) (joinedRow : String → Value) : Row :=
  (u.table.columns.zip row).map fun (c, old) =>
    ((u.assignments.lookup c.label).map (Assigned.value cast u.table row joinedRow)).getD old

/-- What the statement may make of a row: it is set from one of its pairings and stored as the schema says,
or it stays as it is. -/
inductive Makes (s : Schema) (row : Row) : Row → Prop
  | set {joinedRow : String → Value} (htest : test row = true) (hpaired : joinedRow ∈ u.pairings row) :
    Makes s row (s.stored (u.set cast row joinedRow))
  | kept (h : u.affects test row = false) : Makes s row row

/-- What the statement may come to. The answer says how many rows were set. -/
def ComesTo (db : Database) (result : Except SqlFault (Database × Nat)) : Prop :=
  match db.table? u.table.name with
  | none => result = .error .operational
  | some t => ∃ rows, List.Forall₂ (u.Makes cast test t.schema) t.rows rows ∧
      result = (db.changeRows t rows).map (·, (t.rows.filter (u.affects test)).length)

end Update

/-! ## Batches as updates -/

namespace Batch

/-- What an update sets a column to in a dialect. -/
def assigned (d : Dialect) (b : Batch) (column : String) : Assigned :=
  match b.constants.lookup column with
  | some s => .written (b.columnLiteral column s)
  | none =>
    if b.joins d then .joined column ((b.mapping.table.labelled? column).map (·.type))
    else
      .chosen b.mapping.identity.name
        (b.targets.map fun t => (ownLiteral t.identity, b.columnLiteral column (t.value column)))
        (b.mapping.table.nameOf column)

/-- The joined row of a target. -/
def joinedRow (b : Batch) (t : Target) : List Literal :=
  b.identityLiteral t.identity ::
    b.keys.map fun k => b.columnLiteral k (t.value k)

/-- The targets as rows that are joined by the identity. -/
def joinedTargets (b : Batch) : JoinedRows where
  key := b.mapping.identity.name
  columns := b.mapping.identity.name :: b.keys
  rows := b.targets.map b.joinedRow

/-- The rows that an update joins in a dialect. -/
def source (d : Dialect) (b : Batch) : Option JoinedRows :=
  if b.joins d then some b.joinedTargets else none

/-- The batch as an update in a dialect. -/
def asUpdate (d : Dialect) (b : Batch) : Update where
  table := b.mapping.table
  assignments := b.changedColumns.map fun column => (column, b.assigned d column)
  source := b.source d

/-- The conditions on single rows: the identity is one of the targets', the row is not the subject's own,
and it passes the fragment. -/
def rowConditions (d : Dialect) (b : Batch) : Except SqlFault (List String) := do
  let identities ← b.identityLiterals.mapM (Literal.render d)
  let exclusion ← b.renderExclusion d
  return [Sql.isOneOf (b.identityText d) identities] ++ exclusion ++ [b.fragment.asFilter d]

theorem render_assigned (d : Dialect) (b : Batch) (column : String) :
    (b.assigned d column).render d b.mapping.table.name = b.renderNewValue d column := by
  unfold assigned renderNewValue
  cases b.constants.lookup column with
  | some s => rfl
  | none =>
    cases b.joins d with
    | true => simp [Assigned.render, typeText, Option.map_map, Function.comp_def]
    | false =>
      simp [Assigned.render, renderChoice, identityText, columnText, List.mapM_map, Function.comp_def]

theorem render_source (d : Dialect) (b : Batch) :
    (b.source d).mapM (JoinedRows.render d) = b.renderRows d := by
  unfold source renderRows
  cases b.joins d with
  | false => rfl
  | true => simp [JoinedRows.render, joinedTargets, joinedRow, List.mapM_map, Function.comp_def]

theorem renderJoin_eq_source (d : Dialect) (b : Batch) :
    b.renderJoin d = ((b.source d).map (JoinedRows.condition d b.mapping.table.name)).toList := by
  unfold source renderJoin
  cases b.joins d with
  | false => rfl
  | true => rfl

/-- An update's text is that of the batch as an update. -/
theorem render_eq_asUpdate {keys : List String} {constant : List (String × Data)} (d : Dialect) {b : Batch}
    (hchange : b.change = .update keys constant) :
    b.render d = (b.asUpdate d).render d (b.rowConditions d) := by
  have hconditions : b.renderConditions d = (b.renderJoin d ++ ·) <$> b.rowConditions d := by
    simp [renderConditions, rowConditions]
  unfold render Update.render asUpdate
  rw [hchange, hconditions, renderJoin_eq_source]
  simp [List.mapM_map, Function.comp_def, render_assigned, render_source]

end Batch

end RowGuard
