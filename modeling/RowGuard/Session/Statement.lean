import RowGuard.Condition.Meaning
import RowGuard.Database.Order
import RowGuard.Session.Link

/-!
# Statements on one table

Inserting, updating, deleting and selecting rows whose columns have given values. A value that is
written has the type of its column; a value that is compared has the type of its own kind. All values
are bound before the statement is run, so one that cannot be bound is refused before the database sees
anything.
-/

namespace RowGuard

/-- Columns with values, to be written or compared. -/
abbrev Assignments := List (String × Data)

namespace Assignments

/-- The values as they are written to columns of the table. -/
def written (s : Schema) (values : Assignments) : List Literal :=
  values.map fun (column, v) => ⟨v, (s.column? column).map (·.type)⟩

/-- The values as they are compared. -/
def compared (values : Assignments) : List Literal :=
  values.map fun (_, v) => ⟨v, none⟩

/-- The columns with the values bound for them. -/
def bound (s : Schema) (values : Assignments) : List (String × Value) :=
  (values.map (·.1)).zip ((values.written s).map (·.bound))

/-- Whether every column is one of the table's. -/
def known (s : Schema) (values : Assignments) : Bool :=
  values.all fun entry => (s.column? entry.1).isSome

/-- Whether a row has every one of the values. Only a null has the value null. -/
def hold (s : Schema) (filter : Assignments) (row : Row) : Bool :=
  filter.all fun (column, v) =>
    match s.position? column with
    | none => false
    | some i =>
      if v = .null then (s.operand row i).value == .null
      else (s.operand row i).eq (.bare (Literal.bound ⟨v, none⟩))

/-- A row with the values in place of its own. -/
def write (s : Schema) (values : Assignments) (row : Row) : Row :=
  (s.columns.zip row).map fun (c, old) => ((values.bound s).lookup c.name).getD old

end Assignments

namespace Link.Statement

/-- A statement with bound values. -/
def bound {α : Type} (known writes : Bool) (literals : List Literal)
    (run : Database → Except SqlFault (α × Database)) : Link.Statement α where
  refused := if known then Condition.bindFault? literals else some .literal
  writes
  run db :=
    match run db with
    | .error .operational => .error (.sql .operational)
    | outcome =>
      if Condition.allFit literals then outcome.mapError .sql else .error (.shape .outOfRange)

/-- Inserts a row. -/
def insert (s : Schema) (values : Assignments) : Link.Statement Unit :=
  bound (values.known s) true (values.written s) fun db => do
    return ((), ← db.insert s.name (values.bound s))

/-- Changes the rows with the given values; the answer says how many there were. A change has to set
something. -/
def update (s : Schema) (filter values : Assignments) : Link.Statement Nat :=
  bound (values.known s) true (values.written s ++ filter.compared) fun db => do
    if values.isEmpty then throw .operational
    let (changed, count) ← db.update s.name (filter.hold s) (values.write s)
    return (count, changed)

/-- Deletes the rows with the given values; the answer says how many there were. -/
def delete (s : Schema) (filter : Assignments) : Link.Statement Nat :=
  bound true true filter.compared fun db => do
    let (changed, count) ← db.delete s.name (filter.hold s)
    return (count, changed)

/-- The rows with the given values, in order of all their columns. -/
def select (s : Schema) (filter : Assignments) : Link.Statement (List Row) :=
  bound true false filter.compared fun db =>
    match db.table? s.name with
    | none => .error .operational
    | some t => .ok (t.sortedRows.filter (filter.hold s), db)

/-- Inserts a row; the answer is the value that a column of it has received. -/
def insertReturning (s : Schema) (values : Assignments) (column : String) : Link.Statement Value :=
  bound (values.known s) true (values.written s) fun db => do
    let changed ← db.insert s.name (values.bound s)
    let added := ((changed.rows s.name).getLast?).getD []
    return ((((s.position? column).bind fun i => added[i]?).getD .null), changed)

end Link.Statement

end RowGuard
