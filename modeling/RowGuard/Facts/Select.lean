import RowGuard.Database.Schema
import RowGuard.Facts.Signature
import RowGuard.Policy.Naming

/-!
# Fact books over tables

A fact query can be written as a choice of columns of a known table. Its columns then have the table's
types, and so has the value that its filter compares with, unless it is of another sort.
-/

namespace RowGuard

/-- A choice of columns of a table, with an optional column that has to hold a value. -/
structure TableQuery where
  table : Schema
  columns : List String
  filter : Option (String × Data) := none
  distinct : Bool := false

namespace TableQuery

/-- The query with the table's column types; a column the table lacks is refused. -/
def toFactQuery (q : TableQuery) : Except Fault FactQuery := do
  let find (name : String) : Except Fault Column :=
    (q.table.column? name).elim (.error (.shape .missingKey)) .ok
  let columns ← q.columns.mapM find
  let filter ←
    match q.filter with
    | none => pure none
    | some (name, value) => do
      pure (some (.equals name (some (Sql.comparisonType (← find name).type value)) value))
  return .selection
    ⟨q.table.name, columns.map fun c => ⟨c.name, c.type, false⟩, filter, q.distinct⟩

end TableQuery

namespace FactBook

/-- Puts a query into a slot that values name; a list or map names nothing. -/
def fillNamed (b : FactBook) (q : FactQuery) (s : Slot Data) : Except Fault FactBook := do
  Name.requireKeys s.names
  return b.fill q s

/-- A book with the given queries in their slots. -/
def ofQueries (queries : List (Slot Data × TableQuery)) (sqlTypes : List (Data × ColumnType)) :
    Except Fault FactBook :=
  queries.foldlM (fun book entry => do book.fillNamed (← entry.2.toFactQuery) entry.1) { sqlTypes }

end FactBook

end RowGuard
