import RowGuard.Database.Order
import RowGuard.Database.Reading

/-!
# The contents of a database

What every table holds, independent of the order in which rows were added, and which tables two contents
differ in (`mem_changes_iff`).
-/

namespace RowGuard

/-- The rows of every table, in order of all their columns. -/
abbrev Contents := List (String × List Row)

/-- The contents of a database. -/
def Database.contents (db : Database) : Contents :=
  db.tables.map fun t => (t.schema.name, t.sortedRows)

namespace Contents

/-- The tables whose rows differ from those they had before. -/
def changes (before now : Contents) : Contents :=
  now.filter fun t => before.lookup t.1 != some t.2

/-- A table counts as changed exactly when its rows are not those it had before. -/
theorem mem_changes_iff {before now : Contents} {t : String × List Row} :
    t ∈ before.changes now ↔ t ∈ now ∧ before.lookup t.1 ≠ some t.2 := by
  simp [changes]

/-- The contents as plain data. -/
def toData (c : Contents) : Data :=
  .record (c.map fun (name, rows) => (name, .list (rows.map Row.plain)))

end Contents

end RowGuard
