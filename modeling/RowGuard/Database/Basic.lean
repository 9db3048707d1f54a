import RowGuard.Database.Order

/-!
# Databases

A database is a list of tables, a table its schema and its rows. Inserting, updating and deleting
rows keeps keys unique and columns non-null; references are checked for the database as a whole,
after a statement or, when they are deferred, when a transaction is committed. A row with a cascading
reference is deleted with the row it refers to. Rows are changed one after the other, in the order in which
a scan finds them: a key that another row still has cannot be taken, and a row that has gone with one
deleted before it is not counted.
-/

namespace RowGuard

/-- A database. -/
structure Database where
  tables : List Table
deriving DecidableEq

namespace Schema

/-- The value of a column in a row, with the column's affinity. -/
def operand (s : Schema) (row : Row) (i : Nat) : Operand :=
  ⟨row[i]?.getD .null, (s.columns[i]?.map (·.type.affinity)).getD .none⟩

/-- The key of a row. -/
def keyOf (s : Schema) (row : Row) : List Value :=
  ((s.columns.zip row).filter fun entry => entry.1.isKey).map (·.2)

/-- Whether every column that may not be null has a value, and the row number is a number. -/
def admits (s : Schema) (row : Row) : Bool :=
  (s.columns.zip row).all fun (c, v) =>
    (c.nullable || v != .null) &&
      (s.rowNumber? != some c || match v with
        | .int _ => true
        | _ => false)

/-- The row's values as its columns store them. -/
def stored (s : Schema) (row : Row) : Row :=
  (s.columns.zip row).map fun (c, v) => c.type.affinity.apply v

end Schema

namespace Table

/-- Whether no two rows have the same key. -/
def keysDistinct (t : Table) : Bool :=
  !t.schema.columns.any (·.isKey) || decide (t.rows.map t.schema.keyOf).Nodup

/-- Whether every row is one the schema admits, and keys are distinct. -/
def isSound (t : Table) : Bool :=
  t.rows.all t.schema.admits && t.keysDistinct

/-- Whether keys stay distinct while the rows are replaced by others one after the other: no row takes the
key of one whose turn is still to come. -/
def takesInTurn (t : Table) (rows : List Row) : Bool :=
  !t.schema.columns.any (·.isKey) ||
    decide ((t.schema.inScanOrder Prod.fst (t.rows.zip rows)).Pairwise fun earlier later =>
      t.schema.keyOf earlier.2 ≠ t.schema.keyOf later.1)

/-- One more than the greatest row number; one where there is no row. -/
def nextNumber (t : Table) (i : Nat) : Int :=
  let numbers : List Int := t.rows.filterMap fun (row : Row) =>
    match row[i]? with
    | some (.int n) => some n
    | _ => none
  (numbers.max?.map (· + 1)).getD 1

/-- The values of a column, one for each row. -/
def values (t : Table) (i : Nat) : List Value :=
  t.rows.map fun row => row[i]?.getD .null

end Table

namespace Database

/-- The table of a name. -/
def table? (db : Database) (name : String) : Option Table :=
  db.tables.find? fun t => decide (t.schema.name = name)

/-- The rows of a table; none if there is no such table. -/
def rows (db : Database) (name : String) : List Row :=
  ((db.table? name).map (·.rows)).getD []

/-- The database with other rows in a table. -/
def setRows (db : Database) (name : String) (rows : List Row) : Database :=
  ⟨db.tables.map fun t => if t.schema.name = name then { t with rows } else t⟩

/-- Whether a value refers to a row that exists. Null refers to nothing. -/
def resolves (db : Database) (r : Reference) (v : Value) : Bool :=
  v == .null ||
    match db.table? r.table with
    | none => false
    | some parent =>
      match parent.schema.position? r.column with
      | none => false
      | some i => (parent.values i).any fun other => v.eq other

/-- Whether every reference of a row leads to a row. -/
def rowResolves (db : Database) (s : Schema) (row : Row) : Bool :=
  (s.columns.zip row).all fun (c, v) => c.reference.all fun r => db.resolves r v

/-- Whether every reference leads to a row. -/
def isConsistent (db : Database) : Bool :=
  db.tables.all fun t => t.rows.all (db.rowResolves t.schema)

/-- Whether a reference leads from a value to a row of a table. -/
def leadsTo (s : Schema) (row : Row) (r : Reference) (v : Value) : Bool :=
  r.table == s.name &&
    match s.position? r.column with
    | none => false
    | some i => v.eq (row[i]?.getD .null)

/-- The rows of all tables, each with the schema of its table. -/
def entries (db : Database) : List (Schema × Row) :=
  db.tables.flatMap fun t => t.rows.map fun row => (t.schema, row)

/-- Whether a row goes with another one that is deleted. -/
def follows (deleted entry : Schema × Row) : Bool :=
  (entry.1.columns.zip entry.2).any fun (c, v) =>
    c.reference.any fun r => r.cascades && leadsTo deleted.1 deleted.2 r v

/-- The rows that go with deleted rows and are not among these. -/
def followers (db : Database) (deleted : List (Schema × Row)) : List (Schema × Row) :=
  db.entries.filter fun e => !deleted.contains e && deleted.any (follows · e)

/-- Deleted rows together with the rows that go with them, and those that go with these in turn. -/
def withFollowers (db : Database) (deleted : List (Schema × Row)) : List (Schema × Row) :=
  if (db.followers deleted).isEmpty then deleted
  else withFollowers db (deleted ++ db.followers deleted)
termination_by (db.entries.filter fun e => !deleted.contains e).length
decreasing_by
  -- a follower is a row that was kept so far and is deleted now
  obtain ⟨e, he⟩ := List.exists_mem_of_ne_nil _ (by simpa using ‹¬(db.followers deleted).isEmpty = true›)
  have hkept := (List.mem_filter.mp he)
  simp only [Bool.and_eq_true] at hkept
  have hsub : (db.entries.filter fun e => !(deleted ++ db.followers deleted).contains e) =
      (db.entries.filter fun e => !deleted.contains e).filter fun e =>
        !(db.followers deleted).contains e := by
    rw [List.filter_filter]
    congr 1
    funext e
    simp [Bool.and_comm]
  rw [hsub]
  apply List.length_filter_lt_length_iff_exists.mpr
  exact ⟨e, List.mem_filter.mpr ⟨hkept.1, hkept.2.1⟩, by simpa using he⟩

/-- The rows that go with a deleted row. -/
def goingWith (db : Database) (deleted : Schema × Row) : List (Schema × Row) :=
  db.withFollowers (db.entries.filter (follows deleted))

/-- How many of the rows are still there when their turn to be deleted comes: those that have not gone with
one before them. -/
def countInTurn (db : Database) (gone : List (Schema × Row)) : List (Schema × Row) → Nat
  | [] => 0
  | e :: rest =>
    if gone.contains e then countInTurn db gone rest
    else countInTurn db (gone ++ db.goingWith e) rest + 1

/-- The database without some rows. -/
def without (db : Database) (deleted : List (Schema × Row)) : Database :=
  ⟨db.tables.map fun t =>
    { t with rows := t.rows.filter fun row => !deleted.contains (t.schema, row) }⟩

/-- Replaces the rows of a table by rows that it has to admit. -/
def replaceRows (db : Database) (t : Table) (rows : List Row) : Except SqlFault Database :=
  if ({ t with rows } : Table).isSound then .ok (db.setRows t.schema.name rows)
  else .error .constraint

/-- Changes the rows of a table, one after the other, to rows that it has to admit. -/
def changeRows (db : Database) (t : Table) (rows : List Row) : Except SqlFault Database :=
  if t.takesInTurn rows then db.replaceRows t rows else .error .constraint

/-- The value of a column in a new row: the one given, else its preset, else the next row number. -/
def newValue (t : Table) (i : Nat) (c : Column) (given : Option Value) : Value :=
  match given with
  | some v => if v = .null && t.schema.rowNumber? = some c then .int (t.nextNumber i) else v
  | none =>
    match c.preset with
    | some v => v
    | none => if t.schema.rowNumber? = some c then .int (t.nextNumber i) else .null

/-- The row that a statement with the given values inserts. -/
def newRow (t : Table) (given : List (String × Value)) : Row :=
  t.schema.stored <|
    t.schema.columns.zipIdx.map fun (c, i) => newValue t i c (given.lookup c.name)

/-- Inserts a row. -/
def insert (db : Database) (name : String) (given : List (String × Value)) :
    Except SqlFault Database :=
  match db.table? name with
  | none => .error .operational
  | some t =>
    if given.all fun entry => (t.schema.column? entry.1).isSome then
      db.replaceRows t (t.rows ++ [newRow t given])
    else .error .literal

/-- Changes the rows that pass a test; the answer says how many did. -/
def update (db : Database) (name : String) (test : Row → Bool) (change : Row → Row) :
    Except SqlFault (Database × Nat) :=
  match db.table? name with
  | none => .error .operational
  | some t => do
    let changed ← db.changeRows t <| t.rows.map fun row =>
      if test row then t.schema.stored (change row) else row
    return (changed, (t.rows.filter test).length)

/-- Deletes the rows that pass a test, and the rows that go with them; the answer says how many of those
that pass were still there in their turn. -/
def delete (db : Database) (name : String) (test : Row → Bool) :
    Except SqlFault (Database × Nat) :=
  match db.table? name with
  | none => .error .operational
  | some t =>
    let deleted := t.rows.filter test
    let inTurn := t.scanned.filter test
    .ok (db.without (db.withFollowers (deleted.map fun row => (t.schema, row))),
      db.countInTurn [] (inTurn.map fun row => (t.schema, row)))

end Database

end RowGuard
