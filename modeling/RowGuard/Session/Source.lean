import RowGuard.Registry
import RowGuard.Session.Statement

/-!
# Tables given with their rows

A source describes a table, the rows it starts with and the resource type its rows are of, if they are
of one. Sources make up a database and a registry. A row that the table does not accept is left out.
-/

namespace RowGuard

/-- Adds the rows that a table accepts, each given by the values of its columns in order. -/
def Database.load (db : Database) (s : Schema) (rows : List (List Data)) : Database :=
  rows.foldl (fun (db : Database) row =>
    match db.insert s.name (Assignments.bound s ((s.columns.map (·.name)).zip row)) with
    | .ok changed => changed
    | .error _ => db) db

/-- A table with its rows. Its key is one of its columns, which identifies resources of the type. -/
structure Source where
  name : String
  columns : List (String × ColumnType)
  key : Option String := none
  resource : Option Data := none
  rows : List (List Data) := []

namespace Source

/-- The table's schema: only the key may not be null. -/
def schema (s : Source) : Schema :=
  ⟨s.name, s.columns.map fun (name, type) =>
    { name, type, isKey := s.key == some name, nullable := s.key != some name }⟩

/-- The database of some tables. -/
def database (sources : List Source) : Database :=
  sources.foldl (fun (db : Database) s =>
    Database.load ⟨db.tables ++ [⟨s.schema, []⟩]⟩ s.schema s.rows) ⟨[]⟩

/-- Registers the table for the type its rows are of. -/
def register (r : Registry) (s : Source) : Registry :=
  match s.resource, s.key.bind s.schema.column? with
  | some type, some key => ((r.register type s.schema s.schema key).toOption).getD r
  | _, _ => r

/-- The registry of some tables. -/
def registry (sources : List Source) : Registry := sources.foldl register {}

end Source

end RowGuard
