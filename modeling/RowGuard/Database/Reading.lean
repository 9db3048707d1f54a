import RowGuard.Database.Basic
import RowGuard.Fault

/-!
# Reading stored values

A stored value is read by the type of its column: a truth value is stored as a number, and a member of
an enumeration as its name. A name that the enumeration does not have cannot be read.
-/

namespace RowGuard

namespace Value

/-- A value as it is stored. -/
def plain : Value → Scalar
  | null => .null
  | int n => .int n
  | real x => .real x
  | text s => .text s

/-- A value read as a truth value. -/
def truth : Value → Scalar
  | null => .null
  | int n => .bool (n != 0)
  | real x => .bool !x.isZero
  | text s => .bool (s != "")

end Value

/-- A row as it is stored. -/
def Row.plain (row : Row) : Data := .list (row.map fun v => .scalar v.plain)

/-- Reads a value of the column. -/
def Column.read (c : Column) (v : Value) : Except Fault Scalar :=
  match c.type with
  | .boolean => .ok v.truth
  | .enumeration _ members =>
    match v with
    | .null => .ok .null
    | .text s => if members.contains s then .ok (.text s) else .error (.shape .unknownMember)
    | _ => .error (.shape .unknownMember)
  | _ => .ok v.plain

/-- Reads a row of the table, each value with the name of its column. -/
def Schema.read (s : Schema) (row : Row) : Except Fault (List (String × Scalar)) :=
  (s.columns.zip row).mapM fun (c, v) => do return (c.name, ← c.read v)

end RowGuard
