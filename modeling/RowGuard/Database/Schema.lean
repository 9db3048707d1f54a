import RowGuard.Database.Value

/-!
# Schemas

The columns of a table, with their types, keys and references, and its rows. A table's rows are identified by
its key columns; a reference names the column of the table it leads to and says whether a row follows the
row it refers to when that one is deleted.
-/

namespace RowGuard

/-- A reference to the rows of another table. -/
structure Reference where
  table : String
  column : String
  cascades : Bool := false
deriving DecidableEq

/-- A column of a table. Statements call it by its name, and who asks for a change calls it by its label. -/
structure Column where
  name : String
  type : ColumnType
  isKey : Bool := false
  nullable : Bool := false
  reference : Option Reference := none
  preset : Option Value := none
  label : String := name
deriving DecidableEq

/-- A table's name and columns. -/
structure Schema where
  name : String
  columns : List Column
deriving DecidableEq

/-- The values of a row, in the order of the columns. -/
abbrev Row := List Value

/-- A table. -/
structure Table where
  schema : Schema
  rows : List Row
deriving DecidableEq

namespace ColumnType

/-- The type as a column's description shows it. -/
def describe : ColumnType → String
  | text => "Text()"
  | string => "String()"
  | integer => "Integer()"
  | bigInteger => "BigInteger()"
  | numeric => "Numeric()"
  | uuid => "Uuid()"
  | boolean => "Boolean()"
  | enumeration name members =>
    "Enum(" ++ ", ".intercalate (members.map Text.quoted) ++ ", name=" ++ Text.quoted name ++ ")"

end ColumnType

namespace Column

/-- A column of a table as messages show it. -/
def describe (table : String) (c : Column) : String :=
  let parts :=
    [Text.quoted c.name, c.type.describe] ++
      (c.reference.toList.map fun r =>
        "ForeignKey(" ++ Text.quoted (r.table ++ "." ++ r.column) ++ ")") ++
      [s!"table=<{table}>"] ++
      (if c.label = c.name then [] else ["key=" ++ Text.quoted c.label]) ++
      (if c.isKey then ["primary_key=True"] else []) ++
      (if c.nullable then [] else ["nullable=False"])
  "Column(" ++ ", ".intercalate parts ++ ")"

end Column

namespace Schema

/-- The column of a name. -/
def column? (s : Schema) (name : String) : Option Column :=
  s.columns.find? fun c => decide (c.name = name)

/-- The column of a label. -/
def labelled? (s : Schema) (label : String) : Option Column :=
  s.columns.find? fun c => decide (c.label = label)

/-- The name of the column of a label. -/
def nameOf (s : Schema) (label : String) : String := ((s.labelled? label).map (·.name)).getD label

/-- The position of the column of a name. -/
def position? (s : Schema) (name : String) : Option Nat :=
  s.columns.findIdx? fun c => decide (c.name = name)

/-- The column that numbers the rows: the only key column, if it holds whole numbers. -/
def rowNumber? (s : Schema) : Option Column :=
  match s.columns.filter (·.isKey) with
  | [c] => if c.type = .integer then some c else none
  | _ => none

end Schema

end RowGuard
