import RowGuard.Sql.Name

/-!
# Statements

The text of selections, updates and deletions on one table. Conditions that all have to hold are joined
by `AND`; a selection's order follows its conditions on the same line.
-/

namespace RowGuard.Sql

/-- Conditions of which every one has to hold. -/
def conjunction (conditions : List String) : String := " AND ".intercalate conditions

/-- A selection from a table. -/
def selectFrom (d : Dialect) (table : String) (columns conditions order : List String) : String :=
  "SELECT " ++ ", ".intercalate columns ++ " \nFROM " ++ name d table ++ " \nWHERE " ++
    conjunction conditions ++
    (if order.isEmpty then "" else " ORDER BY " ++ ", ".intercalate order)

/-- An update of a table, which may take values from a further source. -/
def updateTable (d : Dialect) (table : String) (assignments : List String) (source : Option String)
    (conditions : List String) : String :=
  "UPDATE " ++ name d table ++ " SET " ++ ", ".intercalate assignments ++
    (source.elim "" (" FROM " ++ ·)) ++ " WHERE " ++ conjunction conditions

/-- A deletion from a table. -/
def deleteFrom (d : Dialect) (table : String) (conditions : List String) : String :=
  "DELETE FROM " ++ name d table ++ " WHERE " ++ conjunction conditions

/-- A value assigned to a column. -/
def assignment (d : Dialect) (col value : String) : String := name d col ++ "=" ++ value

/-- A value chosen by the value of a column: the first alternative that matches, else the last text. -/
def caseOf (subject : String) (alternatives : List (String × String)) (otherwise : String) : String :=
  "CASE " ++ subject ++
    String.join (alternatives.map fun (key, value) => " WHEN " ++ key ++ " THEN " ++ value) ++
    " ELSE " ++ otherwise ++ " END"

/-- Rows of values as a table of the given name and columns. -/
def valuesTable (d : Dialect) (rows : List (List String)) (table : String) (columns : List String) :
    String :=
  "(VALUES " ++ ", ".intercalate (rows.map fun row => "(" ++ ", ".intercalate row ++ ")") ++ ") AS " ++
    name d table ++ " (" ++ ", ".intercalate (columns.map (name d)) ++ ")"

/-- A value converted to a column type. -/
def castTo (type : String) (value : String) : String := "CAST(" ++ value ++ " AS " ++ type ++ ")"

/-- The test that a column has one of some values. -/
def isOneOf (col : String) (values : List String) : String :=
  col ++ " IN (" ++ ", ".intercalate values ++ ")"

end RowGuard.Sql
