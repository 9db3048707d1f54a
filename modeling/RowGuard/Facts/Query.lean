import RowGuard.Sql.Literal
import RowGuard.Sql.Name
import RowGuard.Text.Blank
import RowGuard.Text.WordChar

/-!
# Fact queries

A fact is answered by a query whose columns line up with the fact's arguments: either a selection
from one table, which carries its column types, or SQL text with the names of its result columns.
`Subquery` is a query as it stands in a condition, where the columns of SQL text have received their
types by position.
-/

namespace RowGuard

/-- A column of a selection; a role column may be read as plain text. -/
structure SelectedColumn where
  name : String
  type : ColumnType
  asText : Bool := false
deriving DecidableEq

/-- Which rows of its table a selection takes. -/
inductive RowFilter where
  | equals (column : String) (type : Option ColumnType) (value : Data)
  | isTrue (column : String)
deriving DecidableEq

/-- A selection of columns from one table. -/
structure Selection where
  table : String
  columns : List SelectedColumn
  filter : Option RowFilter := none
  distinct : Bool := false
deriving DecidableEq

/-- A query answering one fact. The columns of SQL text are what a document says they are and need not
be texts. -/
inductive FactQuery where
  | selection (s : Selection)
  | sql (text : String) (columns : List Data)
deriving DecidableEq

/-- A query inside a condition, with its result columns. -/
structure Subquery where
  query : FactQuery
  columns : List (Data × Option ColumnType)
deriving DecidableEq

/-- A column that a selection has selected before, with the number of the repetition among those of the
selection. -/
structure Repetition where
  table : String
  column : String
  number : Nat
deriving DecidableEq

namespace Repetition

/-- The name of a repeated column in a statement, of which all repetitions so far are given: those of
columns of one name are counted. -/
def label (all : List Repetition) (r : Repetition) : String :=
  let alike := all.eraseDups.filter fun other => other.column == r.column
  r.column ++ "__" ++ toString (alike.idxOf r + 1)

end Repetition

namespace SelectedColumn

/-- The type of the column's values. -/
def resultType (c : SelectedColumn) : ColumnType :=
  if c.asText then .string else c.type

/-- The column as it is selected under a name. -/
def render (d : Dialect) (table label : String) (c : SelectedColumn) : String :=
  let source := Sql.column d table c.name
  (if c.asText then "CAST(" ++ source ++ " AS VARCHAR)" else source) ++ " AS " ++ Sql.name d label

end SelectedColumn

namespace RowFilter

/-- The filter as it stands after `WHERE`. -/
def render (d : Dialect) (table : String) : RowFilter → Except SqlFault String
  | equals col _ .null => .ok (Sql.column d table col ++ " IS NULL")
  | equals col type value => do
    return Sql.column d table col ++ " = " ++ (← Sql.literal d type value)
  | isTrue col => .ok (Sql.column d table col ++ " IS " ++ Sql.boolLiteral d true)

end RowFilter

namespace Selection

/-- What repeats among the names of columns, each of them for its place. `before` holds the names that
stand before, and `next` is the number of the next repetition. -/
def repetitionsFrom (table : String) (before : List String) (next : Nat) :
    List String → List (Option Repetition)
  | [] => []
  | name :: rest =>
    if before.contains name then
      some ⟨table, name, next⟩ :: repetitionsFrom table before (next + 1) rest
    else none :: repetitionsFrom table (name :: before) next rest

/-- What repeats among the selected columns, each of them for its place. -/
def repetitions (s : Selection) : List (Option Repetition) :=
  repetitionsFrom s.table [] 1 (s.columns.map (·.name))

/-- The selection as a statement, after other selections with the given repetitions. -/
def render (d : Dialect) (before : List Repetition) (s : Selection) : Except SqlFault String := do
  let all := before ++ s.repetitions.filterMap id
  let columns := (s.columns.zip s.repetitions).map fun (c, r) =>
    c.render d s.table ((r.map (Repetition.label all)).getD c.name)
  let condition ←
    match s.filter with
    | none => pure ""
    | some f => do pure (" \nWHERE " ++ (← f.render d s.table))
  return "SELECT " ++ (if s.distinct then "DISTINCT " else "") ++ ", ".intercalate columns ++
    " \nFROM " ++ Sql.name d s.table ++ condition

end Selection

namespace FactQuery

/-- The number of result columns. -/
def arity : FactQuery → Nat
  | selection s => s.columns.length
  | sql _ columns => columns.length

/-- The query inside a condition; the types are those of SQL text's columns by position. -/
def toSubquery (types : List (Option ColumnType)) (q : FactQuery) : Subquery :=
  match q with
  | selection s => ⟨q, s.columns.map fun c => (.text c.name, some c.resultType)⟩
  | sql _ columns => ⟨q, columns.zipIdx.map fun (name, i) => (name, types[i]?.join)⟩

/-- What repeats among the columns that the query selects. -/
def repetitions : FactQuery → List Repetition
  | selection s => s.repetitions.filterMap id
  | sql _ _ => []

/-- The name of a parameter at the start of a text. A word that a colon follows gives up its last
character to it. -/
def parameterName (cs : List Char) : List Char :=
  let word := cs.takeWhile Text.isWordChar
  if (cs.drop word.length).head? = some ':' then word.dropLast else word

/-- SQL text with null in place of every parameter, which has no value: a colon and a name, unless a
word, a colon or a backslash stands before. `before` is the character before the text. -/
def withoutParameters (before : Option Char) : List Char → List Char
  | [] => []
  | c :: rest =>
    let bounded := before.any fun b => b == ':' || b == '\\' || Text.isWordChar b
    if c == ':' && !bounded && !(parameterName rest).isEmpty then
      "NULL".toList ++
        withoutParameters (parameterName rest).getLast? (rest.drop (parameterName rest).length)
    else c :: withoutParameters (some c) rest
termination_by cs => cs.length
decreasing_by
  all_goals simp only [List.length_cons, List.length_drop]
  all_goals omega

/-- Whether a character may stand in a word of SQL text. -/
def isSqlWordChar (c : Char) : Bool :=
  Text.isWordChar c || c == '$'

/-- SQL text without the backslashes that only keep a colon from beginning a parameter. -/
def withoutEscapes : List Char → List Char
  | '\\' :: ':' :: rest =>
    let word := rest.takeWhile isSqlWordChar
    let after := rest.dropWhile isSqlWordChar
    if after.head? = some ':' then '\\' :: ':' :: withoutEscapes rest
    else ':' :: word ++ withoutEscapes after
  | c :: rest => c :: withoutEscapes rest
  | [] => []
termination_by cs => cs.length
decreasing_by
  all_goals simp only [List.length_cons]
  all_goals grind [Text.length_dropWhile_le]

/-- SQL text as it stands in a statement. -/
def plainText (cs : List Char) : List Char := withoutEscapes (withoutParameters none cs)

/-- Whether the query has parameters. -/
def hasParameters : FactQuery → Bool
  | selection _ => false
  | sql text _ => withoutParameters none text.toList != text.toList

/-- The query as it stands inside a statement, after other queries. -/
def render (d : Dialect) (before : List FactQuery) : FactQuery → Except SqlFault String
  | selection s => s.render d (before.flatMap repetitions)
  | sql text _ => .ok (String.ofList (plainText (Sql.escapePercent d text.toList)))

end FactQuery

namespace Subquery

/-- The type of a result column. -/
def typeAt (q : Subquery) (i : Nat) : Option ColumnType :=
  (q.columns[i]?).bind (·.2)

/-- The type of a value that is compared with a result column. -/
def comparedTypeAt (q : Subquery) (i : Nat) (value : Data) : Option ColumnType :=
  (q.typeAt i).map fun column => Sql.comparisonType column value

/-- A text that is compared with a column of texts has the column's type. -/
theorem comparedTypeAt_text {q : Subquery} {i : Nat} (h : ∀ t, q.typeAt i = some t → t.sort = .texts)
    (s : String) : q.comparedTypeAt i (.text s) = q.typeAt i := by
  unfold comparedTypeAt
  cases ht : q.typeAt i with
  | none => rfl
  | some column =>
    have hsort : ColumnType.text.sort = column.sort := (h column ht).symm
    simp [Sql.comparisonType, Sql.kindType, hsort]

/-- The name of a result column. -/
def nameAt (q : Subquery) (i : Nat) : Data :=
  (q.columns[i]?.map (·.1)).getD (.text "")

/-- A result column of the subquery under the given alias. -/
def columnRef (d : Dialect) (tableAlias : String) (q : Subquery) (i : Nat) : String :=
  tableAlias ++ "." ++ Sql.name d (q.nameAt i).plain

/-- Why a name cannot be written as that of a column, if it cannot. -/
def nameFault? : Data → Option Fault
  | .text s => if s.isEmpty then some (.shape .missingItem) else none
  | .null => some (.sql .literal)
  | _ => some (.shape .noSuchField)

/-- Why a name cannot be that of a column of a whole statement, if it cannot. -/
def labelFault? (name : Data) : Option Fault :=
  if name = .null || name.text?.isSome then nameFault? name else some (.shape .wrongType)

/-- Names as result columns; a repeated name gets a label that counts its repetitions. `before` holds
the names that stand before. -/
def labelled (d : Dialect) (before : List String) : List String → List String
  | [] => []
  | name :: rest =>
    let column := "anon_1." ++ Sql.name d name
    let repetition := before.count name
    (if repetition = 0 then column
      else column ++ " AS " ++ Sql.name d (name ++ "_" ++ toString repetition)) ::
        labelled d (name :: before) rest

/-- Every result column of the subquery, as a statement of its own. -/
def renderSelect (d : Dialect) (q : Subquery) : Except Fault String :=
  match q.columns.findSome? fun c => labelFault? c.1 with
  | some f => .error f
  | none => do
    let columns := labelled d [] (q.columns.map (·.1.plain))
    return "SELECT " ++ ", ".intercalate columns ++ " \nFROM (" ++
      (← (q.query.render d []).mapError .sql) ++ ") AS anon_1"

end Subquery

end RowGuard
