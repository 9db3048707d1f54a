import RowGuard.Condition.Meaning
import RowGuard.Fragment.Basic

/-!
# The meaning of a fragment

Which rows of a table pass a fragment. A compiled condition is tested on the row's identity. Trusted
text is understood when it is one term or compares two; text of another form does not run. As a filter a
fragment lets through the rows for which its value is one; as a permission it grants whatever its
value is unless that is zero or null.
-/

namespace RowGuard

/-- A term of trusted text. -/
inductive Term where
  | null
  | value (v : Value)
  | column (table : Option String) (name : String)
deriving DecidableEq

/-- Trusted text that is understood: one term, or the comparison of two. -/
inductive TextPredicate where
  | term (t : Term)
  | equal (a b : Term)
deriving DecidableEq

namespace TextPredicate

/-- Reads a term at the start of some pieces. -/
def term? : List SqlToken → Option (Term × List SqlToken)
  | a :: .mark '.' :: b :: rest => do return (.column (some (← a.name?)) (← b.name?), rest)
  | .text t :: rest => some (.value (.text t), rest)
  | .word w :: rest =>
    match Text.parseInt w with
    | some n => some (.value (.int n), rest)
    | none =>
      if SqlToken.lower w == "null" then some (.null, rest)
      else (SqlToken.word w).name?.map fun n => (.column none n, rest)
  | .name n :: rest => some (.column none n, rest)
  | _ => none

/-- Reads trusted text. -/
def ofSql? (sql : String) : Option TextPredicate := do
  let (a, rest) ← term? (← SqlToken.scan sql.toList)
  match rest with
  | [] => return .term a
  | .mark '=' :: more =>
    match ← term? more with
    | (b, []) => return .equal a b
    | _ => none
  | _ => none

/-- Whether a term's column belongs to the table. -/
def termRuns (s : Schema) : Term → Bool
  | .column table name =>
    table.all (Scan.sameName s.name) && (Scan.position? s name).isSome
  | _ => true

/-- Whether the text's columns belong to the table. -/
def runs (s : Schema) : TextPredicate → Bool
  | term t => termRuns s t
  | equal a b => termRuns s a && termRuns s b

/-- A term's value on a row. -/
def operand (s : Schema) (row : Row) : Term → Operand
  | .null => .bare .null
  | .value v => .bare v
  | .column _ name =>
    match Scan.position? s name with
    | some i => s.operand row i
    | none => .bare .null

/-- The text's value on a row. -/
def valueOn (s : Schema) (row : Row) : TextPredicate → Value
  | term t => (operand s row t).value
  | equal a b =>
    let x := operand s row a
    let y := operand s row b
    if x.value = .null || y.value = .null then .null else .int (if x.eq y then 1 else 0)

end TextPredicate

/-- Whether the name of a table's column can stand in a statement as it is. -/
def isUsableRef (s : Schema) (columnRef : String) : Bool :=
  match SqlToken.scan columnRef.toList with
  | some [a, .mark '.', b] =>
    match a.name?, b.name? with
    | some t, some c => Scan.sameName s.name t && (Scan.position? s c).isSome
    | _, _ => false
  | _ => false

namespace Fragment

/-- Whether a database reads the fragment's text to its end: a null character would end it before. -/
def isWhole (f : Fragment) : Bool := !f.sql.plain.toList.contains '\x00'

/-- Whether a statement on a table runs with the fragment in it. -/
def runs (db : Database) (s : Schema) (f : Fragment) : Bool :=
  match f.predicate with
  | .condition c =>
    f.isWhole && c.isReadable && c.runs db &&
      (!c.mentionsTarget || isUsableRef s f.columnRef.plain)
  | .text sql => (TextPredicate.ofSql? sql).any (·.runs s)

/-- The fragment's value on a row, whose identity stands at the given position. -/
def valueOn (db : Database) (s : Schema) (identity : Nat) (f : Fragment) (row : Row) : Value :=
  match f.predicate with
  | .condition c => .int (if c.holds db Literal.written (s.operand row identity) then 1 else 0)
  | .text sql => ((TextPredicate.ofSql? sql).map (·.valueOn s row)).getD .null

/-- Whether a row passes the fragment as a filter. -/
def admits (db : Database) (s : Schema) (identity : Nat) (f : Fragment) (row : Row) : Bool :=
  (f.valueOn db s identity row).toNumeric.eq (.int 1)

/-- Whether the fragment grants a permission on a row. -/
def grants (db : Database) (s : Schema) (identity : Nat) (f : Fragment) (row : Row) : Bool :=
  match f.valueOn db s identity row with
  | .null => false
  | .int n => n != 0
  | .real x => !x.isZero
  | .text t => t != ""

end Fragment

end RowGuard
