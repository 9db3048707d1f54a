import RowGuard.Fault
import RowGuard.Sql.Dialect
import RowGuard.Text.Numeral

/-!
# Literals

How a value is written inside a statement. A text stands in single quotes with the quotes inside it
doubled, so that `decodeText` reads it back. A typed literal accepts only the values its type can
hold; a value it cannot hold has no literal.
-/

namespace RowGuard.Sql

/-- The characters of a text between its quotes: a quote is written twice. -/
def encodeText (cs : List Char) : List Char :=
  cs.flatMap fun c => if c = '\'' then ['\'', '\''] else [c]

/-- A text as a literal. -/
def textLiteral (d : Dialect) (s : String) : String :=
  "'" ++ String.ofList (escapePercent d (encodeText s.toList)) ++ "'"

/-- Reads a text literal after its first quote, up to the next quote that is not doubled. The answer
is the text and what follows the literal. -/
def decodeText : List Char → Option (List Char × List Char)
  | [] => none
  | '\'' :: '\'' :: rest => (decodeText rest).map fun (text, after) => ('\'' :: text, after)
  | '\'' :: rest => some ([], rest)
  | c :: rest => (decodeText rest).map fun (text, after) => (c :: text, after)

/-- A truth value as a literal. -/
def boolLiteral : Dialect → Bool → String
  | .sqlite, b => if b then "1" else "0"
  | .postgresql, b => if b then "true" else "false"

/-- The truth value a Boolean column takes a value for: only truth values, zero and one. -/
def asBool? : Scalar → Option Bool
  | .bool b => some b
  | .int 0 => some false
  | .int 1 => some true
  | .real x =>
    match x.dyadic? with
    | some d => if d = 0 then some false else if d = 1 then some true else none
    | none => none
  | _ => none

/-- The whole number an integer literal stands for. -/
def asInt? : Scalar → Option Int
  | .bool b => some (if b then 1 else 0)
  | .int n => some n
  | .real x => x.truncate?
  | .text s => Text.parseInt s
  | _ => none

/-- A value without a type as a literal of its own kind. -/
def untyped (d : Dialect) : Scalar → String
  | .null => "NULL"
  | .bool b => boolLiteral d b
  | .int n => toString n
  | .real x => x.toText
  | .text s => textLiteral d s
  | s => s.plain

/-- The type a value has by its own kind. -/
def kindType : Data → Option ColumnType
  | .bool _ => some .boolean
  | .int _ => some .integer
  | .real _ => some .numeric
  | .text _ => some .text
  | _ => none

/-- The type of a value that is compared with a column: the column's, unless the value is of another
sort. A column of identifiers takes texts too. -/
def comparisonType (column : ColumnType) (value : Data) : ColumnType :=
  match kindType value with
  | some own => if own.sort = column.sort ∨ column = .uuid ∧ own = .text then column else own
  | none => column

/-- A text is compared as a text with all but identifiers. -/
theorem sort_comparisonType_text {column : ColumnType} (h : column ≠ .uuid) (s : String) :
    (comparisonType column (.text s)).sort = .texts := by
  unfold comparisonType
  cases column with
  | uuid => exact absurd rfl h
  | _ => rfl

/-- A scalar as a literal of the given type, or of its own kind without one. -/
def scalarLiteral (d : Dialect) (type : Option ColumnType) (value : Scalar) :
    Except SqlFault String :=
  if value = .null then .ok "NULL"
  else
    match type with
    | none => .ok (untyped d value)
    | some .text | some .string | some (.enumeration _ _) =>
      match value with
      | .text s => .ok (textLiteral d s)
      | _ => .error .literal
    | some .integer | some .bigInteger =>
      match asInt? value with
      | some n => .ok (toString n)
      | none => .error .literal
    | some .numeric =>
      match value with
      | .text s => if Text.isNumeral s then .ok s else .error .literal
      | other => .ok other.shown
    | some .boolean =>
      match asBool? value with
      | some b => .ok (boolLiteral d b)
      | none => .error .literal
    | some .uuid =>
      match d with
      | .sqlite => .error .literal
      | .postgresql => .ok ("'" ++ String.ofList (encodeText value.plain.toList) ++ "'")

/-- A value as a literal of the given type. A list or map has none, unless any text will do. -/
def literal (d : Dialect) (type : Option ColumnType) : Data → Except SqlFault String
  | .scalar s => scalarLiteral d type s
  | value =>
    match type, d with
    | some .uuid, .postgresql =>
      .ok ("'" ++ String.ofList (encodeText value.plain.toList) ++ "'")
    | _, _ => .error .literal

/-- A literal read from its text is the text it was written for, whatever follows it, as long as
that does not begin with another quote. -/
theorem decodeText_encodeText (cs rest : List Char) (h : rest.head? ≠ some '\'') :
    decodeText (encodeText cs ++ '\'' :: rest) = some (cs, rest) := by
  induction cs with
  | nil =>
    cases rest with
    | nil => rfl
    | cons r rs =>
      have hr : r ≠ '\'' := by simpa using h
      simp only [encodeText, List.flatMap_nil, List.nil_append]
      unfold decodeText
      split <;> grind
  | cons c cs ih =>
    by_cases hc : c = '\''
    · subst hc
      simp only [encodeText, List.flatMap_cons, if_true] at ih ⊢
      simp [decodeText, ih]
    · simp only [encodeText, List.flatMap_cons, hc, if_false] at ih ⊢
      simp only [List.cons_append, List.nil_append]
      unfold decodeText
      split <;> simp_all

end RowGuard.Sql
