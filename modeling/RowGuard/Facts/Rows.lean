import RowGuard.Database.Basic
import RowGuard.Facts.Query

/-!
# The rows of a fact query

What a fact query answers on a database. SQL text is understood in one form, a selection of columns
from one table with at most one condition; other text has no rows and no statement with it runs. A
subquery's columns are found by name among the query's result columns, whose names do not tell
capital letters apart.
-/

namespace RowGuard

/-- A piece of SQL text: a word, a name in double quotes, a text in single quotes, or a mark. -/
inductive SqlToken where
  | word (w : String)
  | name (n : String)
  | text (t : String)
  | mark (c : Char)
deriving DecidableEq

namespace SqlToken

/-- A text between quotes of one kind, up to the next one that is not doubled. -/
def quotedBy (quote : Char) : List Char → Option (List Char × List Char)
  | [] => none
  | [c] => if c = quote then some ([], []) else none
  | c :: d :: rest =>
    if c = quote then
      if d = quote then (quotedBy quote rest).map fun (t, after) => (quote :: t, after)
      else some ([], d :: rest)
    else (quotedBy quote (d :: rest)).map fun (t, after) => (c :: t, after)

theorem quotedBy_length_lt (quote : Char) (cs : List Char) {t after : List Char}
    (h : quotedBy quote cs = some (t, after)) : after.length < cs.length := by
  fun_induction quotedBy quote cs generalizing t after with
  | case1 => simp at h
  | case2 | case3 => simp_all
  | case4 _ ih =>
    obtain ⟨⟨t', after'⟩, h', heq⟩ := Option.map_eq_some_iff.mp h
    have := ih h'
    simp only [Prod.mk.injEq] at heq
    simp only [List.length_cons]
    grind
  | case5 => simp_all
  | case6 _ _ _ _ ih =>
    obtain ⟨⟨t', after'⟩, h', heq⟩ := Option.map_eq_some_iff.mp h
    have := ih h'
    simp only [Prod.mk.injEq] at heq
    simp only [List.length_cons] at *
    grind

/-- The pieces of SQL text; `none` if a quote is not closed or if the text has a null character, at
which a database would stop to read. -/
def scan (cs : List Char) : Option (List SqlToken) :=
  if cs.contains '\x00' then none else pieces cs
where
  /-- The pieces of SQL text without null characters. -/
  pieces (cs : List Char) : Option (List SqlToken) :=
  match cs with
  | [] => some []
  | c :: rest =>
    if Text.isBlank c then pieces rest
    else if c = '\'' then
      match _h : quotedBy '\'' rest with
      | some (t, after) => (pieces after).map (.text (String.ofList t) :: ·)
      | none => none
    else if c = '"' then
      match _h : quotedBy '"' rest with
      | some (t, after) => (pieces after).map (.name (String.ofList t) :: ·)
      | none => none
    else if FactQuery.isSqlWordChar c then
      (pieces (rest.dropWhile FactQuery.isSqlWordChar)).map
        (.word (String.ofList (c :: rest.takeWhile FactQuery.isSqlWordChar)) :: ·)
    else (pieces rest).map (.mark c :: ·)
  termination_by cs.length
  decreasing_by
    · simp
    · have := quotedBy_length_lt _ _ ‹quotedBy _ rest = _›
      simp only [List.length_cons]
      omega
    · have := quotedBy_length_lt _ _ ‹quotedBy _ rest = _›
      simp only [List.length_cons]
      omega
    · have := Text.length_dropWhile_le FactQuery.isSqlWordChar rest
      simp only [List.length_cons]
      omega
    · simp

/-- The words that cannot be names without quotes. -/
def keywords : List String := [
  "add", "all", "alter", "and", "as", "autoincrement", "between", "case", "check", "collate",
  "commit", "constraint", "create", "default", "deferrable", "delete", "distinct", "drop", "else",
  "escape", "exists", "foreign", "from", "group", "having", "in", "index", "insert", "intersect",
  "into", "is", "isnull", "limit", "not", "nothing", "notnull", "null", "on", "or", "order",
  "primary", "references", "returning", "select", "set", "table", "then", "to", "transaction",
  "union", "unique", "update", "using", "values", "when", "where"]

/-- The ASCII letters of a text in lower case. -/
def lower (s : String) : String :=
  String.ofList (s.toList.map Char.toLower)

/-- Whether a piece is the given keyword. -/
def isKeyword (k : String) : SqlToken → Bool
  | word w => lower w == k
  | _ => false

/-- The name a piece stands for. -/
def name? : SqlToken → Option String
  | word w =>
    if keywords.contains (lower w) || w.toList.head?.any (fun c => c.isDigit || c == '$') then none
    else some w
  | name n => some n
  | _ => none

end SqlToken

/-- Which rows of a table a scan takes. -/
inductive ScanFilter where
  | equals (column : String) (value : Value)
  | isNull (column : String)
  | holds (column : String)
deriving DecidableEq

/-- A selection by names alone: each column with the name of its result and whether it is read as
text. -/
structure Scan where
  table : String
  columns : List (String × String × Bool)
  filter : Option ScanFilter := none
deriving DecidableEq

namespace Scan

/-- Whether two names are the same up to capital letters. -/
def sameName (a b : String) : Bool :=
  SqlToken.lower a == SqlToken.lower b

/-- A column, which may be written with its table. -/
def column? : List SqlToken → Option (String × List SqlToken)
  | a :: .mark '.' :: b :: rest => do
    let _ ← a.name?
    return (← b.name?, rest)
  | a :: rest => do return (← a.name?, rest)
  | [] => none

/-- The columns up to the keyword that names the table. -/
def columns? : Nat → List SqlToken → Option (List (String × String × Bool) × List SqlToken)
  | 0, _ => none
  | fuel + 1, tokens => do
    let (source, rest) ← column? tokens
    let (result, rest) ←
      match rest with
      | a :: b :: more => if a.isKeyword "as" then do pure (← b.name?, more) else pure (source, rest)
      | _ => pure (source, rest)
    match rest with
    | .mark ',' :: more =>
      let (others, after) ← columns? fuel more
      return ((source, result, false) :: others, after)
    | a :: more => if a.isKeyword "from" then some ([(source, result, false)], more) else none
    | [] => none

/-- The condition of a selection, at its end. -/
def filter? (tokens : List SqlToken) : Option (Option ScanFilter) := do
  match tokens with
  | [] => return none
  | first :: rest =>
    if !first.isKeyword "where" then none
    let (col, rest) ← column? rest
    match rest with
    | [] => return some (.holds col)
    | [.mark '=', .text t] => return some (.equals col (.text t))
    | [.mark '=', .word w] => return some (.equals col (.int (← Text.parseInt w)))
    | _ => none

/-- Understands SQL text as a selection from one table. -/
def ofSql? (sql : String) : Option Scan := do
  let tokens ← SqlToken.scan sql.toList
  match tokens with
  | first :: rest =>
    if !first.isKeyword "select" then none
    let rest := match rest with
      | d :: more => if d.isKeyword "distinct" then more else rest
      | [] => []
    let (columns, rest) ← columns? tokens.length rest
    match rest with
    | t :: more => return ⟨← t.name?, columns, ← filter? more⟩
    | [] => none
  | [] => none

/-- A selection with types as a selection by names. -/
def ofSelection (s : Selection) : Except SqlFault Scan := do
  let filter ←
    match s.filter with
    | none => pure none
    | some (.equals col _ .null) => pure (some (.isNull col))
    | some (.equals col type v) => do
      pure (some (.equals col (← Value.bind type v)))
    | some (.isTrue col) => pure (some (.equals col (.int 1)))
  return ⟨s.table, s.columns.map fun c => (c.name, c.name, c.asText), filter⟩

/-- What a query selects. -/
def ofQuery : FactQuery → Except SqlFault Scan
  | .selection s => ofSelection s
  | .sql text _ =>
    ((ofSql? (String.ofList (FactQuery.plainText text.toList))).map .ok).getD (.error .operational)

/-- The position of a column by its name. -/
def position? (s : Schema) (name : String) : Option Nat :=
  s.columns.findIdx? fun c => sameName c.name name

/-- Whether a row passes the filter whose column stands at the given position. -/
def passes (s : Schema) (row : Row) (i : Nat) : ScanFilter → Bool
  | .equals _ v => (s.operand row i).eq (.bare v)
  | .isNull _ => (s.operand row i).value == .null
  | .holds _ => (s.operand row i).value.holds

/-- The name of the column a filter is about. -/
def filterColumn : ScanFilter → String
  | .equals c _ | .isNull c | .holds c => c

/-- A selected value; one that is read as text has the affinity of text. -/
def selected (s : Schema) (row : Row) (i : Nat) (asText : Bool) : Operand :=
  let source := s.operand row i
  if asText then ⟨source.value.toText, .text⟩ else source

/-- The rows of the named result columns; `none` if a table or column does not exist. -/
def rows? (db : Database) (scan : Scan) (names : List String) : Option (List (List Operand)) := do
  let t ← db.tables.find? fun t => sameName t.schema.name scan.table
  let _ ← scan.columns.mapM fun c => position? t.schema c.1
  let columns ← names.mapM fun name => do
    let (source, _, asText) ← scan.columns.find? fun c => sameName c.2.1 name
    return (← position? t.schema source, asText)
  let kept : List Row ←
    match scan.filter with
    | none => some t.rows
    | some f => (position? t.schema (filterColumn f)).map fun i =>
      t.rows.filter fun (row : Row) => passes t.schema row i f
  return kept.map fun (row : Row) =>
    columns.map fun (i, asText) => selected t.schema row i asText

end Scan

namespace Subquery

/-- The rows of a subquery. -/
def rows? (db : Database) (q : Subquery) : Except SqlFault (List (List Operand)) := do
  let scan ← Scan.ofQuery q.query
  match scan.rows? db (q.columns.map (·.1.plain)) with
  | some rows => .ok rows
  | none => .error .operational

/-- The rows of a subquery; none if it does not run. -/
def rows (db : Database) (q : Subquery) : List (List Operand) :=
  match q.rows? db with
  | .ok rows => rows
  | .error _ => []

end Subquery

end RowGuard
