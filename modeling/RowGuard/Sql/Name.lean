import RowGuard.Sql.Dialect

/-!
# Names in statements

A name of a table or column stands as it is when it is a lower-case word that the dialect does not
reserve; any other name is put in double quotes, with the quotes inside it doubled. `isBare_iff` is
that rule. A line break at the end of a name does not keep it from being a word.
-/

namespace RowGuard.Sql

/-- The words that the first dialect reserves. -/
def sqliteReserved : List String := [
  "add", "after", "all", "alter", "analyze", "and", "as", "asc", "attach", "autoincrement",
  "before", "begin", "between", "by", "cascade", "case", "cast", "check", "collate", "column",
  "commit", "conflict", "constraint", "create", "cross", "current_date", "current_time",
  "current_timestamp", "database", "default", "deferrable", "deferred", "delete", "desc",
  "detach", "distinct", "drop", "each", "else", "end", "escape", "except", "exclusive",
  "exists", "explain", "false", "fail", "for", "foreign", "from", "full", "glob", "group",
  "having", "if", "ignore", "immediate", "in", "index", "indexed", "initially", "inner",
  "insert", "instead", "intersect", "into", "is", "isnull", "join", "key", "left", "like",
  "limit", "match", "natural", "not", "notnull", "null", "of", "offset", "on", "or", "order",
  "outer", "plan", "pragma", "primary", "query", "raise", "references", "reindex", "rename",
  "replace", "restrict", "right", "rollback", "row", "select", "set", "table", "temp",
  "temporary", "then", "to", "transaction", "trigger", "true", "union", "unique", "update",
  "using", "vacuum", "values", "view", "virtual", "when", "where"]

/-- The words that the second dialect reserves. -/
def postgresqlReserved : List String := [
  "all", "analyse", "analyze", "and", "any", "array", "as", "asc", "asymmetric", "authorization",
  "between", "binary", "both", "case", "cast", "check", "collate", "column", "constraint",
  "create", "cross", "current_catalog", "current_date", "current_role", "current_schema",
  "current_time", "current_timestamp", "current_user", "default", "deferrable", "desc",
  "distinct", "do", "else", "end", "except", "false", "fetch", "for", "foreign", "freeze",
  "from", "full", "grant", "group", "having", "ilike", "in", "initially", "inner", "intersect",
  "into", "is", "isnull", "join", "leading", "left", "like", "limit", "localtime",
  "localtimestamp", "natural", "new", "not", "notnull", "null", "of", "off", "offset", "old",
  "on", "only", "or", "order", "outer", "over", "overlaps", "placing", "primary", "references",
  "returning", "right", "select", "session_user", "similar", "some", "symmetric", "table",
  "then", "to", "trailing", "true", "union", "unique", "user", "using", "variadic", "verbose",
  "when", "where", "window", "with"]

/-- The words a dialect reserves. -/
def reserved : Dialect → List String
  | .sqlite => sqliteReserved
  | .postgresql => postgresqlReserved

/-- A lower-case letter whose capital is an ASCII letter: besides those of ASCII these are the long s
and the dotless i. -/
def isNameLetter (c : Char) : Bool :=
  c.isLower || c.toNat == 0x17F || c.toNat == 0x131

/-- A character that may stand in an unquoted name. -/
def isNameChar (c : Char) : Bool :=
  isNameLetter c || c.isDigit || c == '_' || c == '$'

/-- A character that may begin an unquoted name. -/
def isNameStart (c : Char) : Bool :=
  isNameLetter c || c == '_'

/-- The characters that make a name a word: all but a line break at its end. -/
def nameChars (name : String) : List Char :=
  if name.toList.getLast? = some '\n' then name.toList.dropLast else name.toList

/-- Whether a name stands without quotes. -/
def isBare (d : Dialect) (name : String) : Bool :=
  (nameChars name).head?.any isNameStart && (nameChars name).all isNameChar &&
    !(reserved d).contains name

/-- A name as it stands in a statement. -/
def name (d : Dialect) (n : String) : String :=
  if isBare d n then n
  else
    "\"" ++ String.ofList
      (escapePercent d (n.toList.flatMap fun c => if c = '"' then ['"', '"'] else [c])) ++ "\""

/-- A column of a table as it stands in a statement. -/
def column (d : Dialect) (table col : String) : String :=
  name d table ++ "." ++ name d col

/-- A character that does not stand in the name of a column that is named after its text. -/
def isLabelGap (c : Char) : Bool :=
  c == '%' || c == '(' || c == ')' || c == ' ' || c == '$'

/-- A text with a low line in place of each run of such characters. -/
def bridgeGaps : List Char → List Char
  | [] => []
  | c :: rest =>
    if !isLabelGap c then c :: bridgeGaps rest
    else if rest.head?.any isLabelGap then bridgeGaps rest
    else '_' :: bridgeGaps rest

/-- The name of the only column that is named after its text. A name that comes close to the limit is
cut off. -/
def anonymousLabel (d : Dialect) (text : String) : String :=
  let label := String.ofList (bridgeGaps text.toList) ++ "_1"
  let room := d.nameLimit - 6
  if label.length ≤ room then label else String.ofList (label.toList.take room) ++ "_1"

theorem isBare_iff (d : Dialect) (n : String) :
    isBare d n = true ↔
      (∃ c, (nameChars n).head? = some c ∧ isNameStart c = true) ∧
        (∀ c ∈ nameChars n, isNameChar c = true) ∧ n ∉ reserved d := by
  simp [isBare, Option.any_eq_true, and_assoc]

end RowGuard.Sql
