/-!
# Dialects and column types

SQL text is written for one of two dialects. They differ in reserved words, in the text of truth
values, and in whether a percent sign has to be doubled because the driver reads it as the start of a
parameter.
-/

namespace RowGuard

/-- The dialect SQL text is written for. -/
inductive Dialect where
  | sqlite
  | postgresql
deriving DecidableEq, Inhabited

/-- The name of a dialect. -/
def Dialect.name : Dialect → String
  | sqlite => "sqlite"
  | postgresql => "postgresql"

/-- Whether a percent sign in statement text is doubled. -/
def Dialect.doublesPercent : Dialect → Bool
  | sqlite => false
  | postgresql => true

/-- How many characters a name has at most. -/
def Dialect.nameLimit : Dialect → Nat
  | sqlite => 9999
  | postgresql => 63

/-- The type of a column or of a literal. -/
inductive ColumnType where
  | text
  | string
  | integer
  | bigInteger
  | numeric
  | uuid
  | boolean
  | enumeration (name : String) (members : List String)
deriving DecidableEq, Inhabited

/-- The type's name in a cast. -/
def ColumnType.sqlName : ColumnType → String
  | text => "TEXT"
  | string => "VARCHAR"
  | integer => "INTEGER"
  | bigInteger => "BIGINT"
  | numeric => "NUMERIC"
  | uuid => "UUID"
  | boolean => "BOOLEAN"
  | enumeration name _ => name

/-- The sorts of types among which a value needs no type of its own. -/
inductive TypeSort where
  | texts
  | integers
  | numbers
  | truths
  | uuids
deriving DecidableEq

/-- The sort of a type. -/
def ColumnType.sort : ColumnType → TypeSort
  | text | string | enumeration _ _ => .texts
  | integer | bigInteger => .integers
  | numeric => .numbers
  | boolean => .truths
  | uuid => .uuids

namespace Sql

/-- Statement text with every percent sign doubled where the dialect asks for it. -/
def escapePercent (d : Dialect) (cs : List Char) : List Char :=
  if d.doublesPercent then cs.flatMap fun c => if c = '%' then ['%', '%'] else [c] else cs

/-- Undoes the doubling of percent signs, as the driver does before it sends a statement. -/
def unescapePercent : List Char → List Char
  | [] => []
  | '%' :: '%' :: rest => '%' :: unescapePercent rest
  | c :: rest => c :: unescapePercent rest

theorem unescapePercent_escapePercent_postgresql (cs : List Char) :
    unescapePercent (escapePercent .postgresql cs) = cs := by
  simp only [escapePercent, Dialect.doublesPercent, if_true]
  induction cs with
  | nil => rfl
  | cons c rest ih =>
    by_cases h : c = '%'
    · subst h
      simp [unescapePercent, ih]
    · simp [unescapePercent, h, ih]

end Sql

end RowGuard
