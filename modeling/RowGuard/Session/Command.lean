import RowGuard.Condition.Meaning
import RowGuard.Database.Order
import RowGuard.Session.Link

/-!
# Commands in SQL text

Statements that are given as text. A few simple forms are understood: selecting, inserting and deleting
rows of one table, where a value is a text, a number or a named parameter, and putting off the check of
references. Text of any other form does not run.
-/

namespace RowGuard

/-- A value in a command. -/
inductive CommandTerm where
  | value (v : Value)
  | parameter (name : String)
deriving DecidableEq

/-- The test that a column has a value. -/
structure CommandFilter where
  column : String
  term : CommandTerm
deriving DecidableEq

/-- A command. A selection without columns selects all of them. -/
inductive Command where
  | select (columns : Option (List String)) (table : String) (filter : Option CommandFilter)
      (order : Option String)
  | insert (table : String) (columns : List String) (terms : List CommandTerm)
  | delete (table : String) (filter : Option CommandFilter)
  | deferReferences (on : Bool)
deriving DecidableEq

/-- What a command answers: rows, or a count of rows, which is `none` where nothing is counted. -/
inductive CommandAnswer where
  | rows (rows : List Row)
  | count (n : Option Nat)
deriving DecidableEq

namespace Command

/-! ## Reading -/

/-- Reads a value. -/
def term? : List SqlToken → Option (CommandTerm × List SqlToken)
  | .text t :: rest => some (.value (.text t), rest)
  | .mark ':' :: .word w :: rest => some (.parameter w, rest)
  | .word w :: rest =>
    match Text.parseInt w with
    | some n => some (.value (.int n), rest)
    | none => if SqlToken.lower w == "null" then some (.value .null, rest) else none
  | _ => none

/-- Reads items of one kind with commas between them, up to a closing bracket. -/
def listed? {α : Type} (item? : List SqlToken → Option (α × List SqlToken)) :
    Nat → List SqlToken → Option (List α × List SqlToken)
  | 0, _ => none
  | fuel + 1, tokens => do
    let (a, rest) ← item? tokens
    match rest with
    | .mark ',' :: more =>
      let (others, after) ← listed? item? fuel more
      return (a :: others, after)
    | .mark ')' :: more => return ([a], more)
    | _ => none

/-- Reads a name. -/
def name? : List SqlToken → Option (String × List SqlToken)
  | t :: rest => do return (← t.name?, rest)
  | [] => none

/-- Reads a filter, if there is one. -/
def filter? (tokens : List SqlToken) : Option (Option CommandFilter × List SqlToken) :=
  match tokens with
  | first :: rest =>
    if first.isKeyword "where" then do
      let (column, rest) ← name? rest
      match rest with
      | .mark '=' :: more =>
        let (term, after) ← term? more
        return (some ⟨column, term⟩, after)
      | _ => none
    else some (none, tokens)
  | [] => some (none, [])

/-- Reads the column that rows are ordered by, at the end of a selection. -/
def order? : List SqlToken → Option (Option String)
  | [] => some none
  | first :: second :: rest =>
    if first.isKeyword "order" && second.isKeyword "by" then
      match name? rest with
      | some (column, []) => some (some column)
      | _ => none
    else none
  | _ => none

/-- Reads the columns of a selection up to the keyword that names the table; a star stands for all. -/
def selected? (tokens : List SqlToken) : Option (Option (List String) × List SqlToken) :=
  match tokens with
  | .mark '*' :: first :: rest => if first.isKeyword "from" then some (none, rest) else none
  | _ =>
    (Scan.columns? tokens.length tokens).map fun (columns, rest) => (some (columns.map (·.1)), rest)

/-- Reads a selection after its first word. -/
def select? (tokens : List SqlToken) : Option Command := do
  let (columns, rest) ← selected? tokens
  let (table, rest) ← name? rest
  let (filter, rest) ← filter? rest
  return .select columns table filter (← order? rest)

/-- Reads an insertion after its first word. -/
def insert? (tokens : List SqlToken) : Option Command := do
  match tokens with
  | first :: rest =>
    if !first.isKeyword "into" then none
    let (table, rest) ← name? rest
    match rest with
    | .mark '(' :: rest =>
      let (columns, rest) ← listed? name? tokens.length rest
      match rest with
      | second :: .mark '(' :: rest =>
        if !second.isKeyword "values" then none
        match ← listed? term? tokens.length rest with
        | (terms, []) =>
          if columns.length = terms.length then return .insert table columns terms else none
        | _ => none
      | _ => none
    | _ => none
  | [] => none

/-- Reads a deletion after its first word. -/
def delete? (tokens : List SqlToken) : Option Command := do
  match tokens with
  | first :: rest =>
    if !first.isKeyword "from" then none
    let (table, rest) ← name? rest
    match ← filter? rest with
    | (filter, []) => return .delete table filter
    | _ => none
  | [] => none

/-- Reads a setting after its first word. -/
def setting? : List SqlToken → Option Command
  | [first, .mark '=', second] =>
    if first.isKeyword "defer_foreign_keys" then some (.deferReferences (second.isKeyword "on"))
    else none
  | _ => none

/-- Reads a command. -/
def ofSql? (sql : String) : Option Command := do
  match ← SqlToken.scan sql.toList with
  | first :: rest =>
    if first.isKeyword "select" then select? rest
    else if first.isKeyword "insert" then insert? rest
    else if first.isKeyword "delete" then delete? rest
    else if first.isKeyword "pragma" then setting? rest
    else none
  | [] => none

/-! ## Meaning -/

/-- The terms of a filter. -/
def filterTerms (filter : Option CommandFilter) : List CommandTerm := (filter.map (·.term)).toList

/-- The terms of a command. -/
def terms : Command → List CommandTerm
  | select _ _ filter _ | delete _ filter => filterTerms filter
  | insert _ _ terms => terms
  | deferReferences _ => []

/-- A term's value; null for a parameter that was not given. -/
def valueOf (parameters : List (String × Data)) : CommandTerm → Value
  | .value v => v
  | .parameter name => ((parameters.lookup name).map fun d => Literal.bound ⟨d, none⟩).getD .null

/-- Why a term has no value, if it has none. -/
def termFault? (parameters : List (String × Data)) : CommandTerm → Option SqlFault
  | .value _ => none
  | .parameter name =>
    match (parameters.lookup name).map (Value.bind none) with
    | none => some .binding
    | some (.error f) => some f
    | some (.ok _) => none

/-- Whether a row passes a filter. -/
def passes (parameters : List (String × Data)) (s : Schema) (filter : Option CommandFilter)
    (row : Row) : Bool :=
  match filter with
  | none => true
  | some f =>
    match Scan.position? s f.column with
    | none => false
    | some i => (s.operand row i).eq (.bare (valueOf parameters f.term))

/-- Whether a filter's column exists. -/
def filterRuns (s : Schema) (filter : Option CommandFilter) : Bool :=
  filter.all fun f => (Scan.position? s f.column).isSome

/-- The table of a name, of which a statement may write capital letters. -/
def table? (db : Database) (name : String) : Except SqlFault Table :=
  ((db.tables.find? fun t => Scan.sameName t.schema.name name).map .ok).getD (.error .operational)

/-- The positions of the columns of a selection. -/
def positions? (s : Schema) (columns : Option (List String)) : Option (List Nat) :=
  match columns with
  | none => some (List.range s.columns.length)
  | some names => names.mapM (Scan.position? s)

/-- The rows in order of a column, if one is given. -/
def ordered (s : Schema) (order : Option String) (rows : List Row) : List Row :=
  match order.bind (Scan.position? s) with
  | none => rows
  | some i => rows.mergeSort fun a b => !(b[i]?.getD .null).lt (a[i]?.getD .null)

/-- What a command answers and what it makes of a database. -/
def run (parameters : List (String × Data)) (db : Database) :
    Command → Except SqlFault (CommandAnswer × Database)
  | select columns name filter order => do
    let t ← table? db name
    let orderRuns := order.all fun c => (Scan.position? t.schema c).isSome
    match positions? t.schema columns, filterRuns t.schema filter && orderRuns with
    | some positions, true =>
      let found := ordered t.schema order
        (t.scanned.filter (passes parameters t.schema filter))
      return (.rows (found.map fun (row : Row) => positions.map fun i => row[i]?.getD .null), db)
    | _, _ => throw .operational
  | insert name columns terms => do
    let t ← table? db name
    match columns.mapM (Scan.position? t.schema) with
    | none => throw .operational
    | some positions =>
      let names := positions.filterMap fun i => t.schema.columns[i]?.map (·.name)
      let changed ← db.insert t.schema.name (names.zip (terms.map (valueOf parameters)))
      return (.count (some 1), changed)
  | delete name filter => do
    let t ← table? db name
    if filterRuns t.schema filter then
      let (changed, n) ← db.delete t.schema.name (passes parameters t.schema filter)
      return (.count (some n), changed)
    else throw .operational
  | deferReferences _ => .ok (.count none, db)

/-- Whether a command is of a kind that changes the database. -/
def writes : Command → Bool
  | insert _ _ _ | delete _ _ => true
  | select _ _ _ _ | deferReferences _ => false

/-- Whether a command puts off the check of references. -/
def defers : Command → Bool
  | deferReferences on => on
  | _ => false

/-- The command as a connection runs it. A parameter without a value is refused at once. -/
def statement (parameters : List (String × Data)) (c : Command) : Link.Statement CommandAnswer where
  refused := c.terms.findSome? (termFault? parameters)
  writes := c.writes
  defers := c.defers
  run db :=
    match c.run parameters db with
    | .error .operational => .error (.sql .operational)
    | outcome =>
      if c.terms.all fun t => (valueOf parameters t).fits then outcome.mapError .sql
      else .error (.shape .outOfRange)

/-- SQL text as a connection runs it. -/
def statementOfSql (sql : String) (parameters : List (String × Data)) :
    Link.Statement CommandAnswer :=
  match ofSql? sql with
  | some c => c.statement parameters
  | none => { run := fun _ => .error (.sql .operational) }

end Command

end RowGuard
