import RowGuard.Condition.Basic

/-!
# The text of a condition

A condition is written with every value in place, so its text needs no parameters. Each fact query
becomes a derived table, whose alias is numbered by the fact queries that come before it in the text.
Only a condition that consists of several clauses needs its `EXISTS` tests in parentheses.
-/

namespace RowGuard

/-- The alias of a fact query that comes after others. -/
def anonymous (before : List FactQuery) : String := "anon_" ++ toString (before.length + 1)

/-- A literal as it stands in a statement. -/
def Literal.render (d : Dialect) (l : Literal) : Except SqlFault String :=
  Sql.literal d l.type l.value

/-- Text that stands in a statement as it is, apart from the driver's own marks. -/
def Sql.verbatim (d : Dialect) (text : String) : String :=
  String.ofList (escapePercent d text.toList)

/-- Whether the clause is an `EXISTS` test. -/
def Clause.isExists : Clause → Bool
  | .globalRole _ _ _ => true
  | _ => false

/-- The test that a row's actor is the subject and its role one of the given ones. -/
def renderActorTest (d : Dialect) (tableAlias : String) (fact : Subquery) (subject : Literal)
    (roles : List String) : Except SqlFault String := do
  let who ← subject.render d
  let which ← (Clause.roleLiterals fact roles).mapM (Literal.render d)
  return fact.columnRef d tableAlias 0 ++ " = " ++ who ++ " AND " ++ fact.columnRef d tableAlias 1 ++
    " IN (" ++ ", ".intercalate which ++ ")"

/-- Clauses of which one has to hold, as one text. -/
def joinAlternatives (d : Dialect) (texts : List String) : String :=
  if texts.isEmpty then Sql.boolLiteral d false else " OR ".intercalate texts

mutual

/-- The text of a clause about the target, and the fact queries up to its end. -/
def Clause.render (d : Dialect) (target : String) (before : List FactQuery) :
    Clause → Except SqlFault (String × List FactQuery)
  | .role fact subject roles => do
    let tableAlias := anonymous before
    let query ← fact.query.render d before
    let test ← renderActorTest d tableAlias fact subject roles
    return (target ++ " IN (SELECT " ++ fact.columnRef d tableAlias 2 ++ " \nFROM (" ++ query ++ ") AS " ++
      tableAlias ++ " \nWHERE " ++ test ++ ")", before ++ [fact.query])
  | .globalRole fact subject roles => do
    let tableAlias := anonymous before
    let query ← fact.query.render d before
    let test ← renderActorTest d tableAlias fact subject roles
    return ("EXISTS (SELECT 1 \nFROM (" ++ query ++ ") AS " ++ tableAlias ++ " \nWHERE " ++ test ++ ")",
      before ++ [fact.query])
  | .related fact inner => do
    let tableAlias := anonymous before
    let query ← fact.query.render d before
    let (texts, last) ←
      renderEach d (fact.columnRef d tableAlias 1) (decide (inner.length ≠ 1)) (before ++ [fact.query]) inner
    return (target ++ " IN (SELECT " ++ fact.columnRef d tableAlias 0 ++ " \nFROM (" ++ query ++ ") AS " ++
      tableAlias ++ " \nWHERE " ++ joinAlternatives d texts ++ ")", last)
  | .hasAttribute fact => do
    let tableAlias := anonymous before
    let query ← fact.query.render d before
    return (target ++ " IN (SELECT " ++ fact.columnRef d tableAlias 0 ++ " \nFROM (" ++ query ++ ") AS " ++
      tableAlias ++ ")", before ++ [fact.query])

/-- The texts of clauses about one target, aliases running on from one to the next. -/
def renderEach (d : Dialect) (target : String) (several : Bool) (before : List FactQuery) :
    List Clause → Except SqlFault (List String × List FactQuery)
  | [] => .ok ([], before)
  | c :: rest => do
    let (text, after) ← c.render d target before
    let (texts, last) ← renderEach d target several after rest
    return ((if several && c.isExists then "(" ++ text ++ ")" else text) :: texts, last)

end

/-- Why a name that the clauses use as that of a column cannot be written, if there is such a name. -/
def Clause.nameFault? : Clause → Option Fault
  | .role fact _ _ => [2, 0, 1].findSome? fun i => Subquery.nameFault? (fact.nameAt i)
  | .globalRole fact _ _ => [0, 1].findSome? fun i => Subquery.nameFault? (fact.nameAt i)
  | .hasAttribute fact => Subquery.nameFault? (fact.nameAt 0)
  | .related fact inner =>
    (Subquery.nameFault? (fact.nameAt 0)).or <|
      (if inner.any Clause.mentionsTarget then Subquery.nameFault? (fact.nameAt 1) else none).or
        (ofAll inner)
where
  /-- The first such reason among several clauses. -/
  ofAll : List Clause → Option Fault
  | [] => none
  | c :: rest => (Clause.nameFault? c).or (ofAll rest)

/-- The text of a condition on the target. -/
def Condition.render (d : Dialect) (target : String) (c : Condition) : Except SqlFault String := do
  let (texts, _) ← renderEach d target (decide (c.length ≠ 1)) [] c
  return joinAlternatives d texts

/-- Why a value cannot be written as the column that a condition is about, if it cannot. -/
def Sql.refFault? (d : Dialect) : Data → Option Fault
  | .text _ => none
  | .null => some (.sql .literal)
  | _ => some (.shape (if d.doublesPercent then .noSuchField else .wrongType))

namespace Condition

/-- Whether the condition's text contains its target. -/
def mentionsTarget (c : Condition) : Bool := c.any Clause.mentionsTarget

/-- The text of a condition on a column. -/
def forColumn (d : Dialect) (columnRef : Data) (c : Condition) : Except Fault String :=
  match (if c.mentionsTarget then Sql.refFault? d columnRef else none).or (Clause.nameFault?.ofAll c) with
  | some f => .error f
  | none => (c.render d (Sql.verbatim d columnRef.plain)).mapError .sql

/-- The text of a condition on a literal, which matters only if the condition speaks of it. -/
def forLiteral (d : Dialect) (target : Literal) (c : Condition) : Except Fault String :=
  match Clause.nameFault?.ofAll c with
  | some f => .error f
  | none => Except.mapError .sql do
    c.render d (← if c.mentionsTarget then target.render d else .ok "")

end Condition

/-- The condition that a way makes up alone. -/
def Way.condition (w : Way) : Condition := [w.clause]

end RowGuard
