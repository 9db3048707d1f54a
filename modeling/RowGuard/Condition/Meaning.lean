import RowGuard.Condition.Render
import RowGuard.Facts.Rows

/-!
# The meaning of a condition

Whether a condition holds of a resource, given the rows that its fact queries answer on a database. Two
values are compared as the database compares them. A statement with a condition does not run if one of
its fact queries does not, whether or not the rows would have been needed.
-/

namespace RowGuard

namespace Literal

/-- The value that is bound for the literal; null if it cannot be bound. -/
def bound (l : Literal) : Value :=
  match Value.bind l.type l.value with
  | .ok v => v
  | .error _ => .null

/-- A whole number as it reads in a statement: one that is too large reads as a real number. -/
def writtenInt (n : Int) : Value :=
  if Value.isStorable n then .int n else .real (Binary64.ofInt n)

/-- The value that a scalar's text denotes in a statement. -/
def writtenScalar (type : Option ColumnType) (s : Scalar) : Value :=
  match type, s with
  | _, .null => .null
  | some .integer, v | some .bigInteger, v => ((Sql.asInt? v).map writtenInt).getD .null
  | some .boolean, v => ((Sql.asBool? v).map fun b => .int (if b then 1 else 0)).getD .null
  | some .numeric, .text s => Value.toNumeric (.text s)
  | _, .int n => writtenInt n
  | _, v => Value.ofScalar v

/-- The value that the literal's text denotes in a statement. -/
def written (l : Literal) : Value :=
  match l.value with
  | .scalar s => writtenScalar l.type s
  | _ => .null

/-- Whether a database can read the literal's text: what stands there as a number has to be one. -/
def isReadable (l : Literal) : Bool :=
  match l.type, l.value with
  | some .numeric, .text s => (Value.spelled? s).isSome
  | _, .real x => x.dyadic?.isSome
  | _, _ => true

end Literal

/-- A column of a row of operands. -/
def operandAt (row : List Operand) (i : Nat) : Operand := row[i]?.getD default

namespace Clause

/-- Whether a row's actor is the subject and its role one of the given ones. -/
def actorMatches (value : Literal → Value) (fact : Subquery) (subject : Literal)
    (roles : List String) (row : List Operand) : Bool :=
  (operandAt row 0).eq (.bare (value subject)) &&
    (roleLiterals fact roles).any fun r => (operandAt row 1).eq (.bare (value r))

mutual

/-- Whether the clause holds of a resource. The value of a literal depends on how it is handed over. -/
def holds (db : Database) (value : Literal → Value) (target : Operand) : Clause → Bool
  | role fact subject roles =>
    (fact.rows db).any fun row =>
      actorMatches value fact subject roles row && target.eq (operandAt row 2)
  | globalRole fact subject roles =>
    (fact.rows db).any fun row => actorMatches value fact subject roles row
  | related fact inner =>
    (fact.rows db).any fun row =>
      target.eq (operandAt row 0) && someHolds db value (operandAt row 1) inner
  | hasAttribute fact => (fact.rows db).any fun row => target.eq (operandAt row 0)

/-- Whether one of the clauses holds of a resource. -/
def someHolds (db : Database) (value : Literal → Value) (target : Operand) : List Clause → Bool
  | [] => false
  | c :: rest => holds db value target c || someHolds db value target rest

end

mutual

/-- The fact queries of the clause. -/
def facts : Clause → List Subquery
  | role fact _ _ | globalRole fact _ _ | hasAttribute fact => [fact]
  | related fact inner => fact :: factsOfAll inner

/-- The fact queries of the clauses. -/
def factsOfAll : List Clause → List Subquery
  | [] => []
  | c :: rest => facts c ++ factsOfAll rest

end

mutual

/-- The literals of the clause. -/
def literals : Clause → List Literal
  | role fact subject roles | globalRole fact subject roles => subject :: roleLiterals fact roles
  | related _ inner => literalsOfAll inner
  | hasAttribute _ => []

/-- The literals of the clauses. -/
def literalsOfAll : List Clause → List Literal
  | [] => []
  | c :: rest => literals c ++ literalsOfAll rest

end

end Clause

namespace Condition

/-- Whether the condition holds of a resource. -/
def holds (db : Database) (value : Literal → Value) (target : Operand) (c : Condition) : Bool :=
  Clause.someHolds db value target c

/-- Whether every fact query of the condition runs. -/
def runs (db : Database) (c : Condition) : Bool :=
  (Clause.factsOfAll c).all fun fact => (fact.rows? db).toBool

/-- Whether a fact query of the condition has parameters, for which there are no values. -/
def hasParameters (c : Condition) : Bool :=
  (Clause.factsOfAll c).any fun fact => fact.query.hasParameters

/-- The literal that a fact query's filter compares with. -/
def filterLiteral? (fact : Subquery) : Option Literal :=
  match fact.query with
  | .selection ⟨_, _, some (.equals _ type value), _⟩ =>
    if value = .null then none else some ⟨value, type⟩
  | _ => none

/-- Every literal of the condition, the target's included if it is one. -/
def literals (c : Condition) (target : Option Literal) : List Literal :=
  (if c.mentionsTarget then target.toList else []) ++ Clause.literalsOfAll c ++
    (Clause.factsOfAll c).filterMap filterLiteral?

/-- Whether a database can read every literal in the condition's text. -/
def isReadable (c : Condition) : Bool := (c.literals none).all Literal.isReadable

/-- The first refusal to bind one of some literals. -/
def bindFault? (ls : List Literal) : Option SqlFault :=
  ls.findSome? fun l =>
    match Value.bind l.type l.value with
    | .ok _ => none
    | .error e => some e

/-- Whether every literal's value can be handed over. -/
def allFit (ls : List Literal) : Bool := ls.all fun l => l.bound.fits

end Condition

end RowGuard
