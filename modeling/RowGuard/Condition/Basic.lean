import RowGuard.Facts.Book

/-!
# Conditions

A condition says which resources a subject holds a grant on. It is a list of clauses of which one has to
hold; without any it never holds. A clause asks for a role on the resource, for a global role, for a
condition on a related resource, or for an attribute of the resource, and each is answered by the
rows of a fact query.
-/

namespace RowGuard

/-- A value written into a statement, with the type it is given. -/
structure Literal where
  value : Data
  type : Option ColumnType
deriving DecidableEq

/-- One way for a condition to hold. -/
inductive Clause where
  /-- The subject has one of the roles on the resource: rows of actor, role, resource. -/
  | role (fact : Subquery) (subject : Literal) (roles : List String)
  /-- The subject has one of the roles on the system as a whole: rows of actor, role. -/
  | globalRole (fact : Subquery) (subject : Literal) (roles : List String)
  /-- The resource is related to one that meets a condition: rows of resource, related resource. -/
  | related (fact : Subquery) (inner : List Clause)
  /-- The resource has an attribute: rows of resource. -/
  | hasAttribute (fact : Subquery)

/-- A condition: one of the clauses has to hold. -/
abbrev Condition := List Clause

/-- A clause together with what it stands for. -/
structure Way where
  label : String
  clause : Clause

namespace Clause

/-- Whether the clause speaks of the resource at all. -/
def mentionsTarget : Clause → Bool
  | globalRole _ _ _ => false
  | role _ _ _ | related _ _ | hasAttribute _ => true

/-- The roles of a role clause as literals that the role column is compared with. -/
def roleLiterals (fact : Subquery) (roles : List String) : List Literal :=
  roles.map fun r => ⟨.text r, fact.comparedTypeAt 1 (.text r)⟩

end Clause

/-- The condition that a list of ways makes up. -/
def Condition.ofWays (ways : List Way) : Condition := ways.map (·.clause)

end RowGuard
