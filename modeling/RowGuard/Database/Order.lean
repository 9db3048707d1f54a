import RowGuard.Database.Schema

/-!
# The order of values and rows

A null comes before every number, and a number before every text. Numbers are ordered by what they
denote and texts by their characters; rows are ordered by their values from left to right.
-/

namespace RowGuard

namespace Value

/-- The class a value is ordered by first. -/
def rank : Value → Nat
  | null => 0
  | int _ | real _ => 1
  | text _ => 2

/-- Whether a value comes strictly before another. -/
def lt (a b : Value) : Bool :=
  match a, b with
  | text s, text t => decide (s < t)
  | _, _ =>
    match a.number?, b.number? with
    | some x, some y => x.atMost y && !y.atMost x
    | _, _ => decide (a.rank < b.rank)

theorem lt_irrefl (a : Value) : a.lt a = false := by
  cases a <;> simp [lt, number?, rank]

end Value

namespace Row

/-- Whether a row does not come after another. -/
def le : Row → Row → Bool
  | [], _ => true
  | _ :: _, [] => false
  | a :: as, b :: bs => a.lt b || (!b.lt a && le as bs)

end Row

/-- Items that each have a row, as a scan of the whole table finds their rows: by row number if there is one,
else in the order in which they were inserted. -/
def Schema.inScanOrder {α : Type} (s : Schema) (row : α → Row) (items : List α) : List α :=
  match s.rowNumber?.bind fun c => s.position? c.name with
  | some i => items.mergeSort fun a b => !((row b)[i]?.getD .null).lt ((row a)[i]?.getD .null)
  | none => items

namespace Table

/-- The rows in order of all their columns. -/
def sortedRows (t : Table) : List Row := t.rows.mergeSort Row.le

/-- The rows as a scan of the whole table finds them. -/
def scanned (t : Table) : List Row := t.schema.inScanOrder id t.rows

end Table

end RowGuard
