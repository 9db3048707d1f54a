import RowGuard.Condition.Render

/-!
# Fragments

A fragment is the text of a condition, compiled for one column. It may be placed into a statement once,
and only for that column: a fragment may refer to queries that have a meaning only in the statement it
was compiled for. Placing it for another column is refused and leaves it fresh.
-/

namespace RowGuard

/-- What a fragment tests: a compiled condition, or trusted text. -/
inductive Predicate where
  | condition (c : Condition)
  | text (sql : String)

/-- A condition supplied for one statement. -/
structure Fragment where
  columnRef : Data
  sql : Data
  action : Data := .text ""
  resourceType : Data := .text ""
  predicate : Predicate
  embedded : Bool := false

/-- A fragment's place among those compiled so far. -/
abbrev FragmentId := Nat

/-- The fragments compiled so far. -/
structure FragmentPool where
  all : Array Fragment := #[]
deriving Inhabited

namespace Fragment

/-- A fragment of trusted text. -/
def ofText (columnRef sql action type : Data) : Fragment :=
  { columnRef, sql, action, resourceType := type, predicate := .text sql.plain }

/-- The names of the fields of a fragment; the first two have to be given. -/
def fieldNames : List String := ["column_ref", "sql", "action", "resource_type"]

/-- A fragment of trusted text with the given fields. -/
def ofFields (fields : List (String × Data)) : Except Fault Fragment :=
  if fields.any fun field => !fieldNames.contains field.1 then .error (.shape .wrongType)
  else
    match fields.lookup "column_ref", fields.lookup "sql" with
    | some columnRef, some sql =>
      .ok <| ofText columnRef sql ((fields.lookup "action").getD (.text ""))
        ((fields.lookup "resource_type").getD (.text ""))
    | _, _ => .error (.shape .wrongType)

/-- The fragment in one line. -/
def describe (f : Fragment) : String :=
  "PredicateFragment(" ++ f.resourceType.plain ++ "." ++ f.action.plain ++ " on " ++
    f.columnRef.plain ++ ", " ++ (if f.embedded then "embedded" else "fresh") ++ ")"

/-- The fragment's text in parentheses. -/
def enclosed (f : Fragment) : String := "(" ++ f.sql.plain ++ ")"

/-- The fragment as an element of a statement. -/
def element (d : Dialect) (f : Fragment) : String := Sql.verbatim d f.enclosed

/-- The fragment as a filter. A dialect without truth values compares it with one. -/
def asFilter (d : Dialect) (f : Fragment) : String :=
  match d with
  | .sqlite => f.element d ++ " = 1"
  | .postgresql => f.element d

/-- The fragment as a result column of the given name. -/
def asColumn (d : Dialect) (label : String) (f : Fragment) : String :=
  f.element d ++ " AS " ++ Sql.name d label

/-- The fragment as a result column under a label. Without a label the column is named after its text. -/
def labelled (d : Dialect) (label : Data) (f : Fragment) : Except Fault String :=
  if !label.truthy then .ok (f.asColumn d (Sql.anonymousLabel d f.enclosed))
  else if !label.isKey then .error (.shape .wrongType)
  else
    match label.text? with
    | some name => .ok (f.asColumn d name)
    | none => .error (.shape .noSuchField)

/-- Places the fragment, for a column if one is given. -/
def embed (f : Fragment) (column : Option String) : Except FragmentFault Fragment :=
  if f.embedded then .error (.embeddedBefore f.action f.resourceType)
  else
    match column with
    | some c =>
      if f.columnRef = .text c then .ok { f with embedded := true }
      else .error (.wrongColumn f.columnRef c)
    | none => .ok { f with embedded := true }

/-- A fragment can be placed exactly when it is fresh and the column, if given, is its own. -/
theorem embed_isOk_iff (f : Fragment) (column : Option String) :
    (∃ g, f.embed column = .ok g) ↔
      f.embedded = false ∧ ∀ c, column = some c → f.columnRef = .text c := by
  unfold embed
  cases f.embedded <;> cases column with
  | none => simp
  | some c => by_cases h : f.columnRef = .text c <;> simp [h]

end Fragment

namespace FragmentPool

/-- Adds a fragment. -/
def add (p : FragmentPool) (f : Fragment) : FragmentPool × FragmentId :=
  (⟨p.all.push f⟩, p.all.size)

/-- The fragment at a place. -/
def get? (p : FragmentPool) (id : FragmentId) : Option Fragment := p.all[id]?

/-- The place of the fragment with a number. A negative number counts back from the end. -/
def find (p : FragmentPool) (number : Data) : Except Fault FragmentId :=
  match number.number?.bind Number.toInt? with
  | none => .error (.shape .wrongType)
  | some n =>
    let place := if n < 0 then n + p.all.size else n
    if 0 ≤ place ∧ place < p.all.size then .ok place.toNat else .error (.shape .missingItem)

/-- Places the fragment with the given number; the answer is the fragment as it was placed. -/
def embed (p : FragmentPool) (id : FragmentId) (column : Option String) :
    Except Fault Fragment × FragmentPool :=
  match p.get? id with
  | none => (.error (.shape .missingItem), p)
  | some f =>
    match f.embed column with
    | .ok f' => (.ok f', ⟨p.all.setIfInBounds id f'⟩)
    | .error e => (.error (.fragment e), p)

end FragmentPool

end RowGuard
