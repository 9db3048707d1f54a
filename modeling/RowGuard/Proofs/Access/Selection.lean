import RowGuard.Facts.Rows

/-!
# Rows of selections

A selection from a table that there is, by columns that it has, answers the table's rows that pass its filter,
each read at the places of the selected columns (`Subquery.rows?_eq_ok`).
-/

namespace RowGuard

namespace Scan

/-- Where the named result columns stand in a table, each with whether it is read as text. -/
def places? (s : Schema) (scan : Scan) (names : List String) : Option (List (Nat × Bool)) := do
  let _ ← scan.columns.mapM fun c => position? s c.1
  names.mapM fun name => do
    let (source, _, asText) ← scan.columns.find? fun c => sameName c.2.1 name
    return (← position? s source, asText)

/-- Which rows of a table are selected. -/
def takes? (s : Schema) (scan : Scan) : Option (Row → Bool) :=
  match scan.filter with
  | none => some fun _ => true
  | some f => (position? s (filterColumn f)).map fun i row => passes s row i f

/-- A row as it is read at some places. -/
def readAt (s : Schema) (places : List (Nat × Bool)) (row : Row) : List Operand :=
  places.map fun (i, asText) => selected s row i asText

variable {db : Database} {scan : Scan} {t : Table} {names : List String} {places : List (Nat × Bool)}
  {takes : Row → Bool}

theorem rows?_eq_some (htable : db.tables.find? (fun t => sameName t.schema.name scan.table) = some t)
    (hplaces : scan.places? t.schema names = some places) (htakes : scan.takes? t.schema = some takes) :
    scan.rows? db names = some ((t.rows.filter takes).map (readAt t.schema places)) := by
  obtain ⟨columns, hcolumns, hplaces⟩ := Option.bind_eq_some_iff.mp hplaces
  unfold rows?
  rw [htable, Option.bind_eq_bind, Option.bind_some, hcolumns, Option.bind_eq_bind, Option.bind_some, hplaces]
  unfold takes? at htakes
  cases hfilter : scan.filter with
  | none =>
    simp only [hfilter, Option.some.injEq] at htakes
    subst htakes
    rw [List.filter_eq_self.mpr fun _ _ => rfl]
    rfl
  | some f =>
    simp only [hfilter, Option.map_eq_some_iff] at htakes
    obtain ⟨i, hi, rfl⟩ := htakes
    simp only [hi, Option.map_some, Option.bind_eq_bind, Option.bind_some]
    rfl

/-- Where there are rows, the table and its columns are found. -/
theorem exists_of_rows?_eq_some {rows : List (List Operand)} (h : scan.rows? db names = some rows) :
    ∃ t places takes, db.tables.find? (fun t => sameName t.schema.name scan.table) = some t ∧
      scan.places? t.schema names = some places ∧ scan.takes? t.schema = some takes := by
  unfold rows? at h
  simp only [Option.bind_eq_bind] at h
  obtain ⟨t, htable, h⟩ := Option.bind_eq_some_iff.mp h
  obtain ⟨columns, hcolumns, h⟩ := Option.bind_eq_some_iff.mp h
  obtain ⟨places, hplaces, h⟩ := Option.bind_eq_some_iff.mp h
  have htakes : ∃ takes, scan.takes? t.schema = some takes := by
    unfold takes?
    cases hfilter : scan.filter with
    | none => exact ⟨_, rfl⟩
    | some f =>
      simp only [hfilter] at h
      obtain ⟨kept, hkept, _⟩ := Option.bind_eq_some_iff.mp h
      obtain ⟨i, hi, _⟩ := Option.map_eq_some_iff.mp hkept
      exact ⟨_, congrArg (Option.map _) hi⟩
  obtain ⟨takes, htakes⟩ := htakes
  exact ⟨t, places, takes, htable, Option.bind_eq_some_iff.mpr ⟨columns, hcolumns, hplaces⟩, htakes⟩

end Scan

namespace Subquery

variable {db : Database} {q : Subquery} {scan : Scan} {t : Table} {places : List (Nat × Bool)}
  {takes : Row → Bool}

theorem rows?_eq_ok (hscan : Scan.ofQuery q.query = .ok scan)
    (htable : db.tables.find? (fun t => Scan.sameName t.schema.name scan.table) = some t)
    (hplaces : scan.places? t.schema (q.columns.map (·.1.plain)) = some places)
    (htakes : scan.takes? t.schema = some takes) :
    q.rows? db = .ok ((t.rows.filter takes).map (Scan.readAt t.schema places)) := by
  have hrows := Scan.rows?_eq_some htable hplaces htakes
  unfold rows?
  simp only [hscan, bind, Except.bind, hrows]

/-- A query that runs is a selection from a table that there is. -/
theorem exists_of_rows?_eq_ok {rows : List (List Operand)} (h : q.rows? db = .ok rows) :
    ∃ scan t places takes, Scan.ofQuery q.query = .ok scan ∧
      db.tables.find? (fun t => Scan.sameName t.schema.name scan.table) = some t ∧
      scan.places? t.schema (q.columns.map (·.1.plain)) = some places ∧ scan.takes? t.schema = some takes := by
  unfold rows? at h
  cases hscan : Scan.ofQuery q.query with
  | error e => simp [hscan, bind, Except.bind] at h
  | ok scan =>
    simp only [hscan, bind, Except.bind] at h
    split at h
    case h_1 hrows =>
      obtain ⟨t, places, takes, hfound⟩ := Scan.exists_of_rows?_eq_some hrows
      exact ⟨scan, t, places, takes, rfl, hfound⟩
    case h_2 => simp at h

end Subquery

end RowGuard
