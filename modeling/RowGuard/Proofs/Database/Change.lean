import RowGuard.Proofs.Database.Conformity
import RowGuard.Proofs.Database.Deletion
import RowGuard.Proofs.Database.Order
import RowGuard.Proofs.Outcome
import RowGuard.Session.Statement

/-!
# Changed databases

What a statement that has run makes of the database. One that inserts or updates gives a table other rows and
leaves the other tables (`Database.Replaced`); one that deletes takes rows from all tables (`rows_without`). A
database that meets its schemas still does so afterwards, if the rows that were written are such as the schema
accepts (`Meets.insert`, `Meets.update`, `Meets.delete`).
-/

namespace RowGuard

theorem ColumnType.ne_null_of_has {t : ColumnType} {v : Value} (h : t.has v = true) : v ≠ .null := by
  rintro rfl
  cases t <;> simp [has] at h

namespace Schema

variable {s : Schema} {c : Column}

theorem type_of_rowNumber? (h : s.rowNumber? = some c) : c.type = .integer := by
  unfold rowNumber? at h
  split at h
  · split at h
    case isTrue htype => exact Option.some.inj h ▸ htype
    case isFalse => simp at h
  · simp at h

/-- A row that the columns' types allow is one that the table admits, where row numbers may not be null. -/
theorem admits_of_accepts {row : Row} (hnumber : ∀ c, s.rowNumber? = some c → c.nullable = false)
    (h : s.Accepts row) : s.admits row = true := by
  refine List.all_eq_true.mpr ?_
  rintro ⟨c, v⟩ hentry
  have haccepts : c.Accepts v := (accepts_iff.mp h).2 _ hentry
  rw [Bool.and_eq_true, Bool.or_eq_true, Bool.or_eq_true]
  refine ⟨?_, ?_⟩
  · rcases haccepts with hhas | ⟨hnull, _⟩
    · exact .inr (by simpa using ColumnType.ne_null_of_has hhas)
    · exact .inl hnull
  · by_cases hc : s.rowNumber? = some c
    · have hhas := haccepts.resolve_right fun hnull => by simp [hnumber c hc] at hnull
      rw [type_of_rowNumber? hc] at hhas
      cases v with
      | int n => exact .inr rfl
      | _ => simp [ColumnType.has] at hhas
    · exact .inl (by simpa using hc)

end Schema

namespace Database

variable {db made : Database} {schemas : List Schema} {s : Schema} {t : Table} {name other : String}
  {rows : List Row} {row : Row} {deleted : List (Schema × Row)}

/-- The database has other rows in one table. -/
structure Replaced (db : Database) (s : Schema) (rows : List Row) (made : Database) : Prop where
  own : made.rows s.name = rows
  others : ∀ name, name ≠ s.name → made.rows name = db.rows name

/-! ## Tables -/

theorem table?_setRows (db : Database) (name other : String) (rows : List Row) :
    (db.setRows name rows).table? other =
      (db.table? other).map fun t => if t.schema.name = name then { t with rows } else t := by
  unfold table? setRows
  rw [List.find?_map]
  congr 2
  funext t
  simp only [Function.comp_apply]
  split <;> rfl

theorem rows_setRows (h : db.table? name = some t) : (db.setRows name rows).rows name = rows := by
  simp only [Database.rows, table?_setRows, h, Option.map_some, (table?_eq_some h).2, if_true, Option.getD_some]

theorem rows_setRows_of_ne (hne : other ≠ name) : (db.setRows name rows).rows other = db.rows other := by
  unfold Database.rows
  rw [table?_setRows]
  cases h : db.table? other with
  | none => rfl
  | some t =>
    have hname : t.schema.name ≠ name := (table?_eq_some h).2 ▸ hne
    simp [hname]

theorem table?_without (db : Database) (deleted : List (Schema × Row)) (name : String) :
    (db.without deleted).table? name = (db.table? name).map fun t =>
      { t with rows := t.rows.filter fun row => !deleted.contains (t.schema, row) } := by
  unfold table? without
  rw [List.find?_map]
  rfl

/-- Of a table stay the rows that were not deleted. -/
theorem rows_without (h : db.table? name = some t) :
    (db.without deleted).rows name = (db.rows name).filter fun row => !deleted.contains (t.schema, row) := by
  simp only [Database.rows, table?_without, h, Option.map_some, Option.getD_some]

theorem mem_rows_without (h : db.table? name = some t) :
    row ∈ (db.without deleted).rows name ↔ row ∈ db.rows name ∧ (t.schema, row) ∉ deleted := by
  simp [rows_without h]

theorem replaceRows_eq_ok (h : db.replaceRows t rows = .ok made) :
    made = db.setRows t.schema.name rows ∧ ({ t with rows } : Table).keysDistinct = true := by
  unfold replaceRows at h
  split at h
  case isTrue hsound =>
    have hboth : (rows.all t.schema.admits && ({ t with rows } : Table).keysDistinct) = true := hsound
    exact ⟨(Except.ok.inj h).symm, (Bool.and_eq_true_iff.mp hboth).2⟩
  case isFalse => simp at h

/-- What rows are changed to one after the other is what replaces them. -/
theorem replaceRows_of_changeRows (h : db.changeRows t rows = .ok made) : db.replaceRows t rows = .ok made := by
  unfold changeRows at h
  split at h
  case isTrue => exact h
  case isFalse => simp at h

/-- Rows that keep their keys can be changed one after the other. -/
theorem takesInTurn_of_keys {change : Row → Row} (hdistinct : t.keysDistinct = true)
    (hkeys : ∀ row ∈ t.rows, t.schema.keyOf (change row) = t.schema.keyOf row) :
    t.takesInTurn (t.rows.map change) = true := by
  simp only [Table.keysDistinct, Table.takesInTurn, Bool.or_eq_true, decide_eq_true_eq] at hdistinct ⊢
  refine hdistinct.imp_right fun hnodup => ?_
  rw [← List.map_prod_left_eq_zip]
  have hscan := t.schema.inScanOrder_perm Prod.fst (t.rows.map fun row => (row, change row))
  have hold : ((t.schema.inScanOrder Prod.fst (t.rows.map fun row => (row, change row))).map
      fun entry => t.schema.keyOf entry.1).Nodup := by
    rw [(hscan.map _).nodup_iff, List.map_map]
    exact hnodup
  refine (List.pairwise_map.mp hold).imp_of_mem fun {earlier later} hearlier _ hne => ?_
  obtain ⟨row, hrow, rfl⟩ := List.mem_map.mp (hscan.mem_iff.mp hearlier)
  rwa [hkeys row hrow]

/-- An update that keeps keys comes to the rows that it gives the table, if the table admits them. -/
theorem update_of_keys {test : Row → Bool} {change : Row → Row} (htable : db.table? name = some t)
    (hdistinct : t.keysDistinct = true) (hkeys : ∀ row ∈ t.rows, test row = true →
      t.schema.keyOf (t.schema.stored (change row)) = t.schema.keyOf row) :
    db.update name test change =
      (db.replaceRows t (t.rows.map fun row => if test row then t.schema.stored (change row) else row)).map
        (·, (t.rows.filter test).length) := by
  have hkept : ∀ row ∈ t.rows,
      t.schema.keyOf (if test row then t.schema.stored (change row) else row) = t.schema.keyOf row := by
    intro row hrow
    by_cases hpasses : test row = true
    · rw [if_pos hpasses, hkeys row hrow hpasses]
    · rw [if_neg hpasses]
  unfold update changeRows
  rw [htable]
  dsimp only
  rw [if_pos (takesInTurn_of_keys hdistinct hkept)]
  cases db.replaceRows t _ <;> rfl

namespace Meets

/-- Giving a table rows that its schema accepts, with distinct keys, keeps to the schemas. -/
theorem setRows (h : db.Meets schemas) (hnames : (schemas.map (·.name)).Nodup) (hs : s ∈ schemas)
    (haccepts : ∀ row ∈ rows, s.Accepts row) (hkeys : (⟨s, rows⟩ : Table).keysDistinct = true) :
    (db.setRows s.name rows).Meets schemas := by
  have htable : ∀ t ∈ db.tables, t.schema.name = s.name → t.schema = s := fun t ht hname =>
    List.inj_on_of_nodup_map hnames (h.schema_mem ht) hs hname
  refine ⟨?_, ?_, ?_⟩
  · rw [← h.schemas_eq, Database.setRows, List.map_map]
    refine List.map_congr_left ?_
    intro t _
    simp only [Function.comp_apply]
    split <;> rfl
  · intro t ht
    obtain ⟨old, hold, rfl⟩ := List.mem_map.mp ht
    by_cases hname : old.schema.name = s.name
    · rw [if_pos hname]
      exact fun row hrow => (htable old hold hname).symm ▸ haccepts row hrow
    · rw [if_neg hname]
      exact h.accepts old hold
  · intro t ht
    obtain ⟨old, hold, rfl⟩ := List.mem_map.mp ht
    by_cases hname : old.schema.name = s.name
    · rw [if_pos hname, htable old hold hname]
      exact hkeys
    · rw [if_neg hname]
      exact h.keys old hold

/-- Deleting rows keeps to the schemas. -/
theorem without (h : db.Meets schemas) (deleted : List (Schema × Row)) : (db.without deleted).Meets schemas := by
  refine ⟨?_, ?_, ?_⟩
  · rw [← h.schemas_eq, Database.without, List.map_map]
    rfl
  · intro t ht row hrow
    obtain ⟨old, hold, rfl⟩ := List.mem_map.mp ht
    exact h.accepts old hold row (List.mem_of_mem_filter hrow)
  · intro t ht
    obtain ⟨old, hold, rfl⟩ := List.mem_map.mp ht
    have hkeys := h.keys old hold
    simp only [Table.keysDistinct, Bool.or_eq_true, decide_eq_true_eq] at hkeys ⊢
    refine hkeys.imp_right ?_
    intro hnodup
    exact hnodup.sublist (List.filter_sublist.map _)

/-- The rows of a table are replaced; if its schema accepts the new ones, the database keeps to the schemas. -/
theorem replaceRows (h : db.Meets schemas) (hnames : (schemas.map (·.name)).Nodup) (hs : s ∈ schemas)
    (hmade : db.replaceRows ⟨s, db.rows s.name⟩ rows = .ok made) :
    db.Replaced s rows made ∧ ((∀ row ∈ rows, s.Accepts row) → made.Meets schemas) := by
  obtain ⟨rfl, hkeys⟩ := replaceRows_eq_ok hmade
  exact ⟨⟨rows_setRows (h.table?_eq hnames hs), fun name hname => rows_setRows_of_ne hname⟩,
    fun haccepts => h.setRows hnames hs haccepts hkeys⟩

/-- Rows that its schema accepts, with distinct keys, can replace those of a table. -/
theorem replaceRows_of_accepts (hnumber : ∀ c, s.rowNumber? = some c → c.nullable = false)
    (haccepts : ∀ row ∈ rows, s.Accepts row) (hkeys : (⟨s, rows⟩ : Table).keysDistinct = true) (old : List Row) :
    db.replaceRows ⟨s, old⟩ rows = .ok (db.setRows s.name rows) := by
  have hsound : (⟨s, rows⟩ : Table).isSound = true :=
    Bool.and_eq_true_iff.mpr ⟨List.all_eq_true.mpr fun row hrow => Schema.admits_of_accepts hnumber (haccepts row hrow),
      hkeys⟩
  unfold Database.replaceRows
  rw [if_pos hsound]

end Meets

end Database

/-! ## Statements -/

namespace Link.Statement

open Database

variable {db made : Database} {schemas : List Schema} {s : Schema} {filter values : Assignments} {n : Nat}

theorem bound_run_eq_ok {α : Type} {known writes : Bool} {literals : List Literal}
    {run : Database → Except SqlFault (α × Database)} {answer : α × Database}
    (h : (bound known writes literals run).run db = .ok answer) :
    run db = .ok answer ∧ Condition.allFit literals = true := by
  unfold bound at h
  dsimp only at h
  split at h
  case h_1 => simp at h
  case h_2 =>
    split at h
    case isFalse => simp at h
    case isTrue hfits => exact ⟨Outcome.mapError_eq_ok_iff.mp h, hfits⟩

/-- A statement whose values can be handed over comes to what it does in the database. -/
theorem bound_run_of_fits {α : Type} {known writes : Bool} {literals : List Literal}
    {run : Database → Except SqlFault (α × Database)} (hfits : Condition.allFit literals = true) (db : Database) :
    (bound known writes literals run).run db = (run db).mapError .sql := by
  unfold bound
  dsimp only
  split
  case h_1 hrun => rw [hrun]; rfl
  case h_2 => rw [if_pos hfits]

/-- It fails in the database, if at all. -/
theorem isSql_of_bound_run {α : Type} {known writes : Bool} {literals : List Literal}
    {run : Database → Except SqlFault (α × Database)} (hfits : Condition.allFit literals = true) {f : Fault}
    (h : (bound known writes literals run).run db = .error f) : f.isSql = true := by
  rw [bound_run_of_fits hfits] at h
  cases hrun : run db with
  | ok answer => simp [hrun, Except.mapError] at h
  | error e =>
    rw [hrun] at h
    cases h
    rfl

theorem insert_run_eq_ok (h : (insert s values).run db = .ok ((), made)) :
    db.insert s.name (values.bound s) = .ok made := by
  obtain ⟨changed, hinsert, hmade⟩ := Outcome.bind_eq_ok_iff.mp (bound_run_eq_ok h).1
  obtain rfl : changed = made := by simpa using hmade
  exact hinsert

theorem insertReturning_run_eq_ok {column : String} {v : Value}
    (h : (insertReturning s values column).run db = .ok (v, made)) :
    db.insert s.name (values.bound s) = .ok made ∧
      v = ((s.position? column).bind fun i => (((made.rows s.name).getLast?).getD [])[i]?).getD .null := by
  obtain ⟨changed, hinsert, hmade⟩ := Outcome.bind_eq_ok_iff.mp (bound_run_eq_ok h).1
  obtain ⟨rfl, rfl⟩ := Prod.mk.inj (Except.ok.inj hmade)
  exact ⟨hinsert, rfl⟩

theorem update_run_eq_ok (h : (update s filter values).run db = .ok (n, made)) :
    db.update s.name (filter.hold s) (values.write s) = .ok (made, n) := by
  obtain ⟨hrun, _⟩ := bound_run_eq_ok h
  dsimp only at hrun
  split at hrun
  case isTrue =>
    obtain ⟨_, hthrow, _⟩ := Outcome.bind_eq_ok_iff.mp hrun
    exact absurd hthrow (by simp [throw, throwThe, MonadExceptOf.throw])
  case isFalse =>
    obtain ⟨⟨changed, count⟩, hupdate, hmade⟩ := Outcome.bind_eq_ok_iff.mp hrun
    obtain ⟨rfl, rfl⟩ : count = n ∧ changed = made := by simpa using hmade
    exact hupdate

theorem delete_run_eq_ok (h : (delete s filter).run db = .ok (n, made)) :
    db.delete s.name (filter.hold s) = .ok (made, n) := by
  obtain ⟨⟨changed, count⟩, hdelete, hmade⟩ := Outcome.bind_eq_ok_iff.mp (bound_run_eq_ok h).1
  obtain ⟨rfl, rfl⟩ : count = n ∧ changed = made := by simpa using hmade
  exact hdelete

/-- A selection gives the rows that pass its filter, and changes nothing. -/
theorem select_run_eq_ok {found : List Row} (h : (select s filter).run db = .ok (found, made)) :
    made = db ∧ ∀ row, row ∈ found ↔ row ∈ db.rows s.name ∧ filter.hold s row = true := by
  obtain ⟨hrun, _⟩ := bound_run_eq_ok h
  cases htable : db.table? s.name with
  | none => simp [htable] at hrun
  | some t =>
    rw [htable] at hrun
    obtain ⟨rfl, rfl⟩ := Prod.mk.inj (Except.ok.inj hrun)
    refine ⟨rfl, fun row => ?_⟩
    simp [Database.rows, htable, List.mem_filter, Table.sortedRows]

end Link.Statement

/-! ## What changes make of tables -/

namespace Database.Meets

variable {db made : Database} {schemas : List Schema} {s : Schema} {n : Nat}

/-- An insertion adds its row. -/
theorem insert (h : db.Meets schemas) (hnames : (schemas.map (·.name)).Nodup) (hs : s ∈ schemas)
    {given : List (String × Value)} (hmade : db.insert s.name given = .ok made) :
    db.Replaced s (db.rows s.name ++ [newRow ⟨s, db.rows s.name⟩ given]) made ∧
      (s.Accepts (newRow ⟨s, db.rows s.name⟩ given) → made.Meets schemas) := by
  unfold Database.insert at hmade
  rw [h.table?_eq hnames hs] at hmade
  dsimp only at hmade
  split at hmade
  case isFalse => simp at hmade
  case isTrue =>
    obtain ⟨hreplaced, hmeets⟩ := h.replaceRows hnames hs hmade
    refine ⟨hreplaced, fun haccepts => hmeets ?_⟩
    intro row hrow
    rcases List.mem_append.mp hrow with hrow | hrow
    · exact h.accepts_of_mem hnames hs hrow
    · obtain rfl := List.mem_singleton.mp hrow
      exact haccepts

/-- A row that the schema accepts, and whose key is not in use, can be inserted. -/
theorem exists_insert (h : db.Meets schemas) (hnames : (schemas.map (·.name)).Nodup) (hs : s ∈ schemas)
    (hnumber : ∀ c, s.rowNumber? = some c → c.nullable = false) {given : List (String × Value)}
    (hgiven : (given.all fun entry => (s.column? entry.1).isSome) = true)
    (haccepts : s.Accepts (newRow ⟨s, db.rows s.name⟩ given))
    (hfresh : ∀ old ∈ db.rows s.name, s.keyOf old ≠ s.keyOf (newRow ⟨s, db.rows s.name⟩ given)) :
    ∃ made, db.insert s.name given = .ok made := by
  unfold Database.insert
  rw [h.table?_eq hnames hs]
  dsimp only
  rw [if_pos hgiven]
  refine ⟨_, replaceRows_of_accepts hnumber ?_ ?_ _⟩
  · intro row hrow
    rcases List.mem_append.mp hrow with hrow | hrow
    · exact h.accepts_of_mem hnames hs hrow
    · obtain rfl := List.mem_singleton.mp hrow
      exact haccepts
  · have hkeys := h.keys _ (table?_eq_some (h.table?_eq hnames hs)).1
    simp only [Table.keysDistinct, Bool.or_eq_true, decide_eq_true_eq] at hkeys ⊢
    refine hkeys.imp_right fun hnodup => ?_
    rw [List.map_append, List.map_singleton, List.nodup_append]
    refine ⟨hnodup, List.nodup_singleton _, ?_⟩
    intro key hkey key' hkey'
    obtain ⟨old, hold, rfl⟩ := List.mem_map.mp hkey
    exact List.mem_singleton.mp hkey' ▸ hfresh old hold

/-- The key of the row that was added last was not in use. -/
theorem keyOf_ne_of_added (h : made.Meets schemas) (hnames : (schemas.map (·.name)).Nodup) (hs : s ∈ schemas)
    (hkey : ∃ c ∈ s.columns, c.isKey = true) {rows : List Row} {row : Row}
    (hrows : made.rows s.name = rows ++ [row]) : ∀ old ∈ rows, s.keyOf old ≠ s.keyOf row := by
  have hkeys := h.keys _ (table?_eq_some (h.table?_eq hnames hs)).1
  have hany : s.columns.any (·.isKey) = true := List.any_eq_true.mpr hkey
  have hnodup : ((rows ++ [row]).map s.keyOf).Nodup := by
    simpa [Table.keysDistinct, hany, hrows] using hkeys
  rw [List.map_append, List.map_singleton] at hnodup
  intro old hold heq
  exact (List.nodup_append.mp hnodup).2.2 _ (List.mem_map_of_mem hold) _ (List.mem_singleton_self _) heq

/-- An update changes the rows that pass its test, and leaves the others. -/
theorem update (h : db.Meets schemas) (hnames : (schemas.map (·.name)).Nodup) (hs : s ∈ schemas)
    {test : Row → Bool} {change : Row → Row} (hmade : db.update s.name test change = .ok (made, n)) :
    db.Replaced s ((db.rows s.name).map fun row => if test row then s.stored (change row) else row) made ∧
      ((∀ row ∈ db.rows s.name, test row = true → s.Accepts (s.stored (change row))) → made.Meets schemas) := by
  unfold Database.update at hmade
  rw [h.table?_eq hnames hs] at hmade
  obtain ⟨changed, hchanged, hpair⟩ := Outcome.bind_eq_ok_iff.mp hmade
  obtain ⟨rfl, _⟩ := Prod.mk.inj (Except.ok.inj hpair)
  obtain ⟨hreplaced, hmeets⟩ := h.replaceRows hnames hs (replaceRows_of_changeRows hchanged)
  refine ⟨hreplaced, fun haccepts => hmeets ?_⟩
  intro row hrow
  obtain ⟨old, hold, rfl⟩ := List.mem_map.mp hrow
  by_cases hpasses : test old = true
  · rw [if_pos hpasses]
    exact haccepts old hold hpasses
  · rw [if_neg hpasses]
    exact h.accepts_of_mem hnames hs hold

/-- Rows can be changed to others that the schema accepts and that have the same keys. -/
theorem exists_update (h : db.Meets schemas) (hnames : (schemas.map (·.name)).Nodup) (hs : s ∈ schemas)
    (hnumber : ∀ c, s.rowNumber? = some c → c.nullable = false) {test : Row → Bool} {change : Row → Row}
    (hchange : ∀ row ∈ db.rows s.name, test row = true →
      s.Accepts (s.stored (change row)) ∧ s.keyOf (s.stored (change row)) = s.keyOf row) :
    ∃ made, db.update s.name test change = .ok (made, ((db.rows s.name).filter test).length) := by
  have hkeys := h.keys _ (table?_eq_some (h.table?_eq hnames hs)).1
  rw [update_of_keys (h.table?_eq hnames hs) hkeys fun row hrow hpasses => (hchange row hrow hpasses).2,
    replaceRows_of_accepts hnumber ?_ ?_ _]
  · exact ⟨_, rfl⟩
  · intro row hrow
    obtain ⟨old, hold, rfl⟩ := List.mem_map.mp hrow
    by_cases hpasses : test old = true
    · rw [if_pos hpasses]
      exact (hchange old hold hpasses).1
    · rw [if_neg hpasses]
      exact h.accepts_of_mem hnames hs hold
  · have hsame : ((db.rows s.name).map fun row => if test row then s.stored (change row) else row).map s.keyOf =
        (db.rows s.name).map s.keyOf := by
      rw [List.map_map]
      refine List.map_congr_left fun row hrow => ?_
      by_cases hpasses : test row = true
      · simpa [hpasses] using (hchange row hrow hpasses).2
      · simp [hpasses]
    simp only [Table.keysDistinct, hsame] at hkeys ⊢
    exact hkeys

/-- A deletion takes the rows that pass its test and those that go with them, from whichever table. -/
theorem delete (h : db.Meets schemas) (hnames : (schemas.map (·.name)).Nodup) (hs : s ∈ schemas)
    {test : Row → Bool} (hmade : db.delete s.name test = .ok (made, n)) :
    made.Meets schemas ∧ ∃ deleted, made = db.without deleted ∧
      ∀ e, e ∈ deleted ↔ db.Goes (((db.rows s.name).filter test).map fun row => (s, row)) e := by
  unfold Database.delete at hmade
  rw [h.table?_eq hnames hs] at hmade
  obtain ⟨rfl, _⟩ := Prod.mk.inj (Except.ok.inj hmade)
  exact ⟨h.without _, _, rfl, fun e => mem_withFollowers_iff⟩

end Database.Meets

end RowGuard
