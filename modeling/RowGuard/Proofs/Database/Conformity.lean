import Mathlib.Data.List.Find
import Mathlib.Data.List.Forall2
import Mathlib.Data.List.Nodup
import RowGuard.Facts.Rows

/-!
# Databases that meet their schemas

In a database that meets its schemas (`Database.Meets`) every table has the rows that its columns' types allow,
and no two of them with the same key. What references lead to is not part of it: that is checked for the
database as a whole, and only when a statement or a transaction ends.
-/

namespace RowGuard

namespace ColumnType

/-- Whether a column of the type has the value: one that the type allows and the column stores as it is. -/
def has : ColumnType → Value → Bool
  | text, .text _ | string, .text _ | uuid, .text _ => true
  | enumeration _ members, .text s => members.contains s
  | integer, .int n | bigInteger, .int n => Value.isStorable n
  | boolean, .int n => n == 0 || n == 1
  | numeric, .int _ | numeric, .real _ => true
  | _, _ => false

end ColumnType

/-- The column has the value, which may be null only where that is allowed. -/
def Column.Accepts (c : Column) (v : Value) : Prop :=
  c.type.has v = true ∨ c.nullable = true ∧ v = .null

instance (c : Column) (v : Value) : Decidable (c.Accepts v) := inferInstanceAs (Decidable (_ ∨ _))

namespace Column

variable {c : Column} {v : Value}

theorem accepts_text_iff (htype : c.type = .text) (hnull : c.nullable = false) :
    c.Accepts v ↔ ∃ s, v = .text s := by
  cases v <;> simp [Accepts, htype, hnull, ColumnType.has]

theorem accepts_enumeration_iff {name : String} {members : List String}
    (htype : c.type = .enumeration name members) (hnull : c.nullable = false) :
    c.Accepts v ↔ ∃ s ∈ members, v = .text s := by
  cases v <;> simp [Accepts, htype, hnull, ColumnType.has]

theorem accepts_integer_iff (htype : c.type = .integer) (hnull : c.nullable = false) :
    c.Accepts v ↔ ∃ n, Value.isStorable n = true ∧ v = .int n := by
  cases v <;> simp [Accepts, htype, hnull, ColumnType.has]

theorem accepts_boolean_iff (htype : c.type = .boolean) (hnull : c.nullable = false) :
    c.Accepts v ↔ ∃ b : Bool, v = .int (if b then 1 else 0) := by
  cases v <;> simp [Accepts, htype, hnull, ColumnType.has, or_comm]

end Column

/-- The row has a value for each column, one that the column accepts. -/
def Schema.Accepts (s : Schema) (row : Row) : Prop := List.Forall₂ Column.Accepts s.columns row

theorem Schema.accepts_iff {s : Schema} {row : Row} :
    s.Accepts row ↔ row.length = s.columns.length ∧ ∀ entry ∈ s.columns.zip row, entry.1.Accepts entry.2 := by
  rw [Schema.Accepts, List.forall₂_iff_zip, eq_comm]
  exact and_congr_right fun _ => ⟨fun h entry hentry => h hentry, fun h _ _ hentry => h _ hentry⟩

instance (s : Schema) (row : Row) : Decidable (s.Accepts row) := decidable_of_iff' _ Schema.accepts_iff

namespace Database

/-- The database's tables have the schemas, in this order, and hold what these allow. -/
structure Meets (db : Database) (schemas : List Schema) : Prop where
  schemas_eq : db.tables.map (·.schema) = schemas
  accepts : ∀ t ∈ db.tables, ∀ row ∈ t.rows, t.schema.Accepts row
  keys : ∀ t ∈ db.tables, t.keysDistinct = true

theorem meets_iff {db : Database} {schemas : List Schema} : db.Meets schemas ↔
    db.tables.map (·.schema) = schemas ∧ (∀ t ∈ db.tables, ∀ row ∈ t.rows, t.schema.Accepts row) ∧
      ∀ t ∈ db.tables, t.keysDistinct = true :=
  ⟨fun h => ⟨h.schemas_eq, h.accepts, h.keys⟩, fun ⟨hschemas, haccepts, hkeys⟩ => ⟨hschemas, haccepts, hkeys⟩⟩

instance (db : Database) (schemas : List Schema) : Decidable (db.Meets schemas) :=
  decidable_of_iff' _ meets_iff

variable {db : Database} {schemas : List Schema} {s : Schema}

theorem table?_eq_some {name : String} {t : Table} (h : db.table? name = some t) :
    t ∈ db.tables ∧ t.schema.name = name :=
  ⟨List.mem_of_find?_eq_some h, by simpa using List.find?_some h⟩

theorem rows_of_table? {name : String} {t : Table} (h : db.table? name = some t) : db.rows name = t.rows := by
  simp [rows, h]

namespace Meets

theorem schema_mem (h : db.Meets schemas) {t : Table} (ht : t ∈ db.tables) : t.schema ∈ schemas :=
  h.schemas_eq ▸ List.mem_map_of_mem ht

/-- Where names are distinct, the table of a schema's name is the schema's. -/
theorem table?_eq (h : db.Meets schemas) (hnames : (schemas.map (·.name)).Nodup) (hs : s ∈ schemas) :
    db.table? s.name = some ⟨s, db.rows s.name⟩ := by
  obtain ⟨t, ht, hschema⟩ := List.mem_map.mp (h.schemas_eq ▸ hs)
  obtain ⟨found, hfound⟩ : ∃ found, db.table? s.name = some found := by
    refine Option.isSome_iff_exists.mp (List.find?_isSome.mpr ⟨t, ht, ?_⟩)
    simp [hschema]
  obtain ⟨hmem, hname⟩ := table?_eq_some hfound
  have hsame : found.schema = s := List.inj_on_of_nodup_map hnames (h.schema_mem hmem) hs hname
  rw [rows_of_table? hfound, hfound]
  cases found
  simp_all

/-- The rows of a table are such as its schema accepts. -/
theorem accepts_of_mem (h : db.Meets schemas) (hnames : (schemas.map (·.name)).Nodup) (hs : s ∈ schemas)
    {row : Row} (hrow : row ∈ db.rows s.name) : s.Accepts row :=
  h.accepts _ (table?_eq_some (h.table?_eq hnames hs)).1 row hrow

/-- All rows are those of the schemas' tables. -/
theorem mem_entries_iff (h : db.Meets schemas) (hnames : (schemas.map (·.name)).Nodup) {e : Schema × Row} :
    e ∈ db.entries ↔ e.1 ∈ schemas ∧ e.2 ∈ db.rows e.1.name := by
  unfold entries
  simp only [List.mem_flatMap, List.mem_map]
  constructor
  · rintro ⟨t, ht, row, hrow, rfl⟩
    have hs := h.schema_mem ht
    refine ⟨hs, ?_⟩
    have hnodup : (db.tables.map (·.schema.name)).Nodup := by
      have hnames' := h.schemas_eq ▸ hnames
      rwa [List.map_map] at hnames'
    obtain ⟨hmem, hname⟩ := table?_eq_some (h.table?_eq hnames hs)
    have hsame : (⟨t.schema, db.rows t.schema.name⟩ : Table) = t := List.inj_on_of_nodup_map hnodup hmem ht hname
    rw [← hsame] at hrow
    exact hrow
  · rintro ⟨hs, hrow⟩
    exact ⟨_, (table?_eq_some (h.table?_eq hnames hs)).1, e.2, hrow, rfl⟩

section Keys

variable (h : db.Meets schemas) (hnames : (schemas.map (·.name)).Nodup) (hs : s ∈ schemas)
  (hkey : ∃ c ∈ s.columns, c.isKey = true)

include h hnames hs hkey

/-- No two rows of a table have the same key. -/
theorem nodup_keyOf : ((db.rows s.name).map s.keyOf).Nodup := by
  have hkeys := h.keys _ (table?_eq_some (h.table?_eq hnames hs)).1
  have hany : s.columns.any (·.isKey) = true := List.any_eq_true.mpr hkey
  simpa [Table.keysDistinct, hany] using hkeys

theorem nodup_rows : (db.rows s.name).Nodup := (h.nodup_keyOf hnames hs hkey).of_map

/-- Rows of a table with the same key are the same. -/
theorem eq_of_keyOf {row row' : Row} (hrow : row ∈ db.rows s.name) (hrow' : row' ∈ db.rows s.name)
    (heq : s.keyOf row = s.keyOf row') : row = row' :=
  List.inj_on_of_nodup_map (h.nodup_keyOf hnames hs hkey) hrow hrow' heq

end Keys

/-- Where references are consistent, a reference that is not null leads to a row. -/
theorem exists_of_reference (h : db.Meets schemas) (hnames : (schemas.map (·.name)).Nodup)
    (hrefs : db.isConsistent = true) (hs : s ∈ schemas) {row : Row} (hrow : row ∈ db.rows s.name) {c : Column}
    {v : Value} (hc : (c, v) ∈ s.columns.zip row) {r : Reference} (hr : c.reference = some r) (hv : v ≠ .null)
    {s' : Schema} (hs' : s' ∈ schemas) (htable : r.table = s'.name) {i : Nat}
    (hi : s'.position? r.column = some i) : ∃ row' ∈ db.rows s'.name, v.eq (row'[i]?.getD .null) = true := by
  have hrows := List.all_eq_true.mp hrefs _ (table?_eq_some (h.table?_eq hnames hs)).1
  have hresolves : db.resolves r v = true := by
    have hall := List.all_eq_true.mp (List.all_eq_true.mp hrows row hrow) _ hc
    simpa [hr] using hall
  have hparent := h.table?_eq hnames hs'
  simp only [resolves, htable, hparent, hi, Bool.or_eq_true, beq_iff_eq, hv, false_or, Table.values,
    List.any_map, List.any_eq_true, Function.comp_apply] at hresolves
  exact hresolves

/-- A value refers to a row that there is. -/
theorem resolves_of_mem (h : db.Meets schemas) (hnames : (schemas.map (·.name)).Nodup) {r : Reference} {v : Value}
    (hs : s ∈ schemas) (htable : r.table = s.name) {i : Nat} (hi : s.position? r.column = some i) {row : Row}
    (hrow : row ∈ db.rows s.name) (heq : v.eq (row[i]?.getD .null) = true) : db.resolves r v = true := by
  simp only [resolves, htable, h.table?_eq hnames hs, hi, Table.values, List.any_map, Bool.or_eq_true]
  exact .inr (List.any_eq_true.mpr ⟨row, hrow, heq⟩)

/-- References are consistent where those of each row of each table lead to a row. -/
theorem isConsistent_of_rowResolves (h : db.Meets schemas) (hnames : (schemas.map (·.name)).Nodup)
    (hrows : ∀ s ∈ schemas, ∀ row ∈ db.rows s.name, db.rowResolves s row = true) : db.isConsistent = true := by
  refine List.all_eq_true.mpr fun t ht => List.all_eq_true.mpr fun row hrow => ?_
  have hentry : (t.schema, row) ∈ db.entries := List.mem_flatMap.mpr ⟨t, ht, List.mem_map_of_mem hrow⟩
  obtain ⟨hs, hrow⟩ := (h.mem_entries_iff hnames).mp hentry
  exact hrows _ hs _ hrow

/-- A table is found by a name in whatever letters, where names differ by more than capital letters. -/
theorem find?_sameName (h : db.Meets schemas)
    (happart : ∀ s ∈ schemas, ∀ s' ∈ schemas, Scan.sameName s'.name s.name = decide (s'.name = s.name))
    (hs : s ∈ schemas) :
    db.tables.find? (fun t => Scan.sameName t.schema.name s.name) = db.table? s.name := by
  refine List.find?_congr ?_
  intro t ht
  exact happart s hs t.schema (h.schema_mem ht)

end Meets

end Database

end RowGuard
