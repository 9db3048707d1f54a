import RowGuard.Proofs.Batch.Plan
import RowGuard.Proofs.Batch.Reach
import RowGuard.Proofs.Database.Change
import RowGuard.Proofs.Outcome

/-!
# What a batch makes of the database

Where all is permitted, an update gives every row that a target names the target's own values and those
that all targets have in common, and leaves the rest of the row and all other rows as they were
(`updates_of_apply`); a deletion takes the rows that targets name and those that go with them
(`deletes_of_apply`). The statement counts as many rows as there are targets exactly where all is permitted and
each row is still there when its turn comes (`counted_eq_iff`).
-/

namespace RowGuard

/-- The row has a value for each column, as the column stores it. -/
structure Schema.Stores (s : Schema) (row : Row) : Prop where
  length : row.length = s.columns.length
  stored : s.stored row = row

namespace Batch

variable {b : Batch} {db made : Database} {t : Table} {rows : List Row} {row : Row} {target : Target}
  {constant : List (String × Data)} {n : Nat}

/-- A value as a column of the table stores it. -/
def storedValue (b : Batch) (c : Column) (v : Data) : Value :=
  c.type.affinity.apply (b.columnLiteral c.label v).bound

/-- What a row becomes: it has the target's own values and the common ones, and no other column has
changed. -/
structure Rewrites (b : Batch) (constant : List (String × Data)) (target : Target)
    (row row' : Row) : Prop where
  length : row'.length = row.length
  own : ∀ (i : Nat) c v, b.mapping.table.columns[i]? = some c → target.values.lookup c.label = some v →
    row'[i]? = some (b.storedValue c v)
  common : ∀ (i : Nat) c v, b.mapping.table.columns[i]? = some c → constant.lookup c.label = some v →
    row'[i]? = some (b.storedValue c v)
  other : ∀ (i : Nat) c, b.mapping.table.columns[i]? = some c → target.values.lookup c.label = none →
    constant.lookup c.label = none → row'[i]? = row[i]?

/-- What an update makes of the database: in the table, each row that a target names is rewritten, and the
others are as they were. -/
def Updates (b : Batch) (constant : List (String × Data)) (t : Table) (before after : Database) :
    Prop :=
  ∃ rows, after = before.setRows t.schema.name rows ∧
    List.Forall₂ (fun row row' =>
      (∃ target ∈ b.targets, b.Names target row ∧ b.Rewrites constant target row row') ∨
        (∀ target ∈ b.targets, ¬b.Names target row) ∧ row' = row) t.rows rows

/-- The rows of the table that targets name. -/
def named (b : Batch) (t : Table) : List (Schema × Row) :=
  (t.rows.filter fun row => b.targets.any fun target =>
    b.isNamed row (ownLiteral target.identity)).map fun row => (t.schema, row)

/-- What a deletion makes of the database: the rows that targets name are gone, and with them those that
cascading references lead from, and no others. -/
def Deletes (b : Batch) (t : Table) (before after : Database) : Prop :=
  ∃ deleted, after = before.without deleted ∧ ∀ e, e ∈ deleted ↔ before.Goes (b.named t) e

/-- No row that a deletion reaches goes with one that is deleted before it. -/
def InTurn (b : Batch) (db : Database) (t : Table) : Prop :=
  b.change = .delete → (t.scanned.filter (b.reaches db)).Pairwise fun earlier later =>
    (t.schema, later) ∉ db.goingWith (t.schema, earlier)

/-- Every target names a row that may be changed, no two name the same, and each row is still there when its
turn comes. -/
structure ReachesAll (b : Batch) (db : Database) (t : Table) : Prop where
  permitted : b.AllPermitted db t.rows
  inTurn : b.InTurn db t

/-- How many rows the statement counts. -/
def counted (b : Batch) (db : Database) (t : Table) : Nat :=
  match b.change with
  | .update _ _ => (t.rows.filter (b.reaches db)).length
  | .delete => db.countInTurn [] ((t.scanned.filter (b.reaches db)).map fun row => (t.schema, row))

/-! ## Rewritten rows -/

theorem zip_getElem? {s : Schema} {i : Nat} {c : Column} {v : Value} (hc : s.columns[i]? = some c)
    (hv : row[i]? = some v) : (s.columns.zip row)[i]? = some (c, v) :=
  List.getElem?_zip_eq_some.mpr ⟨hc, hv⟩

theorem stored_getElem? {s : Schema} {i : Nat} {c : Column} {v : Value}
    (hc : s.columns[i]? = some c) (hv : row[i]? = some v) :
    (s.stored row)[i]? = some (c.type.affinity.apply v) := by
  unfold Schema.stored
  rw [List.getElem?_map, zip_getElem? hc hv]
  rfl

theorem stored_updatedByChoice_getElem? {i : Nat} {c : Column} {v : Value}
    (hc : b.mapping.table.columns[i]? = some c) (hv : row[i]? = some v) :
    (b.mapping.table.stored (b.updatedByChoice row))[i]? =
      some (c.type.affinity.apply (b.choice row c.label v)) := by
  refine stored_getElem? hc ?_
  unfold updatedByChoice
  rw [List.getElem?_map, zip_getElem? hc hv]
  rfl

theorem exists_getElem? (hrow : b.mapping.table.Stores row) {i : Nat} {c : Column}
    (hc : b.mapping.table.columns[i]? = some c) :
    ∃ v, row[i]? = some v ∧ c.type.affinity.apply v = v := by
  obtain ⟨hi, _⟩ := List.getElem?_eq_some_iff.mp hc
  obtain ⟨v, hv⟩ : ∃ v, row[i]? = some v := ⟨_, List.getElem?_eq_getElem (hrow.length ▸ hi)⟩
  have hstored := stored_getElem? hc hv
  rw [hrow.stored, hv] at hstored
  exact ⟨v, hv, (Option.some.inj hstored).symm⟩

/-- The columns that a target sets are those with values of its own. -/
theorem mem_columns_iff {target : Target} {name : String} :
    name ∈ target.columns ↔ ∃ v, target.values.lookup name = some v := by
  unfold Target.columns
  rw [Text.mem_sortedSet]
  constructor
  · intro hmem
    cases hlookup : target.values.lookup name with
    | some v => exact ⟨v, rfl⟩
    | none =>
      obtain ⟨entry, hentry, rfl⟩ := List.mem_map.mp hmem
      simpa using List.lookup_eq_none_iff.mp hlookup entry hentry
  · rintro ⟨v, hlookup⟩
    by_contra hmem
    rw [lookup_eq_none_of_not_mem hmem] at hlookup
    simp at hlookup

/-- The target that a row is chosen by is the one that names it. -/
theorem targetOf?_of_names (h : b.AllPermitted db rows) (ht : target ∈ b.targets) (hrow : row ∈ rows)
    (hnamed : b.Names target row) : b.targetOf? row = some target := by
  obtain ⟨found, hfound⟩ : ∃ found, b.targetOf? row = some found := by
    cases hnone : b.targetOf? row with
    | some found => exact ⟨found, rfl⟩
    | none => exact absurd hnamed (List.find?_eq_none.mp hnone target ht)
  have hmem := List.mem_of_find?_eq_some hfound
  have hfound' : b.Names found row := by
    unfold targetOf? at hfound
    exact @List.find?_some _ (fun t => b.isNamed row (ownLiteral t.identity)) found b.targets hfound
  have hsymm : Std.Symm fun t u => ∀ row ∈ rows, ¬(b.Names t row ∧ b.Names u row) :=
    ⟨fun t u h row hrow hboth => h row hrow ⟨hboth.2, hboth.1⟩⟩
  by_cases heq : found = target
  · rw [hfound, heq]
  · exact absurd ⟨hfound', hnamed⟩ (h.apart.forall hmem ht heq row hrow)

/-- An update rewrites a row with what the target gives that names it. -/
theorem rewrites_updatedByChoice
    (hchange : b.change = .update (keysOf b.targets) constant)
    (hsets : SetsColumns b.mapping b.targets constant) (hrow : b.mapping.table.Stores row)
    (ht : target ∈ b.targets) (hchosen : b.targetOf? row = some target) :
    b.Rewrites constant target row (b.mapping.table.stored (b.updatedByChoice row)) := by
  have hconstants : b.constants = constant := by
    unfold constants
    rw [hchange]
  have hkeys : ∀ name, b.keys.contains name = true ↔ ∃ v, target.values.lookup name = some v := by
    intro name
    unfold keys
    rw [hchange, List.contains_iff_mem, ← hsets.columns target ht, mem_columns_iff]
  refine ⟨?_, fun i c v hc hv => ?_, fun i c v hc hv => ?_, fun i c hc hown hcommon => ?_⟩
  · unfold updatedByChoice Schema.stored
    simp [hrow.length]
  -- a column of the target's own is not set for all targets as well
  · obtain ⟨old, hold, _⟩ := exists_getElem? hrow hc
    have hkey : c.label ∈ keysOf b.targets := by
      rw [← hsets.columns target ht, mem_columns_iff]
      exact ⟨v, hv⟩
    rw [stored_updatedByChoice_getElem? hc hold, choice, hconstants, hsets.apart _ hkey]
    simp only [(hkeys c.label).mpr ⟨v, hv⟩, if_true, hchosen, Target.value, hv, Option.getD_some]
    rfl
  · obtain ⟨old, hold, _⟩ := exists_getElem? hrow hc
    rw [stored_updatedByChoice_getElem? hc hold, choice, hconstants, hv]
    rfl
  -- a value that is not set is stored once more, which changes nothing
  · obtain ⟨old, hold, hstored⟩ := exists_getElem? hrow hc
    have hkey : ¬ b.keys.contains c.label = true := by
      rw [hkeys, hown]
      simp
    rw [stored_updatedByChoice_getElem? hc hold, choice, hconstants, hcommon]
    simp only [if_neg hkey, hstored, hold]

/-! ## The change as a whole -/

theorem apply_update_eq_ok (hchange : b.change ≠ .delete)
    (htable : db.table? b.mapping.table.name = some t) (h : b.apply db = .ok (made, n)) :
    n = b.counted db t ∧
      made = db.setRows t.schema.name (t.rows.map fun row =>
        if b.reaches db row then t.schema.stored (b.updatedByChoice row) else row) := by
  unfold apply at h
  split at h
  case h_1 hupdate =>
    unfold Database.update at h
    rw [htable] at h
    obtain ⟨changed, hchanged, h⟩ := Outcome.bind_eq_ok_iff.mp h
    obtain ⟨rfl, rfl⟩ : changed = made ∧ (t.rows.filter (b.reaches db)).length = n := by
      simpa using h
    obtain ⟨hmade, _⟩ := Database.replaceRows_eq_ok (Database.replaceRows_of_changeRows hchanged)
    unfold counted
    rw [hupdate]
    exact ⟨rfl, hmade⟩
  case h_2 hdelete => exact absurd hdelete hchange

theorem apply_delete_eq_ok (hchange : b.change = .delete)
    (htable : db.table? b.mapping.table.name = some t) (h : b.apply db = .ok (made, n)) :
    n = b.counted db t ∧
      made = db.without (db.withFollowers
        ((t.rows.filter (b.reaches db)).map fun row => (t.schema, row))) := by
  unfold apply at h
  unfold counted
  rw [hchange] at h ⊢
  simp only [Database.delete, htable, Except.ok.injEq, Prod.mk.injEq] at h
  exact ⟨h.2.symm, h.1.symm⟩

/-- The answer of the change is what the statement counts. -/
theorem eq_counted_of_apply (htable : db.table? b.mapping.table.name = some t) (h : b.apply db = .ok (made, n)) :
    n = b.counted db t := by
  by_cases hchange : b.change = .delete
  · exact (apply_delete_eq_ok hchange htable h).1
  · exact (apply_update_eq_ok hchange htable h).1

/-! ## Counting the rows that are changed -/

theorem inTurn_of_update (hchange : b.change ≠ .delete) : b.InTurn db t := fun hdelete => absurd hdelete hchange

theorem length_scanned_filter (t : Table) (test : Row → Bool) :
    (t.scanned.filter test).length = (t.rows.filter test).length := (t.scanned_perm.filter test).length_eq

theorem counted_le (b : Batch) (db : Database) (t : Table) :
    b.counted db t ≤ (t.rows.filter (b.reaches db)).length := by
  unfold counted
  split
  case h_1 => exact Nat.le_refl _
  case h_2 =>
    rw [← length_scanned_filter, ← List.length_map (fun row => (t.schema, row))]
    exact Database.countInTurn_le_length

/-- All rows that are reached are counted if each is still there when its turn comes. -/
theorem counted_eq_length_iff : b.counted db t = (t.rows.filter (b.reaches db)).length ↔ b.InTurn db t := by
  unfold counted InTurn
  cases b.change with
  | update keys constant => simp
  | delete =>
    rw [← length_scanned_filter, ← List.length_map (fun row => (t.schema, row)),
      Database.countInTurn_eq_length_iff, List.pairwise_map]
    simp

theorem reachesAll_iff : b.ReachesAll db t ↔ b.AllPermitted db t.rows ∧ b.InTurn db t :=
  ⟨fun h => ⟨h.permitted, h.inTurn⟩, fun h => ⟨h.1, h.2⟩⟩

/-- The statement counts as many rows as there are targets exactly when it reaches all of them. -/
theorem counted_eq_iff (hplain : ∀ target ∈ b.targets, target.identity.IsPlain) (hdistinct : b.Distinct t.rows) :
    b.counted db t = b.targets.length ↔ b.ReachesAll db t := by
  have hcounted := counted_le b db t
  have hreached : (t.rows.filter (b.reaches db)).length ≤ b.targets.length := length_reached_le hplain hdistinct
  rw [reachesAll_iff, ← length_reached_iff hplain hdistinct, ← counted_eq_length_iff]
  omega

/-- Where all is permitted, the rows that a batch reaches are those that targets name. -/
theorem AllPermitted.filter_reaches (h : b.AllPermitted db rows) (hdistinct : b.Distinct rows)
    (hplain : ∀ target ∈ b.targets, target.identity.IsPlain) :
    rows.filter (b.reaches db) =
      rows.filter fun row => b.targets.any fun target => b.isNamed row (ownLiteral target.identity) := by
  refine List.filter_congr ?_
  intro row hrow
  rw [Bool.eq_iff_iff, reaches_iff hplain, List.any_eq_true]
  refine ⟨fun hreached => hreached.1, fun hnamed => ⟨hnamed, ?_⟩⟩
  obtain ⟨target, ht, hname⟩ := hnamed
  exact h.permits hdistinct ht hrow hname

theorem updates_of_apply (hchange : b.change = .update (keysOf b.targets) constant)
    (hsets : SetsColumns b.mapping b.targets constant)
    (htable : db.table? b.mapping.table.name = some t) (hschema : t.schema = b.mapping.table)
    (hstores : ∀ row ∈ t.rows, b.mapping.table.Stores row) (hdistinct : b.Distinct t.rows)
    (hplain : ∀ target ∈ b.targets, target.identity.IsPlain) (h : b.AllPermitted db t.rows)
    (happly : b.apply db = .ok (made, n)) : b.Updates constant t db made := by
  obtain ⟨_, rfl⟩ := apply_update_eq_ok (by simp [hchange]) htable happly
  refine ⟨_, rfl, ?_⟩
  rw [List.forall₂_map_right_iff, List.forall₂_same]
  intro row hrow
  by_cases hreached : b.reaches db row = true
  · obtain ⟨⟨target, ht, hnamed⟩, _⟩ := (reaches_iff hplain).mp hreached
    rw [if_pos hreached, hschema]
    exact .inl ⟨target, ht, hnamed, rewrites_updatedByChoice hchange hsets (hstores row hrow) ht
      (targetOf?_of_names h ht hrow hnamed)⟩
  · rw [if_neg hreached]
    refine .inr ⟨fun target ht hnamed => hreached ?_, rfl⟩
    exact (reaches_iff hplain).mpr ⟨⟨target, ht, hnamed⟩, h.permits hdistinct ht hrow hnamed⟩

theorem deletes_of_apply (hchange : b.change = .delete)
    (htable : db.table? b.mapping.table.name = some t) (hdistinct : b.Distinct t.rows)
    (hplain : ∀ target ∈ b.targets, target.identity.IsPlain) (h : b.AllPermitted db t.rows)
    (happly : b.apply db = .ok (made, n)) : b.Deletes t db made := by
  obtain ⟨_, rfl⟩ := apply_delete_eq_ok hchange htable happly
  rw [h.filter_reaches hdistinct hplain]
  exact ⟨_, rfl, fun e => Database.mem_withFollowers_iff⟩

end Batch

end RowGuard
