import RowGuard.Batch.Meaning
import RowGuard.Proofs.Batch.Counting
import RowGuard.Proofs.Database.Equality

/-!
# The rows of a batch

A batch reaches the rows that a target names and that may be changed. Where no two rows have the same
identity, it reaches as many rows as it has targets exactly when every target names a row that may be
changed and no two targets name the same (`length_reached_iff`).
-/

namespace RowGuard

/-- The value is a text or a whole number. -/
def Data.IsPlain (d : Data) : Prop := (∃ s, d = .text s) ∨ ∃ n, d = .int n

namespace Batch

variable {b : Batch} {db : Database} {row : Row} {rows : List Row}

/-- The target's identity is the row's. -/
def Names (b : Batch) (t : Target) (row : Row) : Prop := b.isNamed row (ownLiteral t.identity) = true

/-- The row may be changed: it passes the fragment, and it is not the subject's own row where that has to
be left alone. -/
structure Permits (b : Batch) (db : Database) (row : Row) : Prop where
  notOwn : ∀ self, b.excluded = some self → b.isNamed row (ownLiteral self) = false
  admitted : b.fragment.admits db b.mapping.table b.identityPosition row = true

/-- No two rows have the same identity. -/
def Distinct (b : Batch) (rows : List Row) : Prop :=
  rows.Pairwise fun x y => (b.identityOf x).value.eq (b.identityOf y).value = false

/-- Every target names a row that may be changed, and no two name the same row. -/
structure AllPermitted (b : Batch) (db : Database) (rows : List Row) : Prop where
  permitted : ∀ t ∈ b.targets, ∃ row ∈ rows, b.Names t row ∧ b.Permits db row
  apart : b.targets.Pairwise fun t u => ∀ row ∈ rows, ¬(b.Names t row ∧ b.Names u row)

/-! ## Named rows -/

/-- A text or whole number is bound as itself, of whichever of their types it is said to be. -/
theorem bound_of_isPlain {d : Data} (hd : d.IsPlain) {type : Option ColumnType}
    (htype : type = none ∨ type = some .text ∨ type = some .integer) :
    (⟨d, type⟩ : Literal).bound = (ownLiteral d).bound := by
  rcases hd with ⟨s, rfl⟩ | ⟨n, rfl⟩
  · rcases htype with rfl | rfl | rfl <;> rfl
  · rcases htype with rfl | rfl | rfl <;> rfl

theorem kindType_of_isPlain {d : Data} (hd : d.IsPlain) :
    Sql.kindType d = some .text ∨ Sql.kindType d = some .integer := by
  rcases hd with ⟨s, rfl⟩ | ⟨n, rfl⟩
  · exact .inl rfl
  · exact .inr rfl

theorem null_beq_of_isPlain {d : Data} (hd : d.IsPlain) : (Data.null == d) = false := by
  rcases hd with ⟨s, rfl⟩ | ⟨n, rfl⟩
  · simp [Data.beq_text]
  · simp [BEq.beq, Data.same, Scalar.same, Scalar.number?]

/-- The list of identities searched for is that of the targets, one by one. -/
theorem any_identityLiterals (hplain : ∀ t ∈ b.targets, t.identity.IsPlain) :
    b.identityLiterals.any (b.isNamed row) =
      b.targets.any fun t => b.isNamed row (ownLiteral t.identity) := by
  have htype : (b.targets.map (·.identity)).head?.bind Sql.kindType = none ∨
      (b.targets.map (·.identity)).head?.bind Sql.kindType = some .text ∨
      (b.targets.map (·.identity)).head?.bind Sql.kindType = some .integer := by
    cases htargets : b.targets with
    | nil => exact .inl rfl
    | cons t rest => exact .inr (kindType_of_isPlain (hplain t (by simp [htargets])))
  have hnull : ¬ (b.targets.map (·.identity)).contains .null = true := by
    intro hcontains
    obtain ⟨d, hd, heq⟩ := List.contains_iff_exists_mem_beq.mp hcontains
    obtain ⟨t, ht, rfl⟩ := List.mem_map.mp hd
    exact Bool.false_ne_true ((null_beq_of_isPlain (hplain t ht)).symm.trans heq)
  unfold identityLiterals
  simp only [if_neg hnull, List.map_map, List.any_map]
  rw [Bool.eq_iff_iff, List.any_eq_true, List.any_eq_true]
  refine exists_congr ?_
  intro t
  refine and_congr_right ?_
  intro ht
  rw [Function.comp_apply, Function.comp_apply]
  unfold isNamed
  rw [bound_of_isPlain (hplain t ht) htype]

/-- What has a name is not null. -/
theorem value_ne_null_of_isNamed {l : Literal} (h : b.isNamed row l = true) :
    (b.identityOf row).value ≠ .null := by
  intro hnull
  rw [isNamed, Operand.eq_null_left _ _ hnull] at h
  exact Bool.false_ne_true h

theorem isExcluded_eq_false_iff (hnull : (b.identityOf row).value ≠ .null) :
    b.isExcluded row = false ↔
      ∀ self, b.excluded = some self → b.isNamed row (ownLiteral self) = false := by
  have hvalue : ((b.identityOf row).value == .null) = false := by simpa using hnull
  unfold isExcluded
  split
  case h_1 hnone => simp [hnone]
  case h_2 hself =>
    simp only [hself, Option.some.injEq, forall_eq', hvalue, true_iff]
    unfold isNamed
    cases hcolumn : b.identityOf row with
    | mk value affinity =>
      cases affinity <;> cases value <;> rfl
  case h_3 self _ hself => simp [hself, hvalue]

/-- A batch reaches the rows that a target names and that may be changed. -/
theorem reaches_iff (hplain : ∀ t ∈ b.targets, t.identity.IsPlain) :
    b.reaches db row = true ↔ (∃ t ∈ b.targets, b.Names t row) ∧ b.Permits db row := by
  unfold reaches
  rw [any_identityLiterals hplain, Bool.and_eq_true, Bool.and_eq_true, List.any_eq_true, and_assoc]
  refine and_congr_right ?_
  intro hnamed
  obtain ⟨t, _, ht⟩ := hnamed
  rw [Bool.not_eq_true', isExcluded_eq_false_iff (value_ne_null_of_isNamed ht)]
  exact ⟨fun h => ⟨h.1, h.2⟩, fun h => ⟨h.notOwn, h.admitted⟩⟩

/-! ## Counting the rows reached -/

/-- A target names at most one row. -/
theorem Distinct.named_once (hdistinct : b.Distinct rows) (t : Target) :
    rows.Pairwise fun x y => ¬(b.Names t x ∧ b.Names t y) := by
  refine List.Pairwise.imp (fun {x y} hne hnamed => ?_) hdistinct
  have heq : (b.identityOf x).value.eq (b.identityOf y).value = true :=
    Operand.eq_of_eq_bare hnamed.1 hnamed.2
  exact Bool.false_ne_true (hne.symm.trans heq)

/-- Rows named by one target are the same row. -/
theorem Distinct.eq_of_names (hdistinct : b.Distinct rows) {t : Target} {x y : Row} (hx : x ∈ rows)
    (hy : y ∈ rows) (hnx : b.Names t x) (hny : b.Names t y) : x = y := by
  by_contra hne
  have hsymm : Std.Symm fun x y => ¬(b.Names t x ∧ b.Names t y) :=
    ⟨fun x y h hnamed => h ⟨hnamed.2, hnamed.1⟩⟩
  exact (hdistinct.named_once t).forall hx hy hne ⟨hnx, hny⟩

/-- What a target names may be changed if every target names such a row. -/
theorem AllPermitted.permits (h : b.AllPermitted db rows) (hdistinct : b.Distinct rows) {t : Target}
    (ht : t ∈ b.targets) (hrow : row ∈ rows) (hnamed : b.Names t row) : b.Permits db row := by
  obtain ⟨row', hrow', hnamed', hpermits⟩ := h.permitted t ht
  rw [hdistinct.eq_of_names hrow hrow' hnamed hnamed']
  exact hpermits

theorem mem_reached_iff (hplain : ∀ t ∈ b.targets, t.identity.IsPlain) :
    row ∈ rows.filter (b.reaches db) ↔ row ∈ rows ∧ (∃ t ∈ b.targets, b.Names t row) ∧ b.Permits db row := by
  rw [List.mem_filter, reaches_iff hplain]

/-- A batch reaches at most as many rows as it has targets. -/
theorem length_reached_le (hplain : ∀ t ∈ b.targets, t.identity.IsPlain) (hdistinct : b.Distinct rows) :
    (rows.filter (b.reaches db)).length ≤ b.targets.length :=
  @Counting.length_le_length _ _ b.targets (rows.filter (b.reaches db))
    (fun t row => b.isNamed row (ownLiteral t.identity)) (fun _ hrow => ((mem_reached_iff hplain).mp hrow).2.1)
    (fun t _ => (hdistinct.named_once t).filter _)

/-- A batch reaches as many rows as it has targets exactly when every target names a row that may be
changed and no two targets name the same. -/
theorem length_reached_iff (hplain : ∀ t ∈ b.targets, t.identity.IsPlain)
    (hdistinct : b.Distinct rows) :
    (rows.filter (b.reaches db)).length = b.targets.length ↔ b.AllPermitted db rows := by
  have hmem : ∀ row, row ∈ rows.filter (b.reaches db) ↔
      row ∈ rows ∧ (∃ t ∈ b.targets, b.Names t row) ∧ b.Permits db row := fun row => mem_reached_iff hplain
  have hcount := @Counting.length_eq_length_iff _ _ b.targets (rows.filter (b.reaches db))
    (fun t row => b.isNamed row (ownLiteral t.identity)) (fun row hrow => ((hmem row).mp hrow).2.1)
    (fun t _ => (hdistinct.named_once t).filter _)
  rw [hcount]
  constructor
  · rintro ⟨hall, hapart⟩
    have hpermitted : ∀ t ∈ b.targets, ∃ row ∈ rows, b.Names t row ∧ b.Permits db row := by
      intro t ht
      obtain ⟨row, hrow, hnamed⟩ := hall t ht
      obtain ⟨hrow, _, hpermits⟩ := (hmem row).mp hrow
      exact ⟨row, hrow, hnamed, hpermits⟩
    refine ⟨hpermitted, List.pairwise_iff_getElem.mpr fun i j hi hj hij row hrow hboth => ?_⟩
    -- a row that two targets name is reached, for one of them names only rows that may be changed
    obtain ⟨row', hrow', hnamed', hpermits⟩ := hpermitted _ (List.getElem_mem hi)
    obtain rfl := hdistinct.eq_of_names hrow hrow' hboth.1 hnamed'
    have hreached := (hmem row).mpr ⟨hrow, ⟨_, List.getElem_mem hi, hboth.1⟩, hpermits⟩
    exact List.pairwise_iff_getElem.mp (hapart row hreached) i j hi hj hij hboth
  · intro h
    refine ⟨fun t ht => ?_, fun row hrow => ?_⟩
    · obtain ⟨row, hrow, hnamed, hpermits⟩ := h.permitted t ht
      exact ⟨row, (hmem row).mpr ⟨hrow, ⟨t, ht, hnamed⟩, hpermits⟩, hnamed⟩
    · exact h.apart.imp fun hapart => hapart row ((hmem row).mp hrow).1

end Batch

end RowGuard
