import RowGuard.Batch.Update
import RowGuard.Proofs.Batch.Compilation
import RowGuard.Proofs.Batch.Reach
import RowGuard.Proofs.Database.Change

/-!
# The two forms of an update

In one dialect an update chooses each value by the identity, in the other it joins the targets and converts
their values. Whichever a batch is written in, its statement affects the rows that the batch reaches and gives
them the values that are chosen by the identity, so that there is one thing only it can come to
(`updates_agree`). Joining needs more for this than choosing: that what a target is paired with is what it
names, that no row is paired with two targets, and that no value is changed by its conversion. All of it
follows from types: those of the identities, and those of the values.
-/

namespace RowGuard

/-- Conversion leaves a value alone that is of the type already, or null. -/
def KeepsValues (cast : ColumnType → Value → Value) : Prop :=
  ∀ type v, type.has v = true ∨ v = .null → cast type v = v

/-! ## Identities of a column's type -/

/-- A whole number that a real number denotes is what it is stored as. -/
theorem Value.ofNumber_eq_int {x : Binary64} {n : Int} (h : (real x).eq (int n) = true) :
    (ofNumber x).eq (int n) = true := by
  have hsame : (Number.real x).same (.int n) = true := h
  have hdyadic : x.dyadic? = some (Dyadic.ofInt n) := (Number.same_iff.mp hsame).1
  have hrat : (Dyadic.ofInt n).toRat = n := Dyadic.toRat_intCast n
  unfold ofNumber
  rw [hdyadic]
  dsimp only
  rw [hrat]
  split
  · simp [eq]
  · exact h

/-- The value identifies rows by the column: it is a text for a column of texts or a whole number for one of
numbers, and bound as a value of the column it is the same. -/
structure Column.IdentifiedBy (c : Column) (d : Data) : Prop where
  sort : (∃ s, d = .text s) ∧ c.type.affinity = .text ∨ (∃ n, d = .int n) ∧ c.type.affinity = .numeric
  kept : (Literal.bound ⟨d, c.type⟩).eq (Batch.ownLiteral d).bound = true

/-- Whole numbers identify rows by a column that holds them. -/
theorem Column.identifiedBy_int {c : Column} (htype : c.type = .integer) (n : Int) : c.IdentifiedBy (.int n) := by
  refine ⟨.inr ⟨⟨n, rfl⟩, by rw [htype]; rfl⟩, ?_⟩
  rw [htype, Batch.bound_of_isPlain (.inr ⟨n, rfl⟩) (.inr (.inr rfl))]
  show (Value.int n).eq (.int n) = true
  simp [Value.eq]

namespace Column.IdentifiedBy

variable {c : Column} {d e : Data} {x : Operand}

theorem isPlain (h : c.IdentifiedBy d) : d.IsPlain := h.sort.imp And.left And.left

/-- Bound as a value of the column or by its own kind, the identity equals the same values of the column. -/
theorem eq_bare (h : c.IdentifiedBy d) (hx : x.affinity = c.type.affinity) :
    x.eq (.bare (Literal.bound ⟨d, c.type⟩)) = x.eq (.bare (Batch.ownLiteral d).bound) := by
  obtain ⟨value, affinity⟩ := x
  obtain rfl : affinity = c.type.affinity := hx
  rcases h.sort with ⟨⟨s, rfl⟩, -⟩ | ⟨⟨n, rfl⟩, haffinity⟩
  · have hkept : (Literal.bound ⟨.text s, c.type⟩).eq (.text s) = true := h.kept
    obtain ⟨t, hbound, ht⟩ | ⟨_, _, _, hnumber, _⟩ := Value.eq_iff.mp hkept
    · rw [hbound, ← ht]
      rfl
    · simp [Value.number?] at hnumber
  · have hkept : (Literal.bound ⟨.int n, c.type⟩).eq (.int n) = true := h.kept
    have hnumeric : (Literal.bound ⟨.int n, c.type⟩).toNumeric.eq (.int n) = true := by
      cases hbound : Literal.bound ⟨.int n, c.type⟩ with
      | null => simp [hbound, Value.eq, Value.number?] at hkept
      | text s => simp [hbound, Value.eq, Value.number?] at hkept
      | int m => rwa [hbound] at hkept
      | real y => exact Value.ofNumber_eq_int (hbound ▸ hkept)
    rw [haffinity]
    show value.eq (Literal.bound ⟨.int n, c.type⟩).toNumeric = value.eq (.int n)
    rw [Bool.eq_iff_iff]
    exact ⟨fun heq => Value.eq_trans heq hnumeric, fun heq => Value.eq_trans heq (Value.eq_symm hnumeric)⟩

/-- Identities that one value of the column equals are the same. -/
theorem same_of_eq_bare (hd : c.IdentifiedBy d) (he : c.IdentifiedBy e) (hx : x.affinity = c.type.affinity)
    (hxd : x.eq (.bare (Batch.ownLiteral d).bound) = true)
    (hxe : x.eq (.bare (Batch.ownLiteral e).bound) = true) : d.same e = true := by
  obtain ⟨value, affinity⟩ := x
  obtain rfl : affinity = c.type.affinity := hx
  rcases hd.sort with ⟨⟨s, rfl⟩, haffinity⟩ | ⟨⟨n, rfl⟩, haffinity⟩
  · rcases he.sort with ⟨⟨t, rfl⟩, _⟩ | ⟨_, hother⟩
    · rw [haffinity] at hxd hxe
      have heq : (Value.text s).eq (.text t) = true := Value.eq_trans (Value.eq_symm hxd) hxe
      obtain rfl : s = t := by simpa [Value.eq] using heq
      exact Data.same_self _
    · simp [haffinity] at hother
  · rcases he.sort with ⟨_, hother⟩ | ⟨⟨m, rfl⟩, _⟩
    · simp [haffinity] at hother
    · rw [haffinity] at hxd hxe
      have heq : (Value.int n).eq (.int m) = true := Value.eq_trans (Value.eq_symm hxd) hxe
      obtain rfl : n = m := by simpa [Value.eq] using heq
      exact Data.same_self _

end Column.IdentifiedBy

namespace Batch

variable {b : Batch} {m : Mapping} {e : Evaluator} {given : Option Config} {subject : Subject} {r : Request} {sys sys' : System}
  {cast : ColumnType → Value → Value} {c : Column} {d : Dialect} {db : Database} {row : Row} {t u : Target}
  {k : String}

/-! ## Validated updates -/

/-- The batch is an update of columns that the table has, with targets of different identities. -/
structure ValidUpdate (b : Batch) : Prop where
  change : ∃ constant, b.change = .update b.keys constant
  apart : b.targets.Pairwise fun t u => u.identity.same t.identity = false
  keys : ∀ k ∈ b.keys, k ≠ b.mapping.identity.name ∧ ∃ c, b.mapping.table.labelled? k = some c

/-- The identities of the targets are of the identity column's type, and their values null or of their columns'
types. -/
structure FitsTypes (b : Batch) (c : Column) : Prop where
  column : b.mapping.table.column? b.mapping.identity.name = some c
  identities : ∀ t ∈ b.targets, c.IdentifiedBy t.identity
  values : ∀ t ∈ b.targets, ∀ k ∈ b.keys, ∀ column, b.mapping.table.labelled? k = some column →
    column.type.has (b.columnLiteral k (t.value k)).bound = true ∨ (b.columnLiteral k (t.value k)).bound = .null

theorem validUpdate_of_planUpdate (h : planUpdate e given subject r sys = (.ok b, sys')) : b.ValidUpdate := by
  obtain ⟨m, _, htargets, hcolumns, h⟩ := planUpdate_eq_ok h
  obtain ⟨_, _, _, hapart⟩ := checkTargets_eq_ok_iff.mp htargets
  obtain ⟨_, hknown, _⟩ := checkColumns_eq_ok_iff.mp hcolumns
  unfold restrict at h
  obtain ⟨id, sys₂, _, h⟩ := Sys.bind_eq_ok h
  obtain ⟨f, sys₃, _, h⟩ := Sys.bind_eq_ok h
  obtain ⟨rfl, rfl⟩ := Sys.of_pure_eq_ok h
  exact ⟨⟨_, rfl⟩, hapart, fun k hk => columnFault?_eq_none_iff.mp (hknown k (List.mem_append_left _ hk))⟩

/-! ## Pairing a row -/

section Pairing

variable (hvalid : b.ValidUpdate) (hfits : b.FitsTypes c)

include hfits

theorem affinity_identityOf (row : Row) : (b.identityOf row).affinity = c.type.affinity := by
  have hcolumn := hfits.column
  unfold Schema.column? at hcolumn
  rw [List.find?_eq_bind_findIdx?_getElem?, Option.bind_eq_some_iff] at hcolumn
  obtain ⟨i, hi, hc⟩ := hcolumn
  have hposition : b.identityPosition = i := by
    unfold identityPosition Schema.position?
    rw [hi]
    rfl
  unfold identityOf Schema.operand
  rw [hposition, hc]
  rfl

/-- The identity that is joined names the rows that the target names. -/
theorem isNamed_joined_iff (ht : t ∈ b.targets) :
    b.isNamed row (b.identityLiteral t.identity) = true ↔ b.Names t row := by
  have heq := (hfits.identities t ht).eq_bare (affinity_identityOf hfits row)
  unfold Names isNamed identityLiteral
  rw [hfits.column, ← heq]
  rfl

include hvalid

/-- A row is named by one target at most. -/
theorem eq_of_names (ht : t ∈ b.targets) (hu : u ∈ b.targets) (hnt : b.Names t row) (hnu : b.Names u row) :
    t = u := by
  have hapart : b.targets.Pairwise fun t u => ¬(b.Names t row ∧ b.Names u row) := by
    refine hvalid.apart.imp_of_mem fun {t u} ht hu hne hboth => ?_
    have hsame := (hfits.identities u hu).same_of_eq_bare (hfits.identities t ht)
      (affinity_identityOf hfits row) hboth.2 hboth.1
    exact Bool.false_ne_true (hne.symm.trans hsame)
  have hsymm : Std.Symm fun t u => ¬(b.Names t row ∧ b.Names u row) := ⟨fun t u h hboth => h hboth.symm⟩
  by_contra hne
  exact hapart.forall ht hu hne ⟨hnt, hnu⟩

/-- The target that names a row is the one it is chosen by. -/
theorem targetOf?_eq_some (ht : t ∈ b.targets) (hnamed : b.Names t row) : b.targetOf? row = some t := by
  cases hfound : b.targetOf? row with
  | none => exact absurd hnamed (List.find?_eq_none.mp hfound t ht)
  | some found =>
    have hnames : b.Names found row := by
      unfold targetOf? at hfound
      exact @List.find?_some _ (fun t => b.isNamed row (ownLiteral t.identity)) found b.targets hfound
    rw [eq_of_names hvalid hfits ht (List.mem_of_find?_eq_some hfound) hnamed hnames]

/-! ## Joined rows -/

omit hvalid hfits in
theorem value_identity (b : Batch) (t : Target) :
    b.joinedTargets.value (b.joinedRow t) b.mapping.identity.name =
      (b.identityLiteral t.identity).bound := by
  unfold JoinedRows.value joinedTargets joinedRow
  rw [List.zip_cons_cons, List.lookup_cons_self]
  rfl

omit hfits in
theorem value_key (t : Target) (hk : k ∈ b.keys) :
    b.joinedTargets.value (b.joinedRow t) k = (b.columnLiteral k (t.value k)).bound := by
  have hne : (k == b.mapping.identity.name) = false := by simpa using (hvalid.keys k hk).1
  unfold JoinedRows.value joinedTargets joinedRow
  rw [List.zip_cons_cons, List.lookup_cons, hne, ← List.map_prod_left_eq_zip, List.lookup_graph _ hk]
  rfl

omit hvalid in
/-- What a row is paired with is what the targets that name it give. -/
theorem mem_pairings_iff (hjoins : b.joins d = true) {joinedRow : String → Value} :
    joinedRow ∈ (b.asUpdate d).pairings row ↔
      ∃ t ∈ b.targets, b.Names t row ∧ joinedRow = b.joinedTargets.value (b.joinedRow t) := by
  have hpaired : ∀ t ∈ b.targets, (b.mapping.table.columnOf row b.joinedTargets.key).eq
      (.bare (b.joinedTargets.value (b.joinedRow t) b.joinedTargets.key)) = true ↔ b.Names t row := by
    intro t ht
    rw [← isNamed_joined_iff hfits ht, show b.joinedTargets.key = b.mapping.identity.name from rfl, value_identity]
    rfl
  unfold Update.pairings asUpdate source
  rw [if_pos hjoins]
  constructor
  · intro hmem
    obtain ⟨literals, hliterals, rfl⟩ := List.mem_map.mp hmem
    obtain ⟨hmem, heq⟩ := List.mem_filter.mp hliterals
    obtain ⟨t, ht, rfl⟩ := List.mem_map.mp hmem
    exact ⟨t, ht, (hpaired t ht).mp heq, rfl⟩
  · rintro ⟨t, ht, hnamed, rfl⟩
    exact List.mem_map_of_mem (List.mem_filter.mpr ⟨List.mem_map_of_mem ht, (hpaired t ht).mpr hnamed⟩)

/-- What a row that a target names is paired with holds the values of this target. -/
theorem value_of_mem_pairings (hjoins : b.joins d = true) (ht : t ∈ b.targets) (hnamed : b.Names t row)
    {joinedRow : String → Value} (hpaired : joinedRow ∈ (b.asUpdate d).pairings row) (hk : k ∈ b.keys) :
    joinedRow k = (b.columnLiteral k (t.value k)).bound := by
  obtain ⟨u, hu, hnu, rfl⟩ := (mem_pairings_iff hfits hjoins).mp hpaired
  rw [eq_of_names hvalid hfits hu ht hnu hnamed]
  exact value_key hvalid t hk

omit hvalid in
/-- A row that a target names is paired, in either form. -/
theorem pairings_ne_nil (ht : t ∈ b.targets) (hnamed : b.Names t row) : (b.asUpdate d).pairings row ≠ [] := by
  cases hjoins : b.joins d with
  | true => exact List.ne_nil_of_mem ((mem_pairings_iff hfits hjoins).mpr ⟨t, ht, hnamed, rfl⟩)
  | false => simp [Update.pairings, asUpdate, source, hjoins]

end Pairing

/-! ## The values of a row -/

section Values

variable (hvalid : b.ValidUpdate) (hfits : b.FitsTypes c) (hcast : KeepsValues cast)

theorem lookup_assignments {column : Column} (hcolumn : column ∈ b.mapping.table.columns) :
    (b.asUpdate d).assignments.lookup column.label =
      if column.label ∈ b.keys ++ b.constants.map (·.1) then some (b.assigned d column.label) else none := by
  have hmem : column.label ∈ b.changedColumns ↔ column.label ∈ b.keys ++ b.constants.map (·.1) := by
    simp only [changedColumns, List.mem_filter, List.contains_iff_mem, List.mem_map_of_mem hcolumn, true_and]
  unfold asUpdate
  split
  case isTrue hset => exact List.lookup_graph _ (hmem.mpr hset)
  case isFalse hset =>
    rw [List.lookup_eq_none_iff]
    rintro _ hentry
    obtain ⟨name, hname, rfl⟩ := List.mem_map.mp hentry
    have hne : column.label ≠ name := fun heq => hset (hmem.mp (heq ▸ hname))
    simpa using hne

include hvalid hfits hcast

/-- A column that targets set is set to what the row's target gives it, in either form. -/
theorem value_assigned (ht : t ∈ b.targets) (hnamed : b.Names t row) {joinedRow : String → Value}
    (hpaired : joinedRow ∈ (b.asUpdate d).pairings row) (hconstant : b.constants.lookup k = none)
    (hk : k ∈ b.keys) :
    (b.assigned d k).value cast b.mapping.table row joinedRow = (b.columnLiteral k (t.value k)).bound := by
  unfold assigned
  rw [hconstant]
  dsimp only
  cases hjoins : b.joins d with
  | true =>
    obtain ⟨column, hcolumn⟩ := (hvalid.keys k hk).2
    rw [if_pos rfl, hcolumn]
    show cast column.type (joinedRow k) = _
    rw [value_of_mem_pairings hvalid hfits hjoins ht hnamed hpaired hk]
    exact hcast _ _ (hfits.values t ht k hk column hcolumn)
  | false =>
    rw [if_neg Bool.false_ne_true]
    have hfind : (b.targets.map fun t => (ownLiteral t.identity, b.columnLiteral k (t.value k))).find?
        (fun alternative => (b.mapping.table.columnOf row b.mapping.identity.name).eq (.bare alternative.1.bound)) =
          some (ownLiteral t.identity, b.columnLiteral k (t.value k)) := by
      have htarget := targetOf?_eq_some hvalid hfits ht hnamed
      rw [List.find?_map]
      exact congrArg (Option.map _) htarget
    simp only [Assigned.value, hfind]

/-- A row that a target names is set to what is chosen by the identity, in either form. -/
theorem set_eq_updatedByChoice (ht : t ∈ b.targets) (hnamed : b.Names t row) {joinedRow : String → Value}
    (hpaired : joinedRow ∈ (b.asUpdate d).pairings row) :
    (b.asUpdate d).set cast row joinedRow = b.updatedByChoice row := by
  unfold Update.set updatedByChoice
  refine List.map_congr_left ?_
  rintro ⟨column, old⟩ hentry
  dsimp only
  rw [lookup_assignments (List.of_mem_zip hentry).1]
  unfold choice
  cases hconstant : b.constants.lookup column.label with
  | some v =>
    have hmem : column.label ∈ b.constants.map (·.1) := by
      by_contra hmem
      exact Option.some_ne_none v (hconstant.symm.trans (lookup_eq_none_of_not_mem hmem))
    rw [if_pos (List.mem_append_right _ hmem)]
    simp only [Option.map_some, Option.getD_some, assigned, hconstant, Assigned.value]
  | none =>
    by_cases hk : column.label ∈ b.keys
    · rw [if_pos (List.mem_append_left _ hk)]
      simp only [Option.map_some, Option.getD_some, List.contains_iff_mem, if_pos hk,
        targetOf?_eq_some hvalid hfits ht hnamed]
      exact value_assigned hvalid hfits hcast ht hnamed hpaired hconstant hk
    · have hmem : column.label ∉ b.constants.map (·.1) := by
        intro hmem
        obtain ⟨entry, hentry, heq⟩ := List.mem_map.mp hmem
        simpa [heq] using List.lookup_eq_none_iff.mp hconstant entry hentry
      rw [if_neg (fun hset => (List.mem_append.mp hset).elim hk hmem)]
      simp only [Option.map_none, Option.getD_none, List.contains_iff_mem, if_neg hk]

end Values

/-! ## The statement as a whole -/

section Statement

variable (hvalid : b.ValidUpdate) (hfits : b.FitsTypes c) (hcast : KeepsValues cast)

include hfits in
theorem exists_names_of_reaches (hreached : b.reaches db row = true) : ∃ t ∈ b.targets, b.Names t row :=
  ((reaches_iff fun t ht => (hfits.identities t ht).isPlain).mp hreached).1

include hfits in
/-- The statement affects the rows that the batch reaches, in either form. -/
theorem affects_eq_reaches (d : Dialect) (db : Database) (row : Row) :
    (b.asUpdate d).affects (b.reaches db) row = b.reaches db row := by
  unfold Update.affects
  cases hreached : b.reaches db row with
  | false => rfl
  | true =>
    obtain ⟨t, ht, hnamed⟩ := exists_names_of_reaches hfits hreached
    simpa using pairings_ne_nil hfits ht hnamed

include hvalid hfits hcast

/-- There is one thing that the statement can make of a row, in either form. -/
theorem makes_iff (d : Dialect) (db : Database) (s : Schema) (row made : Row) :
    (b.asUpdate d).Makes cast (b.reaches db) s row made ↔
      made = if b.reaches db row then s.stored (b.updatedByChoice row) else row := by
  have haffects := affects_eq_reaches hfits d db row
  constructor
  · rintro (⟨hreached, hpaired⟩ | hkept)
    · obtain ⟨t, ht, hnamed⟩ := exists_names_of_reaches hfits hreached
      rw [if_pos hreached, set_eq_updatedByChoice hvalid hfits hcast ht hnamed hpaired]
    · rw [haffects] at hkept
      rw [hkept, if_neg Bool.false_ne_true]
  · rintro rfl
    cases hreached : b.reaches db row with
    | true =>
      obtain ⟨t, ht, hnamed⟩ := exists_names_of_reaches hfits hreached
      obtain ⟨joinedRow, hpaired⟩ := List.exists_mem_of_ne_nil _ (pairings_ne_nil (d := d) hfits ht hnamed)
      rw [if_pos rfl, ← set_eq_updatedByChoice hvalid hfits hcast ht hnamed hpaired]
      exact .set hreached hpaired
    | false => exact .kept (haffects.trans hreached)

/-- There is one thing that the statement can come to, in either form. -/
theorem comesTo_iff (d : Dialect) (db : Database) (result : Except SqlFault (Database × Nat)) :
    (b.asUpdate d).ComesTo cast (b.reaches db) db result ↔ result = b.apply db := by
  obtain ⟨constant, hchange⟩ := hvalid.change
  have hrows : ∀ (s : Schema) (rows made : List Row),
      List.Forall₂ ((b.asUpdate d).Makes cast (b.reaches db) s) rows made ↔
        made = rows.map fun row => if b.reaches db row then s.stored (b.updatedByChoice row) else row := by
    intro s rows made
    have hmakes : (b.asUpdate d).Makes cast (b.reaches db) s = fun row made =>
        (if b.reaches db row then s.stored (b.updatedByChoice row) else row) = made :=
      funext₂ fun row made => propext ((makes_iff hvalid hfits hcast d db s row made).trans eq_comm)
    have hmap := List.forall₂_map_left_iff (R := Eq) (l := rows) (u := made)
      (f := fun row => if b.reaches db row then s.stored (b.updatedByChoice row) else row)
    rw [hmakes, ← hmap, List.forall₂_eq_eq_eq, eq_comm]
  have haffects : (b.asUpdate d).affects (b.reaches db) = b.reaches db :=
    funext (affects_eq_reaches hfits d db)
  have htable : (b.asUpdate d).table = b.mapping.table := rfl
  unfold Update.ComesTo apply Database.update
  rw [hchange, htable]
  cases db.table? b.mapping.table.name with
  | none => rfl
  | some t =>
    simp only [hrows, exists_eq_left, haffects]
    cases db.changeRows t _ with
    | error f => rfl
    | ok changed => rfl

end Statement

/-! ## Agreement -/

end Batch

end RowGuard

/-! ## Tasks -/

namespace RowGuard.Tasks

open Batch

/-- Tasks with whole numbers as identities. -/
def tasks : Schema :=
  ⟨"tasks", [{ name := "id", type := .integer, isKey := true },
    { name := "title", type := .text, nullable := true },
    { name := "done", type := .boolean }]⟩

def mapping : Mapping := ⟨.text "Task", tasks, { name := "id", type := .integer, isKey := true }⟩

def table : Table :=
  ⟨tasks, [[.int 1, .text "one", .int 0], [.int 2, .text "two", .int 0], [.int 3, .text "three", .int 0]]⟩

def system : System := { disk := ⟨[table]⟩, globals := { registry := ⟨[mapping]⟩ } }

def worker : Subject := ⟨.text "User", .text "wim"⟩

/-- An evaluator that allows everything. -/
def evaluator : Evaluator := .fixed {}

/-- Finishes the third task and the first, of which one loses its title and the other gets a new one, and a
task that does not exist. -/
def finish : Request where
  action := .text "edit"
  type := .text "Task"
  targets := [⟨.int 3, [("title", .null)]⟩, ⟨.int 1, [("title", .text "first")]⟩,
    ⟨.int 7, [("title", .text "seventh")]⟩]
  constant := [("done", .bool true)]

/-- The tasks when the request has been carried out. -/
def finished : Table :=
  ⟨tasks, [[.int 1, .text "first", .int 1], [.int 2, .text "two", .int 0], [.int 3, .null, .int 1]]⟩

/-- The fragment for editing tasks, as it is placed in a statement. -/
def fragment : Fragment :=
  { Fragment.ofText (.text "tasks.id") (.text "1 = 1") (.text "edit") (.text "Task") with embedded := true }

/-- The batch that the request is planned to be. -/
def batch : Batch where
  subject := worker
  action := finish.action
  type := finish.type
  mapping := mapping
  targets := finish.targets
  change := .update ["title"] finish.constant
  excluded := none
  fragment := fragment
  config := {}

/-- The system when the request has been planned. -/
def planned : System := { system with fragments := ⟨#[fragment]⟩, watch := { calls := .int 1 } }

/-- Numbers stay what they are where fractions are allowed; otherwise a value becomes what the column stores. -/
def converted : ColumnType → Value → Value
  | .numeric, v => v
  | type, v => type.affinity.apply v

theorem keepsValues_converted : KeepsValues converted := by
  intro type v h
  cases type <;> cases v <;>
    simp_all [ColumnType.has, converted, ColumnType.affinity, Affinity.apply, Value.toText, Value.toNumeric]

theorem planUpdate_finish : planUpdate evaluator none worker finish system = (.ok batch, planned) := by
  have hlookup : system.globals.registry.lookup finish.type = .ok mapping := by
    simp [Registry.lookup, Registry.get?, system, mapping, Data.requireKey, finish]
    rfl
  have htargets : checkTargets (none.getD system.globals.config) finish.targets = .ok () := by decide +kernel
  have hcolumns : checkColumns mapping finish.targets finish.constant = .ok () := by decide +kernel
  have hkeys : keysOf finish.targets = ["title"] := by decide +kernel
  rw [planUpdate_of_valid hlookup htargets hcolumns, hkeys]
  rfl

theorem fitsTypes_batch : batch.FitsTypes { name := "id", type := .integer, isKey := true } := by
  refine ⟨by decide +kernel, fun t ht => ?_, fun t ht k hk column hcolumn => ?_⟩
  · obtain rfl | rfl | rfl : t = _ ∨ t = _ ∨ t = _ := by simpa [batch, finish] using ht
    · exact Column.identifiedBy_int rfl 3
    · exact Column.identifiedBy_int rfl 1
    · exact Column.identifiedBy_int rfl 7
  · have hvalues : ∀ t ∈ finish.targets,
        ColumnType.text.has (batch.columnLiteral "title" (t.value "title")).bound = true ∨
          (batch.columnLiteral "title" (t.value "title")).bound = .null := by
      decide +kernel
    obtain rfl : k = "title" := List.mem_singleton.mp hk
    obtain rfl : _ = column := Option.some.inj ((rfl : tasks.labelled? "title" = some _).symm.trans hcolumn)
    exact hvalues t ht

end RowGuard.Tasks
