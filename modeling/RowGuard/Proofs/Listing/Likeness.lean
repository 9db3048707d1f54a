import RowGuard.Proofs.Listing.Agreement

/-!
# Listings of databases that look alike

A listing shows of a database no more than the rows that its plan lets through and what the further fragments
grant on these. Where that is the same on two databases, the plan selects the same (`Plan.select_congr`), in the
same order.
-/

namespace RowGuard

open Outcome

namespace Listing

/-- The rows are told apart by the values at a place, which are ordered. -/
structure ToldApart (rows : List Row) (i : Nat) : Prop where
  nodup : rows.Nodup
  ordered : ∀ row ∈ rows, (row[i]?.getD .null).IsOrdered
  distinct : ∀ a ∈ rows, ∀ b ∈ rows, (b[i]?.getD .null).lt (a[i]?.getD .null) = false →
    (a[i]?.getD .null).lt (b[i]?.getD .null) = false → a = b

/-- On two databases the plan's fragments run alike, let through the same rows of the listed table, and grant the
same on these. -/
structure Plan.SeesAlike (p : Plan) (i : Nat) (db db' : Database) (rows rows' : List Row) : Prop where
  runs : ∀ f ∈ p.fragments, f.runs db p.mapping.table = f.runs db' p.mapping.table
  admits : ∀ row, row ∈ rows ∧ p.read.admits db p.mapping.table i row = true ↔
    row ∈ rows' ∧ p.read.admits db' p.mapping.table i row = true
  grants : ∀ row ∈ rows, p.read.admits db p.mapping.table i row = true → ∀ extra ∈ p.extras,
    extra.2.grants db p.mapping.table i row = extra.2.grants db' p.mapping.table i row

namespace Plan

variable {p : Plan} {i : Nat} {db db' : Database} {t t' : Table}

section Alike

variable (halike : p.SeesAlike i db db' t.rows t'.rows) (horder : p.order = [])
  (htable : db.table? p.mapping.table.name = some t) (htable' : db'.table? p.mapping.table.name = some t')
  (hplace : p.mapping.table.position? p.mapping.identity.name = some i)

include halike htable htable'

theorem runs_congr : p.runs db = p.runs db' := by
  have hfragments : (p.fragments.all fun f => f.runs db p.mapping.table) =
      p.fragments.all fun f => f.runs db' p.mapping.table := by
    rw [Bool.eq_iff_iff, List.all_eq_true, List.all_eq_true]
    exact forall₂_congr fun f hf => by rw [halike.runs f hf]
  unfold runs
  rw [htable, htable', hfragments]
  rfl

include horder hplace

/-- The rows are the same, and as each has a place of its own so is their order. -/
theorem readable_congr (hrows : ToldApart t.rows i) (hrows' : ToldApart t'.rows i) :
    p.readable db = p.readable db' := by
  obtain ⟨hperm, hsorted⟩ := readable_of_table horder htable hplace hrows.ordered
  obtain ⟨hperm', hsorted'⟩ := readable_of_table horder htable' hplace hrows'.ordered
  have hfiltered : (t.rows.filter (p.read.admits db p.mapping.table i)).Perm
      (t'.rows.filter (p.read.admits db' p.mapping.table i)) := by
    refine (List.perm_ext_iff_of_nodup (hrows.nodup.filter _) (hrows'.nodup.filter _)).mpr ?_
    intro row
    rw [List.mem_filter, List.mem_filter]
    exact halike.admits row
  have hsame : (p.readable db).Perm (p.readable db') := hperm.trans (hfiltered.trans hperm'.symm)
  refine List.Perm.eq_of_pairwise ?_ hsorted hsorted' hsame
  intro a b ha hb hab hba
  have hmem : ∀ row ∈ p.readable db, row ∈ t.rows := fun row hrow =>
    (List.mem_filter.mp (hperm.mem_iff.mp hrow)).1
  exact hrows.distinct a (hmem a ha) b (hmem b (hsame.mem_iff.mpr hb)) hab hba

/-- A plan selects the same from databases that it sees alike. -/
theorem select_congr (hrows : ToldApart t.rows i) (hrows' : ToldApart t'.rows i) : p.select db = p.select db' := by
  obtain ⟨hperm, _⟩ := readable_of_table horder htable hplace hrows.ordered
  have hvectors : ∀ row ∈ p.readable db, p.vector db row = p.vector db' row := by
    intro row hrow
    obtain ⟨hmem, hadmits⟩ := List.mem_filter.mp (hperm.mem_iff.mp hrow)
    have hgrants : (p.extras.map fun extra => (extra.1, Data.bool (extra.2.grants db p.mapping.table i row))) =
        p.extras.map fun extra => (extra.1, Data.bool (extra.2.grants db' p.mapping.table i row)) :=
      List.map_congr_left fun extra hextra => by rw [halike.grants row hmem hadmits extra hextra]
    unfold vector
    rw [identityPosition_eq hplace]
    cases p.mapping.table.read row with
    | error f => rfl
    | ok fields =>
      rw [ok_bind, ok_bind]
      exact congrArg (fun permissions => Except.ok (PermissionVector.mk _ _ permissions)) hgrants
  unfold select
  rw [runs_congr halike htable htable', mapM_congr hvectors,
    readable_congr halike horder htable htable' hplace hrows hrows']

end Alike

end Plan

/-- A planned listing sees two databases alike if on both the conditions run alike, the condition for reading holds
of the same rows, and the further ones agree on these. -/
theorem PlannedFor.seesAlike {ν : Type} [BEq ν] [ReflBEq ν] [Name ν] {e : LocalEvaluator ν} {config : Config}
    {s : Subject} {type : Data} {m : Mapping} {extras : List String} {p : Plan} {i : Nat} {db db' : Database}
    {rows rows' : List Row} (hfor : PlannedFor e config s type m extras p)
    (hruns : ∀ a ∈ readPermission :: extras, ∀ c sql, Compiles e config s type m a c sql → c.runs db = c.runs db')
    (hread : ∀ c sql, Compiles e config s type m readPermission c sql → ∀ row,
      row ∈ rows ∧ c.holds db Literal.written (m.table.operand row i) = true ↔
        row ∈ rows' ∧ c.holds db' Literal.written (m.table.operand row i) = true)
    (hgrants : ∀ c₀ sql₀, Compiles e config s type m readPermission c₀ sql₀ → ∀ a ∈ extras, ∀ c sql,
      Compiles e config s type m a c sql → ∀ row ∈ rows,
        c₀.holds db Literal.written (m.table.operand row i) = true →
          c.holds db Literal.written (m.table.operand row i) = c.holds db' Literal.written (m.table.operand row i)) :
    p.SeesAlike i db db' rows rows' := by
  obtain ⟨c₀, sql₀, hc₀, hplaced₀⟩ := hfor.read
  have hextras : ∀ extra ∈ p.extras, ∃ a ∈ extras, ∃ c sql, Compiles e config s type m a c sql ∧
      extra = (.text a, placed type m a c sql) := fun extra hextra => exists_of_mem_right hfor.extras hextra
  have hsame : ∀ a ∈ readPermission :: extras, ∀ c sql, Compiles e config s type m a c sql →
      (placed type m a c sql).runs db m.table = (placed type m a c sql).runs db' m.table := by
    intro a ha c sql hc
    unfold Fragment.runs
    show (_ && c.runs db && _) = (_ && c.runs db' && _)
    rw [hruns a ha c sql hc]
  obtain rfl := hfor.mapping
  refine ⟨?_, ?_, ?_⟩
  · intro f hf
    rcases List.mem_cons.mp hf with rfl | hf
    · rw [hplaced₀]
      exact hsame readPermission List.mem_cons_self c₀ sql₀ hc₀
    · obtain ⟨extra, hextra, rfl⟩ := List.mem_map.mp hf
      obtain ⟨a, ha, c, sql, hc, rfl⟩ := hextras extra hextra
      exact hsame a (List.mem_cons_of_mem _ ha) c sql hc
  · intro row
    rw [hplaced₀, admits_placed, admits_placed]
    exact hread c₀ sql₀ hc₀ row
  · intro row hrow hadmits extra hextra
    rw [hplaced₀, admits_placed] at hadmits
    obtain ⟨a, ha, c, sql, hc, rfl⟩ := hextras extra hextra
    rw [grants_placed, grants_placed]
    exact hgrants c₀ sql₀ hc₀ a ha c sql hc row hrow hadmits

/-- Where the global state is the same, and what a plan selects is, a listing comes to the same. -/
theorem list_congr {ν : Type} [BEq ν] [ReflBEq ν] [Name ν] {e : LocalEvaluator ν} {sys sys' : System}
    {db db' : Database} {bind : Bind} {given : Option Config} {s : Subject} {type : Data} {extras : List String}
    {extractSelf : Bool} (hsees : bind.Sees sys db) (hsees' : bind.Sees sys' db')
    (hglobals : sys'.globals = sys.globals)
    (hselect : ∀ p, planned e (e.configIn sys) sys.globals.registry s type extras extractSelf = .ok p →
      p.select db = p.select db') :
    (list e.toEvaluator bind given s { type, extras := extras.map Data.text, extractSelf } sys).1 =
      (list e.toEvaluator bind given s { type, extras := extras.map Data.text, extractSelf } sys').1 := by
  have hconfig : e.configIn sys' = e.configIn sys := by
    unfold LocalEvaluator.configIn
    rw [hglobals]
  rw [list_outcome given hsees, list_outcome given hsees', hconfig, hglobals]
  cases hplanned : planned e (e.configIn sys) sys.globals.registry s type extras extractSelf with
  | error f => rw [error_bind, error_bind]
  | ok p => rw [ok_bind, ok_bind, hselect p hplanned]

end Listing

end RowGuard
