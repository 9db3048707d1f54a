import RowGuard.Proofs.Access.Selection
import RowGuard.Proofs.Condition.Matching
import RowGuard.Proofs.Evaluator.Queries
import RowGuard.Proofs.Evaluator.Verdict

/-!
# Access grows with the facts

No condition asks that a row be missing. Where the tables that a fact book reads have at least the rows that they
have in another database (`FactBook.Grows`), whoever may do something there may do it here too: the condition still
runs, still holds, and a check that allowed it still does (`LocalEvaluator.access_mono`). Taking away rows of roles,
relations or attributes grants nothing, whatever the policy is and whether or not its relations lead back to a type.
-/

namespace RowGuard

/-! ## What a book reads -/

/-- The table that a query reads, if the query is understood and the table is there. -/
def Database.tableOf? (db : Database) (q : FactQuery) : Option Table :=
  match Scan.ofQuery q with
  | .ok scan => db.tables.find? fun t => Scan.sameName t.schema.name scan.table
  | .error _ => none

namespace FactBook

/-- Each table that a query of the book reads has the same columns in the second database, and at least its rows. -/
def Grows (b : FactBook) (db db' : Database) : Prop :=
  ∀ q ∈ b.queries, ∀ t, db.tableOf? q = some t →
    ∃ t', db'.tableOf? q = some t' ∧ t'.schema = t.schema ∧ ∀ row ∈ t.rows, row ∈ t'.rows

end FactBook

/-! ## Queries, conditions, checks -/

/-- A query that runs goes on to run when its table grows, and answers at least the rows that it answered. -/
theorem FactBook.Grows.rows {facts : FactBook} {db db' : Database} (h : facts.Grows db db') {q : Subquery}
    (hq : q.query ∈ facts.queries) {rows : List (List Operand)} (hrows : q.rows? db = .ok rows) :
    ∃ rows', q.rows? db' = .ok rows' ∧ ∀ row ∈ rows, row ∈ rows' := by
  obtain ⟨scan, t, places, takes, hscan, htable, hplaces, htakes⟩ := Subquery.exists_of_rows?_eq_ok hrows
  obtain ⟨t', htable', hschema, hmore⟩ := h _ hq t (by simpa [Database.tableOf?, hscan] using htable)
  have htable' : db'.tables.find? (fun t => Scan.sameName t.schema.name scan.table) = some t' := by
    simpa [Database.tableOf?, hscan] using htable'
  rw [Subquery.rows?_eq_ok hscan htable hplaces htakes, Except.ok.injEq] at hrows
  subst hrows
  rw [← hschema] at hplaces htakes ⊢
  refine ⟨_, Subquery.rows?_eq_ok hscan htable' hplaces htakes, ?_⟩
  intro row hrow
  obtain ⟨source, hsource, rfl⟩ := List.mem_map.mp hrow
  obtain ⟨hsource, htaken⟩ := List.mem_filter.mp hsource
  exact List.mem_map_of_mem (List.mem_filter.mpr ⟨hmore source hsource, htaken⟩)

theorem FactBook.Grows.includedIn {facts : FactBook} {db db' : Database} (h : facts.Grows db db') {q : Subquery}
    (hq : q.query ∈ facts.queries) (value : Literal → Value) : q.IncludedIn value db db' q where
  rows row hrow := by
    unfold Subquery.rows at *
    cases hrows : q.rows? db with
    | error e => simp [hrows] at hrow
    | ok rows =>
      obtain ⟨rows', hrows', hsub⟩ := h.rows hq hrows
      rw [hrows']
      rw [hrows] at hrow
      exact hsub row hrow
  role _ := rfl

namespace LocalEvaluator

variable {ν : Type} [BEq ν] [ReflBEq ν] [Name ν] {e : LocalEvaluator ν} {config : Config} {s : Subject}
  {action type : Data} {c : Condition} {db db' : Database}

theorem runs_mono (hgrows : e.facts.Grows db db') (hc : e.condition config s action type = .ok c)
    (h : c.runs db = true) : c.runs db' = true := by
  refine List.all_eq_true.mpr fun q hq => ?_
  have hrun := List.all_eq_true.mp h q hq
  cases hrows : q.rows? db with
  | error f => simp [hrows, Except.toBool] at hrun
  | ok rows =>
    obtain ⟨rows', hrows', _⟩ := hgrows.rows (queries_of_condition hc q hq) hrows
    rw [hrows']
    rfl

theorem holds_mono (hgrows : e.facts.Grows db db') (hc : e.condition config s action type = .ok c)
    {value : Literal → Value} {x : Operand} (h : c.holds db value x = true) : c.holds db' value x = true :=
  Condition.holds_of_matches (Clause.forall₂_matches_self c fun q hq =>
    hgrows.includedIn (queries_of_condition hc q hq) value) h

theorem verdict_mono (hgrows : e.facts.Grows db db') (hc : e.condition config s action type = .ok c)
    {target : Literal} (h : verdict c target db = .ok true) : verdict c target db' = .ok true := by
  obtain ⟨htest, hholds⟩ := verdict_eq_ok_iff.mp h
  exact verdict_eq_ok_iff.mpr
    ⟨{ htest with runs := runs_mono hgrows hc htest.runs }, holds_mono hgrows hc hholds⟩

/-- Access is monotone in the facts. When the tables that the book reads grow, every condition that the policy
compiles to goes on to run and to hold, whichever way its values are handed over, and every check that allowed
something goes on to allow it. -/
theorem access_mono (hgrows : e.facts.Grows db db') :
    (∀ config s action type c, e.condition config s action type = .ok c →
      (c.runs db = true → c.runs db' = true) ∧
        ∀ value x, c.holds db value x = true → c.holds db' value x = true) ∧
    ∀ bind bind' sys sys' s action r, bind.Sees sys db → bind'.Sees sys' db' →
      (bind' = .connection ∨ e.hasEngine = true) → e.configIn sys' = e.configIn sys →
      e.answer bind sys s action r = .ok true → e.answer bind' sys' s action r = .ok true := by
  refine ⟨?_, ?_⟩
  · intro config s action type c hc
    exact ⟨runs_mono hgrows hc, fun value x => holds_mono hgrows hc⟩
  · intro bind bind' sys sys' s action r hsees hsees' hreached hconfig h
    obtain ⟨_, c, hc, hverdict⟩ := (answer_eq_ok_iff hsees).mp h
    rw [← hconfig] at hc
    exact (answer_eq_ok_iff hsees').mpr ⟨hreached, c, hc, verdict_mono hgrows hc hverdict⟩

end LocalEvaluator

end RowGuard

namespace RowGuard.Folders

/-- The folders once Carol views the folder `a` and Bob edits it. -/
def extended : Database :=
  ⟨[⟨folders, [[.text "a", .text "b"], [.text "b", .null]]⟩,
    ⟨folderRoles, [[.text "carol", .text "viewer", .text "a"], [.text "bob", .text "viewer", .text "b"],
      [.text "bob", .text "editor", .text "a"]]⟩]⟩

theorem grows_extended : facts.Grows database extended := by
  intro q hq t ht
  have hqueries : facts.queries = [.selection roleQuery, .selection parentQuery] := rfl
  rw [hqueries] at hq
  rcases List.mem_cons.mp hq with rfl | hq
  · obtain rfl : _ = t := Option.some.inj ht
    exact ⟨_, rfl, rfl, by simp⟩
  · obtain rfl := List.mem_singleton.mp hq
    obtain rfl : _ = t := Option.some.inj ht
    exact ⟨_, rfl, rfl, by simp⟩

/-- Nobody loses anything by the roles that are given to Carol and to Bob. -/
theorem access_mono_extended :
    facts.Grows database extended ∧
      ∀ s action type c, evaluator.condition {} s action type = .ok c →
        ∀ x, c.holds database Literal.bound x = true → c.holds extended Literal.bound x = true :=
  ⟨grows_extended, fun s action type c hc =>
    (((LocalEvaluator.access_mono (e := evaluator) grows_extended).1 {} s action type c hc).2 Literal.bound)⟩

end RowGuard.Folders
