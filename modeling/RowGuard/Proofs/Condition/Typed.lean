import RowGuard.Facts.Select
import RowGuard.Proofs.Condition.Writing
import RowGuard.Proofs.Evaluator.Queries

/-!
# Typed values

A value of its literal's type (`Literal.IsTyped`) can be bound, and can be written in every dialect. So can what a
filter compares a column with, since that takes its type from the column and the value (`RowFilter.IsComparison`).
A condition has a text exactly if each of its literals has one (`Clause.exists_renderEach_iff`).
-/

namespace RowGuard

open Outcome

/-! ## Literals -/

/-- The value is one of the literal's type, if that has one, and small enough for a database. No plain value is a
UUID. -/
inductive Literal.IsTyped : Literal → Prop
  | text {s type} (h : ∀ t, type = some t → t.sort = .texts) : IsTyped ⟨.text s, type⟩
  | int {n type} (hn : Value.isStorable n = true) (h : ∀ t, type = some t → t.sort = .integers) :
      IsTyped ⟨.int n, type⟩
  | number {n} (hn : (Binary64.ofInt? n).isSome) : IsTyped ⟨.int n, some .numeric⟩
  | real {x type} (h : ∀ t, type = some t → t.sort = .numbers) : IsTyped ⟨.real x, type⟩
  | truth {b type} (h : ∀ t, type = some t → t.sort = .truths) : IsTyped ⟨.bool b, type⟩

namespace Literal.IsTyped

variable {l : Literal} {type : Option ColumnType} {sort : TypeSort}

theorem cases_type (h : ∀ t, type = some t → t.sort = sort) : type = none ∨ ∃ t, type = some t ∧ t.sort = sort := by
  cases type with
  | none => exact .inl rfl
  | some t => exact .inr ⟨t, rfl, h t rfl⟩

theorem text_text (s : String) : IsTyped ⟨.text s, some .text⟩ :=
  .text fun _ ht => congrArg ColumnType.sort (Option.some.inj ht).symm

theorem binds (h : l.IsTyped) : l.Binds := by
  cases h with
  | text h =>
    obtain rfl | ⟨t, rfl, hsort⟩ := cases_type h
    · exact ⟨rfl, rfl⟩
    · cases t <;> first | exact ⟨rfl, rfl⟩ | simp [ColumnType.sort] at hsort
  | int hn h =>
    obtain rfl | ⟨t, rfl, hsort⟩ := cases_type h
    · exact ⟨rfl, hn⟩
    · cases t <;> first | exact ⟨rfl, hn⟩ | simp [ColumnType.sort] at hsort
  | @number n hn =>
    obtain ⟨x, hx⟩ := Option.isSome_iff_exists.mp hn
    have hbind : Value.bind (some .numeric) (.int n) = .ok (Value.ofScalar (.real x)) := by
      simp [Value.bind, Value.bindScalar, Scalar.number?, Number.toBinary64?, hx]
    have hbound : bound ⟨.int n, some .numeric⟩ = Value.ofScalar (.real x) := by rw [bound, hbind]
    refine ⟨hbind.trans (congrArg Except.ok hbound.symm), ?_⟩
    rw [hbound]
    cases x <;> rfl
  | @real x type h =>
    obtain rfl | ⟨t, rfl, hsort⟩ := cases_type h
    · exact ⟨rfl, by cases x <;> rfl⟩
    · cases t <;> first | exact ⟨rfl, by cases x <;> rfl⟩ | simp [ColumnType.sort] at hsort
  | @truth b type h =>
    obtain rfl | ⟨t, rfl, hsort⟩ := cases_type h
    · exact ⟨rfl, by cases b <;> rfl⟩
    · cases t <;> first | exact ⟨rfl, by cases b <;> rfl⟩ | simp [ColumnType.sort] at hsort

theorem exists_render (h : l.IsTyped) (d : Dialect) : ∃ text, l.render d = .ok text := by
  cases h with
  | text h =>
    obtain rfl | ⟨t, rfl, hsort⟩ := cases_type h
    · exact ⟨_, rfl⟩
    · cases t <;> first | exact ⟨_, rfl⟩ | simp [ColumnType.sort] at hsort
  | int hn h =>
    obtain rfl | ⟨t, rfl, hsort⟩ := cases_type h
    · exact ⟨_, rfl⟩
    · cases t <;> first | exact ⟨_, rfl⟩ | simp [ColumnType.sort] at hsort
  | number hn => exact ⟨_, rfl⟩
  | real h =>
    obtain rfl | ⟨t, rfl, hsort⟩ := cases_type h
    · exact ⟨_, rfl⟩
    · cases t <;> first | exact ⟨_, rfl⟩ | simp [ColumnType.sort] at hsort
  | @truth b type h =>
    obtain rfl | ⟨t, rfl, hsort⟩ := cases_type h
    · exact ⟨_, rfl⟩
    · cases t <;> cases b <;> first | exact ⟨_, rfl⟩ | simp [ColumnType.sort] at hsort

end Literal.IsTyped

/-- A value that takes its type from a comparison can be written if it can be bound. -/
theorem Sql.exists_literal_of_bind {column own : ColumnType} {value : Data} {v : Value}
    (hkind : Sql.kindType value = some own)
    (h : Value.bind (some (Sql.comparisonType column value)) value = .ok v) (d : Dialect) :
    ∃ text, Sql.literal d (some (Sql.comparisonType column value)) value = .ok text := by
  unfold Sql.kindType at hkind
  split at hkind
  case h_1 b => cases column <;> cases b <;> exact ⟨_, rfl⟩
  case h_2 n => cases column <;> exact ⟨_, rfl⟩
  case h_3 x => cases column <;> exact ⟨_, rfl⟩
  case h_4 s =>
    -- a text is refused where identifiers are expected, and a text otherwise
    by_cases huuid : column = .uuid
    · subst huuid
      exact absurd h nofun
    · have hsort := Sql.sort_comparisonType_text huuid s
      cases hown : Sql.comparisonType column (.text s) with
      | text | string | enumeration => exact ⟨_, rfl⟩
      | integer | bigInteger | numeric | uuid | boolean => simp [hown, ColumnType.sort] at hsort
  case h_5 => cases hkind

/-! ## Queries -/

/-- The filter compares as a comparison with a column does: what it compares with has a type by its own kind, and
takes the column's type where that is of the same sort. -/
def RowFilter.IsComparison : RowFilter → Prop
  | .equals _ type value => value = .null ∨
      ∃ own column, Sql.kindType value = some own ∧ type = some (Sql.comparisonType column value)
  | .isTrue _ => True

/-- The query's filter compares as a comparison with a column does. -/
def FactQuery.Compares : FactQuery → Prop
  | .selection s => ∀ f, s.filter = some f → f.IsComparison
  | .sql _ _ => True

/-- The filters of a table's columns are comparisons. -/
theorem TableQuery.compares_toFactQuery {t : TableQuery} {q : FactQuery} (h : t.toFactQuery = .ok q)
    (hvalue : ∀ column value, t.filter = some (column, value) → value = .null ∨ (Sql.kindType value).isSome) :
    q.Compares := by
  unfold toFactQuery at h
  obtain ⟨columns, _, h⟩ := bind_eq_ok_iff.mp h
  dsimp only at h
  split at h
  case h_1 =>
    obtain rfl := Except.ok.inj h
    simp [FactQuery.Compares]
  case h_2 name value hgiven =>
    obtain ⟨column, _, h⟩ := bind_eq_ok_iff.mp h
    obtain rfl := Except.ok.inj h
    intro f hf
    obtain rfl := Option.some.inj hf
    refine (hvalue name value hgiven).imp_right fun hkind => ?_
    obtain ⟨own, hown⟩ := Option.isSome_iff_exists.mp hkind
    exact ⟨own, column.type, hown, rfl⟩

theorem RowFilter.exists_render_equals_iff {d : Dialect} {table column : String} {type : Option ColumnType}
    {value : Data} (hvalue : value ≠ .null) :
    (∃ text, RowFilter.render d table (.equals column type value) = .ok text) ↔
      ∃ text, Sql.literal d type value = .ok text := by
  unfold RowFilter.render
  split
  case h_1 heq =>
    obtain ⟨_, _, rfl⟩ := RowFilter.equals.inj heq
    exact absurd rfl hvalue
  case h_2 heq =>
    obtain ⟨rfl, rfl, rfl⟩ := RowFilter.equals.inj heq
    cases Sql.literal d type value <;> simp
  case h_3 heq => cases heq

/-- The literal has a text. -/
def Literal.Renders (d : Dialect) (l : Literal) : Prop := ∃ text, l.render d = .ok text

/-- What the query's filter compares with has a text. -/
def Subquery.Renders (d : Dialect) (q : Subquery) : Prop :=
  ∀ l, Condition.filterLiteral? q = some l → l.Renders d

/-- A query has a text exactly if what its filter compares with has one. -/
theorem Subquery.exists_render_iff {q : Subquery} {d : Dialect} (before : List FactQuery) :
    (∃ text, q.query.render d before = .ok text) ↔ q.Renders d := by
  unfold Renders Literal.Renders
  obtain ⟨query, columns⟩ := q
  cases query with
  | sql text names => exact ⟨fun _ l hl => (nomatch hl), fun _ => ⟨_, rfl⟩⟩
  | selection s =>
    obtain ⟨table, selected, filter, distinct⟩ := s
    cases filter with
    | none => exact ⟨fun _ l hl => (nomatch hl), fun _ => ⟨_, rfl⟩⟩
    | some f =>
      cases f with
      | isTrue column => exact ⟨fun _ l hl => (nomatch hl), fun _ => ⟨_, rfl⟩⟩
      | equals column type value =>
        by_cases hnull : value = .null
        · subst hnull
          exact ⟨fun _ l hl => (nomatch hl), fun _ => ⟨_, rfl⟩⟩
        · have hfilter : (∃ text, FactQuery.render d before (.selection ⟨table, selected, some (.equals column type value),
              distinct⟩) = .ok text) ↔ ∃ text, RowFilter.render d table (.equals column type value) = .ok text := by
            simp only [FactQuery.render, Selection.render]
            cases RowFilter.render d table (.equals column type value) <;> simp
          rw [hfilter, RowFilter.exists_render_equals_iff hnull]
          simp [Condition.filterLiteral?, hnull, Literal.render]

/-! ## Clauses -/

theorem exists_renderActorTest_iff {d : Dialect} (tableAlias : String) {fact : Subquery} {subject : Literal}
    {roles : List String} :
    (∃ text, renderActorTest d tableAlias fact subject roles = .ok text) ↔
      ∀ l ∈ subject :: Clause.roleLiterals fact roles, l.Renders d := by
  constructor
  · rintro ⟨text, h⟩
    exact exists_render_of_renderActorTest h
  · intro h
    obtain ⟨who, hwho⟩ := h subject List.mem_cons_self
    obtain ⟨which, hwhich⟩ := exists_mapM_eq_ok fun l hl => h l (List.mem_cons_of_mem _ hl)
    exact ⟨_, by rw [renderActorTest, hwho, ok_bind, hwhich, ok_bind]; rfl⟩

/-- A query with a test of an actor has a text exactly if both have one. -/
theorem exists_renderActorQuery_iff {d : Dialect} {before : List FactQuery} {fact : Subquery} {subject : Literal}
    {roles : List String} {α : Type} {k : String → String → α} :
    (∃ out, (do
      let query ← fact.query.render d before
      let test ← renderActorTest d (anonymous before) fact subject roles
      return k query test : Except SqlFault α) = .ok out) ↔
      (∀ l ∈ subject :: Clause.roleLiterals fact roles, l.Renders d) ∧ ∀ q ∈ [fact], q.Renders d := by
  rw [← exists_renderActorTest_iff (anonymous before)]
  simp only [List.mem_singleton, forall_eq, ← Subquery.exists_render_iff before]
  cases fact.query.render d before <;> cases renderActorTest d (anonymous before) fact subject roles <;> simp

namespace Clause

mutual

/-- A clause has a text exactly if its literals and what its queries compare with have one. -/
theorem exists_render_iff {d : Dialect} (target : String) (before : List FactQuery) : ∀ c : Clause,
    (∃ out, c.render d target before = .ok out) ↔ (∀ l ∈ c.literals, l.Renders d) ∧ ∀ q ∈ c.facts, q.Renders d
  | .role fact subject roles => by
    rw [Clause.render]
    exact exists_renderActorQuery_iff
  | .globalRole fact subject roles => by
    rw [Clause.render]
    exact exists_renderActorQuery_iff
  | .related fact inner => by
    have hinner := exists_renderEach_iff (d := d) (fact.columnRef d (anonymous before) 1)
      (decide (inner.length ≠ 1)) (before ++ [fact.query]) inner
    have hquery := Subquery.exists_render_iff (q := fact) (d := d) before
    simp only [facts, literals, List.forall_mem_cons]
    rw [and_left_comm, ← hinner, ← hquery, Clause.render]
    constructor
    · rintro ⟨out, h⟩
      obtain ⟨query, hquery, h⟩ := bind_eq_ok_iff.mp h
      obtain ⟨texts, htexts, _⟩ := bind_eq_ok_iff.mp h
      exact ⟨⟨query, hquery⟩, texts, htexts⟩
    · rintro ⟨⟨query, hquery⟩, texts, htexts⟩
      exact ⟨_, by rw [hquery, ok_bind, htexts]; rfl⟩
  | .hasAttribute fact => by
    simp only [facts, literals, List.mem_singleton, forall_eq, ← Subquery.exists_render_iff before,
      Clause.render]
    cases fact.query.render d before <;> simp

/-- Clauses have texts exactly if their literals and what their queries compare with have one. -/
theorem exists_renderEach_iff {d : Dialect} (target : String) (several : Bool) (before : List FactQuery) :
    ∀ cs : List Clause, (∃ out, renderEach d target several before cs = .ok out) ↔
      (∀ l ∈ literalsOfAll cs, l.Renders d) ∧ ∀ q ∈ factsOfAll cs, q.Renders d
  | [] => by simp [renderEach, literalsOfAll, factsOfAll]
  | c :: rest => by
    simp only [literalsOfAll, factsOfAll, List.forall_mem_append]
    rw [and_and_and_comm, ← exists_render_iff target before c, renderEach]
    constructor
    · rintro ⟨out, h⟩
      obtain ⟨first, hfirst, h⟩ := bind_eq_ok_iff.mp h
      obtain ⟨others, hothers, _⟩ := bind_eq_ok_iff.mp h
      exact ⟨⟨first, hfirst⟩, (exists_renderEach_iff target several _ rest).mp ⟨others, hothers⟩⟩
    · rintro ⟨⟨⟨text, after⟩, hfirst⟩, hrest⟩
      obtain ⟨others, hothers⟩ := (exists_renderEach_iff target several after rest).mpr hrest
      exact ⟨_, bind_eq_ok_iff.mpr ⟨_, hfirst, bind_eq_ok_iff.mpr ⟨_, hothers, rfl⟩⟩⟩

end

end Clause

/-! ## Conditions -/

namespace Condition

variable {d : Dialect} {c : Condition}

/-- Whether a condition has a text depends on its literals alone. -/
theorem exists_render_iff (target : String) :
    (∃ text, c.render d target = .ok text) ↔ ∀ l ∈ c.literals none, l.Renders d := by
  have heach := Clause.exists_renderEach_iff (d := d) target (decide (c.length ≠ 1)) [] c
  have hmem : (∀ l ∈ c.literals none, l.Renders d) ↔
      (∀ l ∈ Clause.literalsOfAll c, l.Renders d) ∧ ∀ q ∈ Clause.factsOfAll c, q.Renders d := by
    simp only [literals, Option.toList_none, ite_self, List.nil_append, List.forall_mem_append, List.mem_filterMap,
      Subquery.Renders]
    refine and_congr_right fun _ => ⟨fun h q hq l hl => h l ⟨q, hq, hl⟩, ?_⟩
    rintro h l ⟨q, hq, hl⟩
    exact h q hq l hl
  rw [hmem, ← heach, Condition.render]
  cases renderEach d target (decide (c.length ≠ 1)) [] c <;> simp

theorem mentionsTarget_iff : c.mentionsTarget = true ↔ ∃ clause ∈ c, Clause.mentionsTarget clause = true :=
  List.any_eq_true

theorem mem_literals {target : Option Literal} {l : Literal} :
    l ∈ c.literals target ↔ (c.mentionsTarget = true ∧ target = some l) ∨
      (∃ clause ∈ c, l ∈ Clause.literals clause) ∨
        ∃ clause ∈ c, ∃ q ∈ Clause.facts clause, filterLiteral? q = some l := by
  have htarget : l ∈ (if c.mentionsTarget then target.toList else []) ↔ c.mentionsTarget = true ∧ target = some l := by
    cases c.mentionsTarget <;> simp
  have hfilter : l ∈ (Clause.factsOfAll c).filterMap filterLiteral? ↔
      ∃ clause ∈ c, ∃ q ∈ Clause.facts clause, filterLiteral? q = some l := by
    simp only [List.mem_filterMap, Clause.mem_factsOfAll]
    constructor
    · rintro ⟨q, ⟨clause, hclause, hq⟩, hl⟩
      exact ⟨clause, hclause, q, hq, hl⟩
    · rintro ⟨clause, hclause, q, hq, hl⟩
      exact ⟨q, ⟨clause, hclause, hq⟩, hl⟩
  rw [literals, List.mem_append, List.mem_append, htarget, hfilter, Clause.mem_literalsOfAll, or_assoc]

/-- The literals of a condition are those of its clauses. -/
theorem mem_literals_iff {target : Option Literal} {l : Literal} :
    l ∈ c.literals target ↔ ∃ clause ∈ c, l ∈ Condition.literals [clause] target := by
  simp only [mem_literals, mentionsTarget_iff, List.mem_singleton, exists_eq_left, and_or_left, exists_or]
  refine or_congr_left ?_
  constructor
  · rintro ⟨⟨clause, hclause, hmentions⟩, htarget⟩
    exact ⟨clause, hclause, hmentions, htarget⟩
  · rintro ⟨clause, hclause, hmentions, htarget⟩
    exact ⟨⟨clause, hclause, hmentions⟩, htarget⟩

/-- A condition about a literal has a text if its names can be written and its literals have one. -/
theorem exists_forLiteral {target : Literal} (hnamed : Clause.nameFault?.ofAll c = none)
    (htarget : target.Renders d) (h : ∀ l ∈ c.literals none, l.Renders d) :
    ∃ sql, c.forLiteral d target = .ok sql := by
  cases hmentions : c.mentionsTarget with
  | true =>
    obtain ⟨text, htext⟩ := htarget
    obtain ⟨sql, hsql⟩ := (exists_render_iff text).mpr h
    exact ⟨sql, by simp [forLiteral, hnamed, hmentions, htext, hsql, Except.mapError]⟩
  | false =>
    obtain ⟨sql, hsql⟩ := (exists_render_iff "").mpr h
    exact ⟨sql, by simp [forLiteral, hnamed, hmentions, hsql, Except.mapError]⟩

/-- Where a condition has a text about a column, so has each of its clauses. -/
theorem exists_forColumn_clause {columnRef : Data} {sql : String} (h : c.forColumn d columnRef = .ok sql)
    {clause : Clause} (hclause : clause ∈ c) : ∃ sql', Condition.forColumn d columnRef [clause] = .ok sql' := by
  obtain ⟨href, hnamed, htext⟩ := forColumn_eq_ok_iff.mp h
  have hliterals := (exists_render_iff _).mp ⟨sql, htext⟩
  obtain ⟨text, htext'⟩ := (exists_render_iff (Sql.verbatim d columnRef.plain)).mpr
    fun l hl => hliterals l (mem_literals_iff.mpr ⟨clause, hclause, hl⟩)
  have href' : Condition.mentionsTarget [clause] = true → Sql.refFault? d columnRef = none := by
    intro hmentions
    exact href (mentionsTarget_iff.mpr ⟨clause, hclause, by simpa [mentionsTarget] using hmentions⟩)
  have hnamed' : Clause.nameFault?.ofAll [clause] = none := by
    refine Clause.nameFault_ofAll_eq_none_iff.mpr ?_
    intro other hother
    obtain rfl := List.mem_singleton.mp hother
    exact Clause.nameFault_ofAll_eq_none_iff.mp hnamed _ hclause
  exact ⟨text, forColumn_eq_ok_iff.mpr ⟨href', hnamed', htext'⟩⟩

end Condition

end RowGuard
