import RowGuard.Condition.Meaning
import RowGuard.Proofs.Condition.Writing
import RowGuard.Proofs.Sql.Quotation

/-!
# Quotation in conditions

A clause is written with literals for the subject and the roles. Where the queries of its facts are closed
(`Clause.Legible`), a reader of literals finds in its text the literals of each query and then the subject and the
roles, and the text between them does not depend on the subject (`Condition.exists_forColumn`).
-/

namespace RowGuard

open Outcome Sql

/-! ## The literals of a clause -/

namespace Subquery

/-- The names of the query's columns have no quote, and each literal of its text ends. -/
structure IsClosed (q : Subquery) : Prop where
  query : q.query.IsClosed
  names : ∀ i, QuoteFree (q.nameAt i).plain

/-- The query's role column, the second one, holds texts. -/
def HasTextRoles (q : Subquery) : Prop := ∀ t, q.typeAt 1 = some t → t.sort = .texts

theorem IsClosed.columnRef {q : Subquery} (h : q.IsClosed) {tableAlias : String} (halias : QuoteFree tableAlias)
    (i : Nat) : QuoteFree (q.columnRef .sqlite tableAlias i) :=
  (halias.append (by decide)).append (.name _ (h.names i))

end Subquery

/-- Text that stands in a statement of SQLite as it is loses nothing. -/
theorem Sql.verbatim_sqlite (text : String) : Sql.verbatim .sqlite text = text := by
  simp [Sql.verbatim, escapePercent, Dialect.doublesPercent]

/-- The literal of a text is the text in quotes, if its type is one of texts or none at all. -/
theorem Literal.render_text {d : Dialect} {type : Option ColumnType} (h : ∀ t, type = some t → t.sort = .texts)
    (s : String) : Literal.render d ⟨.text s, type⟩ = .ok (textLiteral d s) := by
  cases type with
  | none => rfl
  | some t => cases t <;> first | rfl | exact absurd (h _ rfl) (by decide)

theorem quoteFree_anonymous (before : List FactQuery) : QuoteFree (anonymous before) :=
  .append (by decide) (.toString_nat _)

namespace Clause

/-- The clause asked for another subject. -/
def withSubject (l : Literal) : Clause → Clause
  | role fact _ roles => role fact l roles
  | globalRole fact _ roles => globalRole fact l roles
  | related fact inner => related fact (withSubjectAll inner)
  | hasAttribute fact => hasAttribute fact
where
  /-- The clauses asked for another subject. -/
  withSubjectAll : List Clause → List Clause
  | [] => []
  | c :: rest => withSubject l c :: withSubjectAll rest

/-- The texts of the literals that a clause about a subject is written with: those of the fact query, then the
subject and the roles. -/
def quoted (subject : String) : Clause → List String
  | role fact _ roles | globalRole fact _ roles => fact.query.quoted ++ subject :: roles
  | related fact inner => fact.query.quoted ++ quotedAll inner
  | hasAttribute fact => fact.query.quoted
where
  /-- Those of several clauses. -/
  quotedAll : List Clause → List String
  | [] => []
  | c :: rest => quoted subject c ++ quotedAll rest

/-- The clause's queries are closed, its role columns hold texts and its roles are in order. -/
inductive Legible : Clause → Prop
  | role {fact subject roles} (hfact : fact.IsClosed) (htexts : fact.HasTextRoles)
      (hroles : roles.Pairwise (· ≤ ·)) : Legible (.role fact subject roles)
  | globalRole {fact subject roles} (hfact : fact.IsClosed) (htexts : fact.HasTextRoles)
      (hroles : roles.Pairwise (· ≤ ·)) : Legible (.globalRole fact subject roles)
  | related {fact inner} (hfact : fact.IsClosed) (hinner : ∀ c ∈ inner, Legible c) : Legible (.related fact inner)
  | hasAttribute {fact} (hfact : fact.IsClosed) : Legible (.hasAttribute fact)

theorem isExists_withSubject (l : Literal) (c : Clause) : (c.withSubject l).isExists = c.isExists := by
  cases c <;> rfl

theorem mentionsTarget_withSubject (l : Literal) (c : Clause) :
    (c.withSubject l).mentionsTarget = c.mentionsTarget := by
  cases c <;> rfl

theorem any_mentionsTarget_withSubjectAll (l : Literal) (cs : List Clause) :
    (withSubject.withSubjectAll l cs).any mentionsTarget = cs.any mentionsTarget := by
  induction cs with
  | nil => rfl
  | cons c rest ih => simp [withSubject.withSubjectAll, ih, mentionsTarget_withSubject]

mutual

theorem nameFault?_withSubject (l : Literal) : ∀ c : Clause, nameFault? (c.withSubject l) = nameFault? c
  | .role _ _ _ => rfl
  | .globalRole _ _ _ => rfl
  | .hasAttribute _ => rfl
  | .related fact inner => by
    simp only [withSubject, nameFault?, any_mentionsTarget_withSubjectAll, nameFault?_withSubjectAll l inner]

theorem nameFault?_withSubjectAll (l : Literal) :
    ∀ cs : List Clause, nameFault?.ofAll (withSubject.withSubjectAll l cs) = nameFault?.ofAll cs
  | [] => rfl
  | c :: rest => by
    simp only [withSubject.withSubjectAll, nameFault?.ofAll, nameFault?_withSubject l c,
      nameFault?_withSubjectAll l rest]

end

theorem length_withSubjectAll (l : Literal) (cs : List Clause) :
    (withSubject.withSubjectAll l cs).length = cs.length := by
  induction cs with
  | nil => rfl
  | cons c rest ih => simp [withSubject.withSubjectAll, ih]

end Clause

/-! ## The text of a clause -/

section Text

variable {type : Option ColumnType} {target tableAlias : String} {before after : List FactQuery}

/-- A query as a derived table, with text before and behind it. -/
theorem Sql.Alike.derivedTable {ι : Type} {head query : String} {tail : ι → String} {own others : ι → List String}
    (hquery : Alike (fun _ => query) own) (hhead : QuoteFree head) (halias : QuoteFree tableAlias)
    (htail : Alike tail others) :
    Alike (fun i => head ++ query ++ ") AS " ++ tableAlias ++ tail i) fun i => own i ++ others i := by
  have hbehind := htail.after (QuoteFree.append (s := ") AS ") (by decide) halias)
  have hall := (hquery.append hbehind (by simp)).after hhead
  simpa only [String.append_assoc] using hall

/-- Texts go on the same when a closing parenthesis follows. -/
theorem Sql.Alike.closing {ι : Type} {s : ι → String} {literals : ι → List String} (h : Alike s literals) :
    Alike (fun i => s i ++ ")") literals := by
  simpa using h.append (.of_quoteFree (u := ")") (by decide)) (by simp)

/-- The test of an actor says the subject and the roles, and is otherwise the same for every subject. -/
theorem exists_renderActorTest {fact : Subquery} {roles : List String} (hfact : fact.IsClosed)
    (htexts : fact.HasTextRoles) (halias : QuoteFree tableAlias) (htype : ∀ t, type = some t → t.sort = .texts) :
    ∃ text : String → String,
      (∀ name, renderActorTest .sqlite tableAlias fact ⟨.text name, type⟩ roles = .ok (text name)) ∧
        Alike text fun name => name :: roles := by
  have hroles : (Clause.roleLiterals fact roles).mapM (Literal.render .sqlite) =
      .ok (roles.map (textLiteral .sqlite)) := by
    refine mapM_eq_ok_iff.mpr ?_
    rw [Clause.roleLiterals, List.forall₂_map_left_iff, List.forall₂_map_right_iff, List.forall₂_same]
    intro r _
    rw [Subquery.comparedTypeAt_text htexts]
    exact Literal.render_text htexts r
  have hlisted : Alike (fun _ : String => ", ".intercalate (roles.map (textLiteral .sqlite))) fun _ => roles := by
    clear hroles
    induction roles with
    | nil => exact .of_quoteFree (u := "") (by decide)
    | cons r rest ih =>
      exact (Alike.textLiteral fun _ => r).intercalate_cons ih (fun _ => rfl) (by decide) (by decide)
  have hmiddle : QuoteFree (" AND " ++ fact.columnRef .sqlite tableAlias 1 ++ " IN (") :=
    (QuoteFree.append (by decide) (hfact.columnRef halias 1)).append (by decide)
  have hfirst : QuoteFree (fact.columnRef .sqlite tableAlias 0 ++ " = ") :=
    (hfact.columnRef halias 0).append (by decide)
  have htext := ((Alike.textLiteral fun name => name).append (hlisted.closing.after hmiddle) (by simp)).after hfirst
  refine ⟨_, ?_, htext⟩
  intro name
  rw [renderActorTest, Literal.render_text htype, ok_bind, hroles, ok_bind]
  simp only [String.append_assoc]
  rfl

/-- The clause has a text for every subject as soon as it has one, and its texts differ in the subject only. -/
def Clause.IsUniform (type : Option ColumnType) (c : Clause) : Prop :=
  ∀ target before text after, QuoteFree target → c.render .sqlite target before = .ok (text, after) →
    ∃ texts : String → String,
      (∀ name, (c.withSubject ⟨.text name, type⟩).render .sqlite target before = .ok (texts name, after)) ∧
        Alike texts fun name => c.quoted name

theorem exists_renderEach {cs : List Clause} {texts : List String} {several : Bool} (htarget : QuoteFree target)
    (hcs : ∀ c ∈ cs, c.IsUniform type) (h : renderEach .sqlite target several before cs = .ok (texts, after)) :
    ∃ all : String → List String,
      (∀ name, renderEach .sqlite target several before
          (Clause.withSubject.withSubjectAll ⟨.text name, type⟩ cs) = .ok (all name, after)) ∧
        (∀ name, (all name).isEmpty = cs.isEmpty) ∧
        Alike (fun name => " OR ".intercalate (all name)) fun name => Clause.quoted.quotedAll name cs := by
  induction cs generalizing before texts with
  | nil =>
    obtain ⟨rfl, rfl⟩ : [] = texts ∧ before = after := by simpa [renderEach] using h
    exact ⟨fun _ => [], fun _ => rfl, fun _ => rfl, .of_quoteFree (u := "") (by decide)⟩
  | cons c rest ih =>
    rw [renderEach] at h
    obtain ⟨⟨text, middle⟩, hfirst, h⟩ := bind_eq_ok_iff.mp h
    obtain ⟨⟨others, last⟩, hrest, h⟩ := bind_eq_ok_iff.mp h
    obtain ⟨rfl, rfl⟩ : _ = texts ∧ last = after := by simpa using h
    obtain ⟨one, hone, halike⟩ := hcs c List.mem_cons_self target before text middle htarget hfirst
    obtain ⟨many, hmany, hempty, halikes⟩ := ih (fun c' hc' => hcs c' (List.mem_cons_of_mem _ hc')) hrest
    have henclosed : Alike (fun name => if several && c.isExists then "(" ++ one name ++ ")" else one name)
        fun name => c.quoted name := by
      split
      · simpa only [String.append_assoc] using halike.closing.after (u := "(") (by decide)
      · exact halike
    refine ⟨_, ?_, fun _ => rfl, henclosed.intercalate_cons halikes hempty (by decide) (by decide)⟩
    intro name
    rw [Clause.withSubject.withSubjectAll, renderEach, hone, ok_bind]
    simp only [hmany, ok_bind, Clause.isExists_withSubject]
    rfl

theorem alike_joinAlternatives {cs : List Clause} {all : String → List String} {literals : String → List String}
    (hempty : ∀ name, (all name).isEmpty = cs.isEmpty)
    (h : Alike (fun name => " OR ".intercalate (all name)) literals) :
    Alike (fun name => joinAlternatives .sqlite (all name)) literals := by
  cases cs with
  | cons c rest => simpa [joinAlternatives, hempty] using h
  | nil =>
    have hnil : ∀ name, all name = [] := fun name => List.isEmpty_iff.mp (hempty name)
    have hliterals : literals = fun _ => [] := by
      funext name
      rw [← h.quoted_eq name, hnil name]
      simp [quoted, pieces]
    rw [hliterals]
    simpa [joinAlternatives, hnil] using Alike.of_quoteFree (u := boolLiteral .sqlite false) (by decide)

/-- Clauses that are well quoted differ from subject to subject in the subject only. -/
theorem Clause.Legible.isUniform {c : Clause} (h : c.Legible) (htype : ∀ t, type = some t → t.sort = .texts) :
    c.IsUniform type := by
  induction h with
  | @role fact subject roles hfact htexts hsorted =>
    rintro target before text after htarget hrender
    rw [Clause.render] at hrender
    obtain ⟨query, hquery, hrender⟩ := bind_eq_ok_iff.mp hrender
    obtain ⟨_, _, hrender⟩ := bind_eq_ok_iff.mp hrender
    obtain rfl := (Prod.mk.inj (Except.ok.inj hrender)).2
    have halias := quoteFree_anonymous before
    obtain ⟨test, htest, halike⟩ := exists_renderActorTest hfact htexts halias htype
    have hhead : QuoteFree (target ++ " IN (SELECT " ++ fact.columnRef .sqlite (anonymous before) 2 ++ " \nFROM (") :=
      ((htarget.append (by decide)).append (hfact.columnRef halias 2)).append (by decide)
    refine ⟨_, ?_, (FactQuery.alike_render hfact.query hquery).derivedTable hhead halias
      (halike.closing.after (u := " \nWHERE ") (by decide))⟩
    intro name
    rw [withSubject, Clause.render, hquery, ok_bind, htest, ok_bind]
    simp only [String.append_assoc]
    rfl
  | @globalRole fact subject roles hfact htexts hsorted =>
    rintro target before text after htarget hrender
    rw [Clause.render] at hrender
    obtain ⟨query, hquery, hrender⟩ := bind_eq_ok_iff.mp hrender
    obtain ⟨_, _, hrender⟩ := bind_eq_ok_iff.mp hrender
    obtain rfl := (Prod.mk.inj (Except.ok.inj hrender)).2
    have halias := quoteFree_anonymous before
    obtain ⟨test, htest, halike⟩ := exists_renderActorTest hfact htexts halias htype
    refine ⟨_, ?_, (FactQuery.alike_render hfact.query hquery).derivedTable
      (show QuoteFree "EXISTS (SELECT 1 \nFROM (" by decide) halias
      (halike.closing.after (u := " \nWHERE ") (by decide))⟩
    intro name
    rw [withSubject, Clause.render, hquery, ok_bind, htest, ok_bind]
    simp only [String.append_assoc]
    rfl
  | @related fact inner hfact hinner ih =>
    rintro target before text after htarget hrender
    rw [Clause.render] at hrender
    obtain ⟨query, hquery, hrender⟩ := bind_eq_ok_iff.mp hrender
    obtain ⟨⟨texts, last⟩, hinside, hrender⟩ := bind_eq_ok_iff.mp hrender
    obtain rfl := (Prod.mk.inj (Except.ok.inj hrender)).2
    have halias := quoteFree_anonymous before
    obtain ⟨all, hall, hempty, halike⟩ := exists_renderEach (hfact.columnRef halias 1) ih hinside
    have hhead : QuoteFree (target ++ " IN (SELECT " ++ fact.columnRef .sqlite (anonymous before) 0 ++ " \nFROM (") :=
      ((htarget.append (by decide)).append (hfact.columnRef halias 0)).append (by decide)
    refine ⟨_, ?_, (FactQuery.alike_render hfact.query hquery).derivedTable hhead halias
      ((alike_joinAlternatives hempty halike).closing.after (u := " \nWHERE ") (by decide))⟩
    intro name
    rw [withSubject, Clause.render, hquery, ok_bind]
    simp only [length_withSubjectAll, hall, ok_bind, String.append_assoc]
    rfl
  | @hasAttribute fact hfact =>
    rintro target before text after htarget hrender
    rw [Clause.render] at hrender
    obtain ⟨query, hquery, hrender⟩ := bind_eq_ok_iff.mp hrender
    obtain rfl := (Prod.mk.inj (Except.ok.inj hrender)).2
    have halias := quoteFree_anonymous before
    have hhead : QuoteFree (target ++ " IN (SELECT " ++ fact.columnRef .sqlite (anonymous before) 0 ++ " \nFROM (") :=
      ((htarget.append (by decide)).append (hfact.columnRef halias 0)).append (by decide)
    have hclosing : Alike (fun _ : String => ")") fun _ => [] := .of_quoteFree (by decide)
    have htexts := (FactQuery.alike_render hfact.query hquery).derivedTable hhead halias hclosing
    refine ⟨_, ?_, by simpa only [quoted, List.append_nil] using htexts⟩
    intro name
    rw [withSubject, Clause.render, hquery, ok_bind]
    rfl

/-- A condition of such clauses has a text for every subject as soon as it has one. -/
theorem Condition.exists_forColumn {c : Condition} {columnRef : Data} {sql : String}
    (hlegible : ∀ clause ∈ c, clause.Legible) (htype : ∀ t, type = some t → t.sort = .texts)
    (href : QuoteFree columnRef.plain) (h : c.forColumn .sqlite columnRef = .ok sql) :
    ∃ texts : String → String,
      (∀ name, Condition.forColumn .sqlite columnRef
        (Clause.withSubject.withSubjectAll ⟨.text name, type⟩ c) = .ok (texts name)) ∧
        Alike texts fun name => Clause.quoted.quotedAll name c := by
  obtain ⟨hwritable, hnamed, hrender⟩ := forColumn_eq_ok_iff.mp h
  obtain ⟨⟨texts, last⟩, heach, _⟩ := bind_eq_ok_iff.mp hrender
  rw [Sql.verbatim_sqlite] at heach
  obtain ⟨all, hall, hempty, halike⟩ :=
    exists_renderEach href (fun clause hclause => (hlegible clause hclause).isUniform htype) heach
  refine ⟨_, ?_, alike_joinAlternatives hempty halike⟩
  intro name
  have hmentions : Condition.mentionsTarget (Clause.withSubject.withSubjectAll ⟨.text name, type⟩ c) =
      c.mentionsTarget := Clause.any_mentionsTarget_withSubjectAll _ c
  refine forColumn_eq_ok_iff.mpr ⟨hmentions ▸ hwritable, (Clause.nameFault?_withSubjectAll ..).trans hnamed, ?_⟩
  simp only [Condition.render, Sql.verbatim_sqlite, Clause.length_withSubjectAll, hall, ok_bind]
  rfl

end Text

end RowGuard
