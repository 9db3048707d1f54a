import RowGuard.Proofs.Condition.Likeness
import RowGuard.Proofs.Evaluator.Queries

/-!
# Decisions and the rows of facts

Two fact books that define the same facts by queries with the same rows (`FactBook.AnswersAlike`) compile to
conditions that are tested with the same outcome, so a point check comes to the same with both
(`LocalEvaluator.answer_of_alike`). A row counts once wherever it comes, and a column by its place.
-/

namespace RowGuard

open Outcome

/-- The second book gives identities the same types as the first one, and defines every fact that the first one
defines by a query with the same rows. -/
structure FactBook.AnswersAlike (db : Database) (facts facts' : FactBook) : Prop where
  idType : ∀ entity, facts'.idType entity = facts.idType entity
  role : ∀ {actor type fact}, facts.role actor type = .ok fact →
    ∃ fact', facts'.role actor type = .ok fact' ∧ fact.AnswersAlike db fact'
  globalRole : ∀ {actor fact}, facts.globalRole actor = .ok fact →
    ∃ fact', facts'.globalRole actor = .ok fact' ∧ fact.AnswersAlike db fact'
  relation : ∀ {type relation other fact}, facts.relation type relation other = .ok fact →
    ∃ fact', facts'.relation type relation other = .ok fact' ∧ fact.AnswersAlike db fact'
  attr : ∀ {name type fact}, facts.attr name type = .ok fact →
    ∃ fact', facts'.attr name type = .ok fact' ∧ fact.AnswersAlike db fact'

/-- The query stands in a statement as it is asked: no null character ends the statement in it, and what its filter
compares with can be read. -/
structure FactQuery.Inlines (q : FactQuery) : Prop where
  unbroken : q.Unbroken
  readable : ∀ s column type value, q = .selection s → s.filter = some (.equals column type value) →
    Literal.isReadable ⟨value, type⟩ = true

/-- The queries of the book stand in statements as they are asked. -/
def FactBook.Inlines (facts : FactBook) : Prop := ∀ q ∈ facts.queries, q.Inlines

theorem FactQuery.Inlines.toSubquery_unbroken {q : FactQuery} (h : q.Inlines) (types : List (Option ColumnType)) :
    (q.toSubquery types).Unbroken := by
  cases q with
  | selection s =>
    refine ⟨h.unbroken, ?_⟩
    intro c hc
    obtain ⟨column, hcolumn, rfl⟩ := List.mem_map.mp hc
    exact h.unbroken.columns column hcolumn
  | sql text columns =>
    refine ⟨h.unbroken, ?_⟩
    intro c hc
    obtain ⟨⟨name, i⟩, hname, rfl⟩ := List.mem_map.mp hc
    exact h.unbroken.2 name (List.fst_mem_of_mem_zipIdx hname)

theorem FactQuery.Inlines.toSubquery_readable {q : FactQuery} (h : q.Inlines) (types : List (Option ColumnType)) :
    ∀ l, Condition.filterLiteral? (q.toSubquery types) = some l → l.isReadable = true := by
  intro l hl
  unfold Condition.filterLiteral? at hl
  split at hl
  case h_2 => cases hl
  case h_1 table columns column type value distinct hquery =>
    split at hl
    case isTrue => cases hl
    case isFalse =>
      obtain rfl := Option.some.inj hl
      have hselection : q = .selection ⟨table, columns, some (.equals column type value), distinct⟩ := by
        cases q <;> exact hquery
      exact h.readable _ column type value hselection rfl

namespace Policy

variable {ν : Type} {p : Policy ν} {facts facts' : FactBook} {db : Database}

/-- The clauses that are made of queries with the same rows match. -/
theorem transfers_of_alike (h : facts.AnswersAlike db facts') (s : Subject) :
    p.Transfers facts facts' s s (Clause.Matches (Subquery.AnswersAlike db)) := by
  have hsubject : p.subjectLiteral facts' s = p.subjectLiteral facts s := by
    rw [subjectLiteral, subjectLiteral, h.idType]
  exact {
    role := fun hfact hl => by
      obtain ⟨fact', hfact', hsame⟩ := h.role hfact
      exact ⟨fact', _, hfact', hsubject.trans hl, fun _ => .role hsame⟩
    globalRole := fun hfact hl => by
      obtain ⟨fact', hfact', hsame⟩ := h.globalRole hfact
      exact ⟨fact', _, hfact', hsubject.trans hl, fun _ => .globalRole hsame⟩
    relation := fun hfact => by
      obtain ⟨fact', hfact', hsame⟩ := h.relation hfact
      exact ⟨fact', hfact', fun hinner => .of_forall₂ hsame hinner⟩
    attr := fun hfact => by
      obtain ⟨fact', hfact', hsame⟩ := h.attr hfact
      exact ⟨fact', hfact', .hasAttribute hsame⟩ }

end Policy

namespace LocalEvaluator

variable {ν : Type} [BEq ν] [ReflBEq ν] [Name ν] {e : LocalEvaluator ν} {facts' : FactBook} {config : Config}
  {sys : System} {bind : Bind} {db : Database} {s : Subject} {action type : Data} {r : Resource} {c : Condition}

/-- The evaluator with other facts. -/
def withFacts (e : LocalEvaluator ν) (facts : FactBook) : LocalEvaluator ν := { e with facts }

theorem condition_of_alike (h : e.facts.AnswersAlike db facts') (hc : e.condition config s action type = .ok c) :
    ∃ c', (e.withFacts facts').condition config s action type = .ok c' ∧ c.AnswersAlike db c' :=
  condition_of_transfers (Policy.transfers_of_alike h s) hc

/-- A point check comes to the same with facts that have the same rows. -/
theorem answer_of_alike (h : e.facts.AnswersAlike db facts') (hsees : bind.Sees sys db)
    (hc : e.condition (e.configIn sys) s action r.type = .ok c) :
    (e.withFacts facts').answer bind sys s action r = e.answer bind sys s action r := by
  obtain ⟨c', hc', hsame⟩ := condition_of_alike h hc
  have hconfig : (e.withFacts facts').configIn sys = e.configIn sys := rfl
  have htarget : (e.withFacts facts').target r = e.target r := congrArg (Literal.mk r.id) (h.idType r.type)
  have hreached : ∀ outcome : Except Fault Bool,
      (e.withFacts facts').reached bind "policy check" .checkWithoutConnection outcome =
        e.reached bind "policy check" .checkWithoutConnection outcome := fun _ => rfl
  rw [answer_eq_verdict hsees, answer_eq_verdict hsees, hconfig, hc', hc, ok_bind, ok_bind, hreached, htarget,
    verdict_congr hsame]

end LocalEvaluator

end RowGuard
