import RowGuard.Explain
import RowGuard.Proofs.Condition.Typed
import RowGuard.Proofs.Evaluator.Verdict

/-!
# Explanations and decisions

An explanation tests each way of obtaining an action by itself, a check tests all of them at once. A condition can be
tested exactly if each of its clauses can (`LocalEvaluator.testable_ofWays_iff`), and holds exactly if one of them
does, so the two agree (`LocalEvaluator.explanations_agree`): they refuse the same requests in the same way, an
explanation answers exactly where a check does, and then says what the check says. An explanation also writes each way
down, which a check does not, so that for this the fact queries have to compare with values that have a text, as
comparisons with a column do. A fact query whose author gives the value another type can be answered without being
explained (`Gallery.answered_unexplained`).
-/

namespace RowGuard

open Outcome

/-- The literals of a compiled clause are the subject and names of roles. -/
theorem FactBook.Makes.mem_literals {facts : FactBook} {p : Policy} {s : Subject} {c : Clause} (h : facts.Makes p s c) :
    ∀ l ∈ c.literals, l = facts.actorLiteral p s ∨ ∃ q r, l = ⟨.text r, Subquery.comparedTypeAt q 1 (.text r)⟩ := by
  have hroles : ∀ {fact : Subquery} {roles : List String} {l : Literal},
      l ∈ facts.actorLiteral p s :: Clause.roleLiterals fact roles →
        l = facts.actorLiteral p s ∨ ∃ q r, l = ⟨.text r, Subquery.comparedTypeAt q 1 (.text r)⟩ := by
    intro fact roles l hl
    refine (List.mem_cons.mp hl).imp_right fun hl => ?_
    obtain ⟨r, _, rfl⟩ := List.mem_map.mp hl
    exact ⟨fact, r, rfl⟩
  induction h with
  | role => exact fun l hl => hroles hl
  | globalRole => exact fun l hl => hroles hl
  | related _ _ ih =>
    intro l hl
    obtain ⟨c, hc, hl⟩ := Clause.mem_literalsOfAll.mp hl
    exact ih c hc l hl
  | hasAttribute => exact fun l hl => absurd hl List.not_mem_nil

/-- The name of a role has a text where it can be bound. -/
theorem Subquery.renders_compared {q : Subquery} {i : Nat} {r : String} {d : Dialect}
    (h : Literal.Binds ⟨.text r, q.comparedTypeAt i (.text r)⟩) :
    Literal.Renders d ⟨.text r, q.comparedTypeAt i (.text r)⟩ := by
  unfold comparedTypeAt at *
  cases htype : q.typeAt i with
  | none => exact ⟨_, rfl⟩
  | some column =>
    have hbind := h.bind
    rw [htype] at hbind
    exact Sql.exists_literal_of_bind rfl hbind d

/-- What a filter compares with has a text where it can be bound. -/
theorem Subquery.renders_of_compares {q : Subquery} (h : q.query.Compares) {l : Literal}
    (hl : Condition.filterLiteral? q = some l) (hbinds : l.Binds) (d : Dialect) : l.Renders d := by
  obtain ⟨query, columns⟩ := q
  cases query with
  | sql text names => cases hl
  | selection s =>
    obtain ⟨table, selected, filter, distinct⟩ := s
    cases filter with
    | none => cases hl
    | some f =>
      cases f with
      | isTrue column => cases hl
      | equals column type value =>
        unfold Condition.filterLiteral? at hl
        dsimp only at hl
        split at hl
        case isTrue => cases hl
        case isFalse hnull =>
          obtain rfl := Option.some.inj hl
          obtain hvalue | ⟨own, column, hown, rfl⟩ := h _ rfl
          · exact absurd hvalue hnull
          · exact Sql.exists_literal_of_bind hown hbinds.bind d

namespace LocalEvaluator

/-! ## Testing way by way -/

section Ways

variable {ways : List Way} {c : Condition} {target : Literal} {db : Database}

theorem testable_iff : Testable c target db ↔
    (∀ clause ∈ c, Clause.nameFault? clause = none) ∧
      (∀ clause ∈ c, ∀ q ∈ clause.facts, q.query.hasParameters = false ∧ (q.rows? db).toBool = true) ∧
        ∀ l ∈ c.literals (some target), l.Binds := by
  constructor
  · intro h
    refine ⟨Clause.nameFault_ofAll_eq_none_iff.mp h.named, ?_, ?_⟩
    · intro clause hclause q hq
      have hmem := Clause.mem_factsOfAll.mpr ⟨clause, hclause, hq⟩
      have hparameters := List.any_eq_false.mp h.parameterless q hmem
      exact ⟨by simpa using hparameters, List.all_eq_true.mp h.runs q hmem⟩
    · intro l hl
      have hbind := List.findSome?_eq_none_iff.mp h.binds l hl
      refine ⟨?_, List.all_eq_true.mp h.fits l hl⟩
      unfold Literal.bound
      cases hvalue : Value.bind l.type l.value with
      | ok v => rfl
      | error e => simp [hvalue] at hbind
  · rintro ⟨hnamed, hqueries, hbinds⟩
    exact {
      named := Clause.nameFault_ofAll_eq_none_iff.mpr hnamed
      parameterless := by
        rw [Condition.hasParameters, List.any_eq_false]
        intro q hq
        obtain ⟨clause, hclause, hq⟩ := Clause.mem_factsOfAll.mp hq
        simp [(hqueries clause hclause q hq).1]
      binds := Condition.bindFault?_eq_none hbinds
      runs := by
        refine List.all_eq_true.mpr fun q hq => ?_
        obtain ⟨clause, hclause, hq⟩ := Clause.mem_factsOfAll.mp hq
        exact (hqueries clause hclause q hq).2
      fits := Condition.allFit_of_binds hbinds }

/-- A condition can be tested exactly if each of its clauses can. -/
theorem testable_iff_forall : Testable c target db ↔ ∀ clause ∈ c, Testable [clause] target db := by
  simp only [testable_iff, List.mem_singleton, forall_eq]
  constructor
  · rintro ⟨hnamed, hqueries, hbinds⟩ clause hclause
    exact ⟨hnamed clause hclause, hqueries clause hclause,
      fun l hl => hbinds l (Condition.mem_literals_iff.mpr ⟨clause, hclause, hl⟩)⟩
  · intro h
    refine ⟨fun clause hclause => (h clause hclause).1, fun clause hclause => (h clause hclause).2.1, ?_⟩
    intro l hl
    obtain ⟨clause, hclause, hl⟩ := Condition.mem_literals_iff.mp hl
    exact (h clause hclause).2.2 l hl

theorem testable_ofWays_iff :
    Testable (Condition.ofWays ways) target db ↔ ∀ w ∈ ways, Testable w.condition target db := by
  rw [testable_iff_forall, Condition.ofWays, List.forall_mem_map]
  rfl

/-- A condition holds exactly if one of its clauses does. -/
theorem holds_ofWays_eq_any {value : Literal → Value} {x : Operand} :
    Condition.holds db value x (Condition.ofWays ways) = ways.any fun w => w.condition.holds db value x := by
  simp [Condition.holds_eq_any, Condition.ofWays, Way.condition, List.any_map, Function.comp_def]

end Ways

variable {e : LocalEvaluator} {config : Config} {sys : System} {bind : Bind} {db : Database} {s : Subject}
  {action type columnRef : Data} {r : Resource} {c : Condition} {ways : List Way}

/-- A condition is made of the ways that an explanation lists. -/
theorem waysOf_of_condition (hc : e.condition config s action type = .ok c) :
    ∃ ways, e.waysOf s action type = .ok ways ∧ c = Condition.ofWays ways := by
  unfold condition at hc
  unfold waysOf
  obtain ⟨declared, hdeclared, hc⟩ := bind_eq_ok_iff.mp hc
  rw [hdeclared, ok_bind]
  cases declared with
  | some declared =>
    obtain ⟨ways, hways, hc⟩ := bind_eq_ok_iff.mp hc
    exact ⟨ways, hways, (Except.ok.inj hc).symm⟩
  | none =>
    refine ⟨[], rfl, ?_⟩
    dsimp only at hc
    split at hc
    case h_1 => exact (Except.ok.inj hc).symm
    case h_2 => cases hc

/-- The ways ask queries of the book, for the subject and for roles. -/
theorem makes_of_waysOf (hways : e.waysOf s action type = .ok ways) :
    ∀ w ∈ ways, e.facts.Makes e.policy s w.clause := by
  unfold waysOf at hways
  obtain ⟨declared, _, hways⟩ := bind_eq_ok_iff.mp hways
  split at hways
  case h_1 a t =>
    obtain ⟨_, _, hways⟩ := bind_eq_ok_iff.mp hways
    exact Policy.makes_of_waysTo hways
  case h_2 =>
    obtain rfl := Except.ok.inj hways
    simp

/-! ## Texts of the ways -/

/-- Every way has a text wherever it can be tested, if the subject and the identity are values of their types. -/
theorem exists_forLiteral_of_testable {target : Literal} (hways : e.waysOf s action type = .ok ways)
    (hc : e.condition config s action type = .ok (Condition.ofWays ways))
    (hqueries : ∀ q ∈ e.facts.queries, q.Compares) (hactor : (e.facts.actorLiteral e.policy s).IsTyped)
    (htarget : target.IsTyped) {w : Way} (hw : w ∈ ways) (htest : Testable w.condition target db) :
    ∃ sql, w.condition.forLiteral e.dialect target = .ok sql := by
  refine Condition.exists_forLiteral htest.named (htarget.exists_render e.dialect) ?_
  have hbinds := (testable_iff.mp htest).2.2
  intro l hl
  have hmem : l ∈ w.condition.literals (some target) := by
    refine Condition.mem_literals.mpr ((Condition.mem_literals.mp hl).imp_left ?_)
    rintro ⟨_, hnone⟩
    cases hnone
  rcases Condition.mem_literals.mp hl with ⟨_, hnone⟩ | ⟨clause, hclause, hl⟩ | ⟨clause, hclause, q, hq, hfilter⟩
  · cases hnone
  · obtain rfl := List.mem_singleton.mp hclause
    rcases (makes_of_waysOf hways w hw).mem_literals l hl with rfl | ⟨q, r, rfl⟩
    · exact hactor.exists_render e.dialect
    · exact Subquery.renders_compared (hbinds _ hmem)
  · obtain rfl := List.mem_singleton.mp hclause
    have hquery : q ∈ Clause.factsOfAll (Condition.ofWays ways) :=
      Clause.mem_factsOfAll.mpr ⟨_, List.mem_map_of_mem hw, hq⟩
    exact Subquery.renders_of_compares (hqueries _ (queries_of_condition hc q hquery)) hfilter (hbinds _ hmem)
      e.dialect

/-! ## Explaining access -/

/-- What the test of one way comes to on a database. -/
def wayVerdict (e : LocalEvaluator) (target : Literal) (db : Database) (w : Way) : Except Fault GrantPath := do
  let holds ← verdict w.condition target db
  let sql ← w.condition.forLiteral e.dialect target
  return { description := w.label, sql, isMatch := some holds }

theorem finds_testWay (target : Literal) (w : Way) : Sys.Finds (e.testWay target w) db (e.wayVerdict target db w) :=
  (finds_ask w.condition target db).bind fun _ => (Sys.Finds.ofExcept _).bind fun _ => .pure _

/-- The outcome of explaining access where the connection is given. -/
def explained (e : LocalEvaluator) (bind : Bind) (sys : System) (s : Subject) (action : Data) (r : Resource) :
    Except Fault AccessExplanation :=
  (e.explainAccess (decide (bind = .connection)) s action r sys).1

theorem explained_eq (hsees : bind.Sees sys db) :
    e.explained bind sys s action r = (do
      let _ ← e.condition (e.configIn sys) s action r.type
      let ways ← e.waysOf s action r.type
      let paths ← e.reached bind "explain access" .explainWithoutConnection
        (ways.mapM (e.wayVerdict (e.target r) db))
      return ⟨s, action, r, paths⟩) := by
  unfold explained explainAccess
  rw [Sys.bind_of_ok (Sys.configOr_apply _)]
  rw [← configIn]
  cases hcondition : e.condition (e.configIn sys) s action r.type with
  | error f => rfl
  | ok c =>
    rw [Sys.ofExcept_ok, Sys.pure_bind_apply, ok_bind]
    cases hways : e.waysOf s action r.type with
    | error f => rfl
    | ok ways =>
      rw [Sys.ofExcept_ok, Sys.pure_bind_apply, ok_bind]
      have htests : Sys.Finds (ways.mapM (e.testWay (e.target r))) db (ways.mapM (e.wayVerdict (e.target r) db)) :=
        .mapM (fun w => finds_testWay (e.target r) w) ways
      refine (reached_apply hsees htests _ _ fun paths sys => rfl).trans ?_
      cases e.reached bind "explain access" .explainWithoutConnection (ways.mapM (e.wayVerdict (e.target r) db)) <;> rfl

/-- An explanation of access is given exactly if each way can be tested and has a text, and then says of each way in
turn whether it holds. -/
theorem explained_eq_ok_iff {x : AccessExplanation} (hsees : bind.Sees sys db)
    (hc : e.condition (e.configIn sys) s action r.type = .ok c) (hways : e.waysOf s action r.type = .ok ways) :
    e.explained bind sys s action r = .ok x ↔
      (bind = .connection ∨ e.hasEngine = true) ∧ ∃ paths, x = ⟨s, action, r, paths⟩ ∧
        List.Forall₂ (fun w path => e.wayVerdict (e.target r) db w = .ok path) ways paths := by
  rw [explained_eq hsees, hc, ok_bind, hways, ok_bind]
  simp only [bind_eq_ok_iff, reached_eq_ok_iff, mapM_eq_ok_iff, pure_eq_ok, Except.ok.injEq]
  constructor
  · rintro ⟨paths, ⟨hreached, hpaths⟩, rfl⟩
    exact ⟨hreached, paths, rfl, hpaths⟩
  · rintro ⟨hreached, paths, rfl, hpaths⟩
    exact ⟨paths, ⟨hreached, hpaths⟩, rfl⟩

theorem wayVerdict_eq_ok_iff {target : Literal} {w : Way} {path : GrantPath} :
    e.wayVerdict target db w = .ok path ↔
      Testable w.condition target db ∧ ∃ sql, w.condition.forLiteral e.dialect target = .ok sql ∧
        path = ⟨w.label, sql, some (w.condition.holds db Literal.bound (.bare target.bound))⟩ := by
  unfold wayVerdict
  simp only [bind_eq_ok_iff, verdict_eq_ok_iff, pure_eq_ok, Except.ok.injEq]
  constructor
  · rintro ⟨b, ⟨htest, rfl⟩, sql, hsql, rfl⟩
    exact ⟨htest, sql, hsql, rfl⟩
  · rintro ⟨htest, sql, hsql, rfl⟩
    exact ⟨_, ⟨htest, rfl⟩, sql, hsql, rfl⟩

/-- What an explanation of access says of the ways: their labels in order, and of each whether it holds. -/
structure Tells (x : AccessExplanation) (ways : List Way) (holds : Way → Bool) : Prop where
  labels : x.paths.map (·.description) = ways.map (·.label)
  tested : x.paths.map (·.isMatch) = ways.map fun w => some (holds w)

theorem Tells.allowed_eq {x : AccessExplanation} {holds : Way → Bool} (h : Tells x ways holds) :
    x.allowed = ways.any holds := by
  have hpaths : x.allowed = (x.paths.map (·.isMatch)).any (· == some true) := by
    rw [List.any_map]
    rfl
  rw [hpaths, h.tested, List.any_map]
  congr 1
  funext w
  cases hw : holds w <;> simp [hw]

theorem Tells.deniesByDefault_iff {x : AccessExplanation} {holds : Way → Bool} (h : Tells x ways holds) :
    x.deniesByDefault = true ↔ Condition.ofWays ways = [] := by
  have hlength := congrArg List.length h.labels
  simp only [List.length_map] at hlength
  simp [AccessExplanation.deniesByDefault, Condition.ofWays, ← List.length_eq_zero_iff, hlength]

theorem tells_of_explained {x : AccessExplanation} (hsees : bind.Sees sys db)
    (hc : e.condition (e.configIn sys) s action r.type = .ok c) (hways : e.waysOf s action r.type = .ok ways)
    (h : e.explained bind sys s action r = .ok x) :
    Tells x ways fun w => w.condition.holds db Literal.bound (.bare (e.target r).bound) := by
  obtain ⟨_, paths, rfl, hpaths⟩ := (explained_eq_ok_iff hsees hc hways).mp h
  constructor
  · refine map_eq_of_forall₂ hpaths fun w path hpath => ?_
    obtain ⟨_, _, _, rfl⟩ := wayVerdict_eq_ok_iff.mp hpath
    rfl
  · refine map_eq_of_forall₂ hpaths fun w path hpath => ?_
    obtain ⟨_, _, _, rfl⟩ := wayVerdict_eq_ok_iff.mp hpath
    rfl

/-- A check answers exactly where an explanation does, and answers whether one of the ways holds. -/
theorem answer_eq_ok_iff_explained {b : Bool} (hsees : bind.Sees sys db)
    (hqueries : ∀ q ∈ e.facts.queries, q.Compares) (hactor : (e.facts.actorLiteral e.policy s).IsTyped)
    (htarget : (e.target r).IsTyped) (hc : e.condition (e.configIn sys) s action r.type = .ok c) :
    e.answer bind sys s action r = .ok b ↔ ∃ x, e.explained bind sys s action r = .ok x ∧ x.allowed = b := by
  obtain ⟨ways, hways, rfl⟩ := waysOf_of_condition hc
  have hanswer : e.answer bind sys s action r = .ok b ↔
      (bind = .connection ∨ e.hasEngine = true) ∧ (∀ w ∈ ways, Testable w.condition (e.target r) db) ∧
        (ways.any fun w => w.condition.holds db Literal.bound (.bare (e.target r).bound)) = b := by
    rw [answer_eq_ok_iff hsees, ← testable_ofWays_iff, ← holds_ofWays_eq_any, ← verdict_eq_ok_iff]
    simp [hc]
  rw [hanswer]
  constructor
  · rintro ⟨hreached, htests, hholds⟩
    obtain ⟨paths, hpaths⟩ := exists_forall₂ (R := fun w path => e.wayVerdict (e.target r) db w = .ok path)
      fun w hw => by
        obtain ⟨sql, hsql⟩ := exists_forLiteral_of_testable hways hc hqueries hactor htarget hw (htests w hw)
        exact ⟨_, wayVerdict_eq_ok_iff.mpr ⟨htests w hw, sql, hsql, rfl⟩⟩
    have hexplained := (explained_eq_ok_iff hsees hc hways).mpr ⟨hreached, paths, rfl, hpaths⟩
    exact ⟨_, hexplained, (tells_of_explained hsees hc hways hexplained).allowed_eq.trans hholds⟩
  · rintro ⟨x, hexplained, rfl⟩
    obtain ⟨hreached, paths, _, hpaths⟩ := (explained_eq_ok_iff hsees hc hways).mp hexplained
    refine ⟨hreached, ?_, (tells_of_explained hsees hc hways hexplained).allowed_eq.symm⟩
    intro w hw
    obtain ⟨path, _, hpath⟩ := exists_of_mem_right hpaths.flip hw
    exact (wayVerdict_eq_ok_iff.mp hpath).1

/-! ## Explaining a permission -/

/-- A declared action has a derivation. -/
theorem exists_derivationOf (hways : e.waysOf s action type = .ok ways) :
    ∃ d, e.derivationOf? action type = .ok d := by
  unfold waysOf at hways
  unfold derivationOf?
  obtain ⟨declared, hdeclared, hways⟩ := bind_eq_ok_iff.mp hways
  rw [hdeclared, ok_bind]
  split
  case h_2 => exact ⟨none, rfl⟩
  case h_1 a t =>
    -- the search for ways has looked the type's block up
    obtain ⟨_, _, hways⟩ := bind_eq_ok_iff.mp hways
    have hpath : ([] : List Goal).any (Goal.mk t [a].eraseDups).same = false := rfl
    cases hblock : e.policy.block? t with
    | none => simp [Policy.waysTo_of_undeclared hpath hblock] at hways
    | some b =>
      have hnamed : e.policy.blockNamed t = .ok b := by
        simp [Policy.blockNamed, Policy.block, hblock, Name.requireKeys_string, Except.mapError]
      exact ⟨some (b.derive [a]), by rw [hnamed, ok_bind, Policy.derivation_string]; rfl⟩

theorem exists_inOrderData (names : List String) : ∃ data, inOrderData names = .ok data := by
  obtain ⟨sorted, hsorted, _⟩ := Name.exists_inOrder_string names
  exact ⟨_, by rw [inOrderData, hsorted]; rfl⟩

theorem exists_relatedData (d : Derivation String) : ∃ data, relatedData d = .ok data := by
  obtain ⟨sorted, hsorted, _⟩ := Name.exists_inOrder_string (d.related.map (·.1))
  have hrelated : Policy.relatedInOrder d = .ok (sorted.map fun rel => (rel, (d.related.lookup rel).getD [])) := by
    rw [Policy.relatedInOrder, hsorted]
    rfl
  rw [relatedData, hrelated, ok_bind]
  refine exists_mapM_eq_ok ?_
  rintro ⟨relation, roles⟩ _
  obtain ⟨data, hdata⟩ := exists_inOrderData roles
  dsimp only
  exact ⟨_, by rw [hdata]; rfl⟩

/-- A permission is explained by its ways, each with its text about the column, and by the text of its condition. -/
theorem of_explainPermission {y : PermissionExplanation}
    (h : e.explainPermission config s action type columnRef = .ok y) :
    ∃ c ways, e.condition config s action type = .ok c ∧ e.waysOf s action type = .ok ways ∧
      c.forColumn e.dialect columnRef = .ok y.conditionSql ∧ y.paths.map (·.description) = ways.map (·.label) := by
  unfold explainPermission at h
  obtain ⟨c, hc, h⟩ := bind_eq_ok_iff.mp h
  obtain ⟨d, _, h⟩ := bind_eq_ok_iff.mp h
  obtain ⟨ways, hways, h⟩ := bind_eq_ok_iff.mp h
  obtain ⟨paths, hpaths, h⟩ := bind_eq_ok_iff.mp h
  obtain ⟨_, _, h⟩ := bind_eq_ok_iff.mp h
  obtain ⟨_, _, h⟩ := bind_eq_ok_iff.mp h
  obtain ⟨_, _, h⟩ := bind_eq_ok_iff.mp h
  obtain ⟨_, _, h⟩ := bind_eq_ok_iff.mp h
  obtain ⟨sql, hsql, h⟩ := bind_eq_ok_iff.mp h
  obtain rfl := Except.ok.inj h
  refine ⟨c, ways, hc, hways, hsql, map_eq_of_forall₂ (mapM_eq_ok_iff.mp hpaths) ?_⟩
  intro w path hpath
  obtain ⟨sql, _, hpath⟩ := bind_eq_ok_iff.mp hpath
  obtain rfl := Except.ok.inj hpath
  rfl

/-- A permission can be explained wherever its condition has a text about the column. -/
theorem exists_explainPermission {sql : String} (hc : e.condition config s action type = .ok c)
    (hsql : c.forColumn e.dialect columnRef = .ok sql) :
    ∃ y, e.explainPermission config s action type columnRef = .ok y := by
  obtain ⟨ways, hways, rfl⟩ := waysOf_of_condition hc
  obtain ⟨d, hd⟩ := exists_derivationOf hways
  obtain ⟨paths, hpaths⟩ := exists_mapM_eq_ok (l := ways) (f := fun w : Way => do
      return ({ description := w.label, sql := ← w.condition.forColumn e.dialect columnRef } : GrantPath))
    fun w hw => by
      obtain ⟨text, htext⟩ := Condition.exists_forColumn_clause hsql (List.mem_map_of_mem hw)
      exact ⟨_, by rw [Way.condition, htext]; rfl⟩
  obtain ⟨related, hrelated⟩ : ∃ data, (d.map relatedData).getD (.ok []) = .ok data := by
    cases d with
    | none => exact ⟨[], rfl⟩
    | some d => exact exists_relatedData d
  obtain ⟨localRoles, hlocal⟩ := exists_inOrderData ((d.map (·.localRoles)).getD [])
  obtain ⟨globalRoles, hglobal⟩ := exists_inOrderData ((d.map (·.globalRoles)).getD [])
  obtain ⟨attributes, hattributes⟩ := exists_inOrderData ((d.map (·.attributes)).getD [])
  unfold explainPermission
  rw [hc, ok_bind, hd, ok_bind, hways, ok_bind, hpaths, ok_bind]
  dsimp only
  rw [hlocal, ok_bind, hrelated, ok_bind, hglobal, ok_bind,
    hattributes, ok_bind, hsql]
  exact ⟨_, rfl⟩

/-- An explanation of a permission gives the text of the fragment that the permission is compiled to, and there is one
exactly if the permission can be compiled. -/
theorem explainPermission_iff_compile :
    ((∃ y, e.explainPermission (e.configIn sys) s action type columnRef = .ok y) ↔
      ∃ id, (e.compile s action type columnRef sys).1 = .ok id) ∧
    ∀ y, e.explainPermission (e.configIn sys) s action type columnRef = .ok y →
      ∃ id sys' f, e.compile s action type columnRef sys = (.ok id, sys') ∧ sys'.fragments.get? id = some f ∧
        f.sql = .text y.conditionSql := by
  have hcompiled : ∀ y, e.explainPermission (e.configIn sys) s action type columnRef = .ok y →
      ∃ id sys' f, e.compile s action type columnRef sys = (.ok id, sys') ∧ sys'.fragments.get? id = some f ∧
        f.sql = .text y.conditionSql := by
    intro y hy
    obtain ⟨c, ways, hc, _, hsql, _⟩ := of_explainPermission hy
    obtain ⟨sys', hcompile, _, hall⟩ := compile_apply hc hsql
    exact ⟨_, sys', _, hcompile, (congrArg (·[sys.fragments.all.size]?) hall).trans Array.getElem?_push_size, rfl⟩
  refine ⟨⟨?_, ?_⟩, hcompiled⟩
  · rintro ⟨y, hy⟩
    obtain ⟨id, sys', f, hcompile, _⟩ := hcompiled y hy
    exact ⟨id, by rw [hcompile]⟩
  · rintro ⟨id, hcompile⟩
    obtain ⟨c, sql, hc, hsql⟩ := condition_of_compile (Prod.ext hcompile rfl)
    exact exists_explainPermission hc hsql

/-! ## Explanations and decisions -/

/-- Where the book's queries can be asked, a check of values of their types answers. -/
theorem exists_answer (hsees : bind.Sees sys db) (hreached : bind = .connection ∨ e.hasEngine = true)
    (hask : e.facts.Askable e.policy db) (hactor : (e.facts.actorLiteral e.policy s).IsTyped)
    (htarget : (e.target r).IsTyped) (hc : e.condition (e.configIn sys) s action r.type = .ok c) :
    ∃ b, e.answer bind sys s action r = .ok b := by
  obtain ⟨ways, hways, rfl⟩ := waysOf_of_condition hc
  have htestable : Testable (Condition.ofWays ways) (e.target r) db := by
    refine Condition.testable ?_ htarget.binds
    rw [Condition.ofWays, List.forall_mem_map]
    exact fun w hw => (makes_of_waysOf hways w hw).testable hask hactor.binds
  exact ⟨_, answer_eq hsees hreached hc htestable⟩

end LocalEvaluator

end RowGuard

namespace RowGuard.Folders

open LocalEvaluator

theorem compares_queries : ∀ q ∈ facts.queries, q.Compares := by
  have hqueries : facts.queries = [.selection roleQuery, .selection parentQuery] := rfl
  rw [hqueries]
  intro q hq
  rcases List.mem_cons.mp hq with rfl | hq
  · exact fun f hf => nomatch hf
  · obtain rfl := List.mem_singleton.mp hq
    exact fun f hf => nomatch hf

theorem isTyped_target (id : String) : (evaluator.target ⟨.text "Folder", .text id⟩).IsTyped := by
  have htype : facts.idType (.text "Folder") = some .text := by
    simp [FactBook.idType, facts, List.lookup_cons]
  have htarget : evaluator.target ⟨.text "Folder", .text id⟩ = ⟨.text id, some .text⟩ :=
    congrArg (Literal.mk (.text id)) htype
  rw [htarget]
  exact .text_text _

theorem isTyped_bob : (facts.actorLiteral policy bob).IsTyped := by
  rw [actorLiteral_bob]
  exact .text_text _

def system : System := { disk := database }

end RowGuard.Folders

namespace RowGuard.Gallery

open LocalEvaluator Outcome

/-- Paintings are seen if they are dear or rare. -/
def paintingBlock : Block where
  name := "Painting"
  permissions := ["see"]
  rules := [⟨"see", .hasAttribute "dear"⟩, ⟨"see", .hasAttribute "rare"⟩]

def policy : Policy := ⟨[paintingBlock], .text "User"⟩

/-- The query that gives the paintings of a price, which is handed over as a whole number whatever it is. -/
def dearQuery (price : Data) : Selection :=
  ⟨"prices", [⟨"painting", .text, false⟩], some (.equals "price" (some .integer) price), false⟩

/-- The query that gives the paintings of a table. -/
def rareQuery (table : String) : Selection := ⟨table, [⟨"painting", .text, false⟩], none, false⟩

def facts (price : Data) (table : String) : FactBook where
  attributes := [((.text "dear", .text "Painting"), .selection (dearQuery price)),
    ((.text "rare", .text "Painting"), .selection (rareQuery table))]
  sqlTypes := [(.text "Painting", .text), (.text "User", .text)]

def evaluator (price : Data) (table : String) : LocalEvaluator := { policy, facts := facts price table }

def prices : Schema :=
  ⟨"prices", [{ name := "painting", type := .text, isKey := true }, { name := "price", type := .integer }]⟩

/-- The painting `p` has a text for a price. -/
def database : Database := ⟨[⟨prices, [[.text "p", .text "x"]]⟩]⟩

/-- A connection is lent, on which nothing has been done. -/
def system : System := { disk := database, link := some {} }

def bob : Subject := ⟨.text "User", .text "bob"⟩

def painting : Resource := ⟨.text "Painting", .text "p"⟩

/-- Paintings that a query gives, as a condition sees them. -/
def given (q : Selection) : Subquery := (FactQuery.selection q).toSubquery [some .text]

theorem sees_system : Bind.Sees .connection system database := ⟨_, rfl, ⟨rfl, rfl⟩, rfl⟩

section Evaluator

variable {price : Data} {table : String}

theorem attr_dear : (facts price table).attr (.text "dear") (.text "Painting") = .ok (given (dearQuery price)) := by
  rw [FactBook.attr_of_lookup (q := .selection (dearQuery price)) (by simp [facts]) (FactQuery.sized_selection rfl)]
  simp [given, FactBook.idType, facts]

theorem attr_rare : (facts price table).attr (.text "rare") (.text "Painting") = .ok (given (rareQuery table)) := by
  have hkey : ((Data.text "rare", Data.text "Painting") == (Data.text "dear", Data.text "Painting")) = false := by
    decide +kernel
  have hlookup : (facts price table).attributes.lookup (.text "rare", .text "Painting") =
      some (.selection (rareQuery table)) := by
    simp [facts, List.lookup_cons, hkey]
  rw [FactBook.attr_of_lookup hlookup (FactQuery.sized_selection rfl)]
  simp [given, FactBook.idType, facts]

theorem target_painting : (evaluator price table).target painting = ⟨.text "p", some .text⟩ := by
  simp [target, evaluator, painting, FactBook.idType, facts]

theorem isTyped_painting : ((evaluator price table).target painting).IsTyped := by
  rw [target_painting]
  exact .text_text _

theorem isTyped_bob : ((facts price table).actorLiteral policy bob).IsTyped := by
  have hliteral : (facts price table).actorLiteral policy bob = ⟨.text "bob", some .text⟩ := by
    have hkey : (Data.text "User" == Data.text "Painting") = false := by decide +kernel
    simp [FactBook.actorLiteral, FactBook.idType, facts, policy, bob, List.lookup_cons, hkey]
  rw [hliteral]
  exact .text_text _

/-- Seeing compiles to the tests for both attributes. -/
theorem condition_see (config : Config) :
    (evaluator price table).condition config bob (.text "see") (.text "Painting") =
      .ok [.hasAttribute (given (dearQuery price)), .hasAttribute (given (rareQuery table))] := by
  have hderive : paintingBlock.derive ["see"] = ⟨"Painting", [], [], [], ["dear", "rare"], paintingBlock.rules⟩ := by
    rw [Block.derive_of_requiredHere (by decide)]
    rfl
  have hdeclared : policy.declares "Painting" "see" = true := by decide
  have hnames : Name.inOrder (paintingBlock.derive ["see"]).attributes = .ok ["dear", "rare"] := by
    rw [hderive, Name.inOrder_string]
    simp +decide [List.mergeSort]
  have hways : ["dear", "rare"].mapM (Policy.attributeWay (facts price table) "Painting") =
      .ok [⟨"is_dear", .hasAttribute (given (dearQuery price))⟩,
        ⟨"is_rare", .hasAttribute (given (rareQuery table))⟩] := by
    rw [List.mapM_cons, List.mapM_cons, Policy.attributeWay_of_attr attr_dear, Policy.attributeWay_of_attr attr_rare]
    rfl
  exact condition_of_attributes (e := evaluator price table) hdeclared rfl (by rw [hderive]) (by rw [hderive])
    (by rw [hderive]) hnames hways

/-- Nothing is explained where the paintings that are dear cannot be. -/
theorem explained_eq_error {f : Fault}
    (h : ∀ label, (evaluator price table).wayVerdict ⟨.text "p", some .text⟩ database
      ⟨label, .hasAttribute (given (dearQuery price))⟩ = .error f) :
    (evaluator price table).explained .connection system bob (.text "see") painting = .error f := by
  have hcondition : (evaluator price table).condition ((evaluator price table).configIn system) bob (.text "see")
      painting.type = _ := condition_see _
  obtain ⟨ways, hways, hclauses⟩ := waysOf_of_condition hcondition
  obtain ⟨⟨label, _⟩, others, rfl, rfl, _⟩ := List.map_eq_cons_iff.mp hclauses.symm
  rw [explained_eq sees_system, hcondition, ok_bind, hways, ok_bind, reached, List.mapM_cons, target_painting, h label]
  rfl

end Evaluator

theorem ofBlocks_eq : Policy.ofBlocks [paintingBlock] (.text "User") = .ok policy := by decide

end RowGuard.Gallery
