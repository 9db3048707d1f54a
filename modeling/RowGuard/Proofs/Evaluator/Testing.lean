import RowGuard.Proofs.Access.Exactness
import RowGuard.Proofs.Evaluator.Local

/-!
# Conditions that can be tested

The clauses that a policy compiles to ask queries of the fact book, for the subject and for roles
(`FactBook.Makes`). A condition can therefore be tested on a database as soon as the queries run there and the
subject and the identity can be bound (`LocalEvaluator.exists_testable`).
-/

namespace RowGuard

open Outcome

/-- The literal's value can be bound and handed over. -/
structure Literal.Binds (l : Literal) : Prop where
  bind : Value.bind l.type l.value = .ok l.bound
  fits : l.bound.fits = true

/-- A text that is compared with a column is bound as itself, unless the column holds identifiers. -/
theorem Subquery.binds_compared {q : Subquery} {i : Nat} (h : q.typeAt i ≠ some .uuid) (s : String) :
    Literal.Binds ⟨.text s, q.comparedTypeAt i (.text s)⟩ := by
  unfold comparedTypeAt
  cases htype : q.typeAt i with
  | none => exact ⟨rfl, rfl⟩
  | some column =>
    have hsort := Sql.sort_comparisonType_text (fun huuid => h (htype.trans (congrArg some huuid))) s
    simp only [Option.map_some]
    cases hown : Sql.comparisonType column (.text s) with
    | text | string | enumeration => exact ⟨rfl, rfl⟩
    | integer | bigInteger | numeric | uuid | boolean => simp [hown, ColumnType.sort] at hsort

/-- The query's first columns have names, and it runs on the database. -/
structure Subquery.Askable (q : Subquery) (columns : Nat) (db : Database) : Prop where
  named : ∀ i < columns, Subquery.nameFault? (q.nameAt i) = none
  parameterless : q.query.hasParameters = false
  runs : (q.rows? db).toBool = true
  filter : ∀ l, Condition.filterLiteral? q = some l → l.Binds

theorem Subquery.Askable.mono {q : Subquery} {m n : Nat} {db : Database} (h : q.Askable n db) (hmn : m ≤ n) :
    q.Askable m db :=
  ⟨fun i hi => h.named i (Nat.lt_of_lt_of_le hi hmn), h.parameterless, h.runs, h.filter⟩

namespace FactBook

/-- The clauses that a policy's ways consist of: queries of the book, asked for the subject. -/
inductive Makes (facts : FactBook) (p : Policy) (s : Subject) : Clause → Prop
  | role {type fact roles} (h : facts.role p.actorType (.text type) = .ok fact) :
      Makes facts p s (.role fact (facts.actorLiteral p s) roles)
  | globalRole {fact roles} (h : facts.globalRole p.actorType = .ok fact) :
      Makes facts p s (.globalRole fact (facts.actorLiteral p s) roles)
  | related {type relation other fact inner}
      (h : facts.relation (.text type) (.text relation) (.text other) = .ok fact)
      (hinner : ∀ c ∈ inner, Makes facts p s c) : Makes facts p s (.related fact inner)
  | hasAttribute {attr type fact} (h : facts.attr (.text attr) (.text type) = .ok fact) :
      Makes facts p s (.hasAttribute fact)

/-- The book's queries run on the database, and their role columns compare with texts. -/
structure Askable (facts : FactBook) (p : Policy) (db : Database) : Prop where
  role : ∀ type fact, facts.role p.actorType (.text type) = .ok fact →
    fact.Askable 3 db ∧ ∀ name, Literal.Binds ⟨.text name, fact.comparedTypeAt 1 (.text name)⟩
  globalRole : ∀ fact, facts.globalRole p.actorType = .ok fact →
    fact.Askable 2 db ∧ ∀ name, Literal.Binds ⟨.text name, fact.comparedTypeAt 1 (.text name)⟩
  relation : ∀ type relation other fact,
    facts.relation (.text type) (.text relation) (.text other) = .ok fact → fact.Askable 2 db
  hasAttribute : ∀ attr type fact, facts.attr (.text attr) (.text type) = .ok fact → fact.Askable 1 db

end FactBook

/-! ## The clauses of a policy's ways -/

namespace Policy

variable {p : Policy} {facts : FactBook} {s : Subject} {ways : List Way}

theorem makes_of_globalWays {roles : List String} (h : p.globalWays facts s roles = .ok ways) :
    ∀ w ∈ ways, facts.Makes p s w.clause := by
  unfold globalWays globalWay at h
  split at h
  case isTrue =>
    obtain rfl := Except.ok.inj h
    simp
  case isFalse =>
    simp only [bind_eq_ok_iff, subjectLiteral_eq_ok_iff, pure_eq_ok, Except.ok.injEq] at h
    obtain ⟨texts, _, _, ⟨fact, hfact, _, ⟨_, rfl⟩, rfl⟩, rfl⟩ := h
    simpa using FactBook.Makes.globalRole hfact

theorem makes_of_localWays {type : String} {roles : List String}
    (h : p.localWays facts s type roles = .ok ways) : ∀ w ∈ ways, facts.Makes p s w.clause := by
  unfold localWays at h
  split at h
  case isTrue =>
    obtain rfl := Except.ok.inj h
    simp
  case isFalse =>
    split at h
    case isTrue => exact makes_of_globalWays h
    case isFalse =>
      simp only [bind_eq_ok_iff, subjectLiteral_eq_ok_iff, pure_eq_ok, Except.ok.injEq] at h
      obtain ⟨texts, _, fact, hfact, _, ⟨_, rfl⟩, rfl⟩ := h
      simpa using FactBook.Makes.role hfact

theorem makes_of_attributeWays {type : String} {attributes : List String}
    (h : attributes.mapM (attributeWay facts type) = .ok ways) : ∀ w ∈ ways, facts.Makes p s w.clause := by
  intro w hw
  obtain ⟨a, _, ha⟩ := (mem_of_mapM_eq_ok h w).mp hw
  simp only [attributeWay, bind_eq_ok_iff, pure_eq_ok, Except.ok.injEq] at ha
  obtain ⟨fact, hfact, rfl⟩ := ha
  exact .hasAttribute hfact

theorem makes_of_relatedWays {type relation other : String} {roles : List String} {fact : Subquery}
    {inner : List Way} (hfact : facts.relation (.text type) (.text relation) (.text other) = .ok fact)
    (hinner : ∀ w ∈ inner, facts.Makes p s w.clause) (h : relatedWays roles relation fact inner = .ok ways) :
    ∀ w ∈ ways, facts.Makes p s w.clause := by
  obtain ⟨label, rfl⟩ := relatedWays_eq_ok h
  split
  case isTrue => simp
  case isFalse =>
    have hclauses : ∀ c ∈ Condition.ofWays inner, facts.Makes p s c := by
      simpa [Condition.ofWays] using hinner
    simpa using FactBook.Makes.related hfact hclauses

/-- Where roles on the resource count, the subject is asked about. -/
theorem exists_role_of_localWays {type : String} {roles : List String} (hroles : roles ≠ [])
    (htype : type ≠ globalType) (h : p.localWays facts s type roles = .ok ways) :
    ∃ w ∈ ways, ∃ fact names, w.clause = .role fact (facts.actorLiteral p s) names := by
  unfold localWays at h
  rw [if_neg (by simpa using hroles), if_neg (by simpa using htype)] at h
  simp only [bind_eq_ok_iff, subjectLiteral_eq_ok_iff, pure_eq_ok, Except.ok.injEq] at h
  obtain ⟨texts, _, fact, _, _, ⟨_, rfl⟩, rfl⟩ := h
  exact ⟨_, List.mem_cons_self, fact, texts, rfl⟩

theorem makes_of_waysTo {start goal : Goal} {path : List Goal} {hgoal : goal ∈ p.goals start}
    (h : p.waysTo facts s start path goal hgoal = .ok ways) : ∀ w ∈ ways, facts.Makes p s w.clause := by
  refine waysTo_induction (motive := fun _ _ ways => ∀ w ∈ ways, facts.Makes p s w.clause) ?_ ?_ h
  · simp
  · intro path goal _ ways b hpath hb h ih
    obtain ⟨locals, globals, rels, related, attributes, attributeWays, hlocals, hglobals, _, hrelated, _, hways, rfl⟩ :=
      (waysTo_eq_ok_iff hpath hb).mp h
    have halong : ∀ ws ∈ related, ∀ w ∈ ws, facts.Makes p s w.clause := by
      intro ws hws
      obtain ⟨r, _, other, fact, inner, hnext, _, hfact, hinner, hadds⟩ := exists_of_mem_right hrelated hws
      exact makes_of_relatedWays hfact (ih hinner) hadds
    intro w hw
    simp only [List.mem_append, List.mem_flatten] at hw
    rcases hw with ((hw | hw) | ⟨ws, hws, hw⟩) | hw
    · exact makes_of_localWays hlocals w hw
    · exact makes_of_globalWays hglobals w hw
    · exact halong ws hws w hw
    · exact makes_of_attributeWays hways w hw

end Policy

/-! ## Testing clauses -/

namespace Clause

/-- The clause can be written as a test on the database, and its values can be bound. -/
structure Testable (c : Clause) (db : Database) : Prop where
  named : nameFault? c = none
  asks : ∀ fact ∈ c.facts, fact.Askable 0 db
  binds : ∀ l ∈ c.literals, l.Binds

theorem nameFault_ofAll_eq_none_iff {cs : List Clause} :
    nameFault?.ofAll cs = none ↔ ∀ c ∈ cs, nameFault? c = none := by
  induction cs with
  | nil => simp [nameFault?.ofAll]
  | cons c rest ih => simp [nameFault?.ofAll, Option.or_eq_none_iff, ih]

theorem mem_factsOfAll {cs : List Clause} {fact : Subquery} :
    fact ∈ factsOfAll cs ↔ ∃ c ∈ cs, fact ∈ c.facts := by
  induction cs with
  | nil => simp [factsOfAll]
  | cons c rest ih => simp [factsOfAll, ih]

theorem mem_literalsOfAll {cs : List Clause} {l : Literal} :
    l ∈ literalsOfAll cs ↔ ∃ c ∈ cs, l ∈ c.literals := by
  induction cs with
  | nil => simp [literalsOfAll]
  | cons c rest ih => simp [literalsOfAll, ih]

theorem binds_role {fact : Subquery} {subject : Literal} {roles : List String} (hsubject : subject.Binds)
    (hroles : ∀ name, Literal.Binds ⟨.text name, fact.comparedTypeAt 1 (.text name)⟩) :
    ∀ l ∈ subject :: roleLiterals fact roles, l.Binds := by
  intro l hl
  rcases List.mem_cons.mp hl with rfl | hl
  · exact hsubject
  · obtain ⟨name, _, rfl⟩ := List.mem_map.mp hl
    exact hroles name

end Clause

/-- The clauses that a policy's ways consist of can be tested where the book's queries run. -/
theorem FactBook.Makes.testable {facts : FactBook} {p : Policy} {s : Subject} {c : Clause} {db : Database}
    (h : facts.Makes p s c) (hfacts : facts.Askable p db) (hactor : (facts.actorLiteral p s).Binds) :
    c.Testable db := by
  induction h with
  | @role type fact roles hfact =>
    obtain ⟨hask, hroles⟩ := hfacts.role type fact hfact
    refine ⟨?_, by simpa [Clause.facts] using hask.mono (Nat.zero_le 3), Clause.binds_role hactor hroles⟩
    simp [Clause.nameFault?, hask.named]
  | @globalRole fact roles hfact =>
    obtain ⟨hask, hroles⟩ := hfacts.globalRole fact hfact
    refine ⟨?_, by simpa [Clause.facts] using hask.mono (Nat.zero_le 2), Clause.binds_role hactor hroles⟩
    simp [Clause.nameFault?, hask.named]
  | @related type relation other fact inner hfact _ ih =>
    have hask := hfacts.relation type relation other fact hfact
    refine ⟨?_, ?_, ?_⟩
    · have hinner : Clause.nameFault?.ofAll inner = none :=
        Clause.nameFault_ofAll_eq_none_iff.mpr fun c hc => (ih c hc).named
      simp [Clause.nameFault?, hask.named, hinner]
    · intro fact' hfact'
      rcases List.mem_cons.mp hfact' with rfl | hfact'
      · exact hask.mono (Nat.zero_le 2)
      · obtain ⟨c, hc, hmem⟩ := Clause.mem_factsOfAll.mp hfact'
        exact (ih c hc).asks fact' hmem
    · intro l hl
      obtain ⟨c, hc, hmem⟩ := Clause.mem_literalsOfAll.mp hl
      exact (ih c hc).binds l hmem
  | @hasAttribute attr type fact hfact =>
    have hask := hfacts.hasAttribute attr type fact hfact
    refine ⟨?_, by simpa [Clause.facts] using hask.mono (Nat.zero_le 1), by simp [Clause.literals]⟩
    simp [Clause.nameFault?, hask.named]

/-! ## Testing conditions -/

namespace Condition

theorem mem_literals_of_mem_literalsOfAll {c : Condition} {l : Literal} (target : Option Literal)
    (h : l ∈ Clause.literalsOfAll c) : l ∈ c.literals target :=
  List.mem_append_left _ (List.mem_append_right _ h)

theorem bindFault?_eq_none {ls : List Literal} (h : ∀ l ∈ ls, l.Binds) : bindFault? ls = none := by
  refine List.findSome?_eq_none_iff.mpr ?_
  intro l hl
  rw [(h l hl).bind]

theorem allFit_of_binds {ls : List Literal} (h : ∀ l ∈ ls, l.Binds) : allFit ls = true :=
  List.all_eq_true.mpr fun l hl => (h l hl).fits

/-- A condition can be tested if each of its clauses can, and the identity can be bound. -/
theorem testable {c : Condition} {target : Literal} {db : Database} (h : ∀ clause ∈ c, clause.Testable db)
    (htarget : target.Binds) : LocalEvaluator.Testable c target db := by
  have hasks : ∀ fact ∈ Clause.factsOfAll c, fact.Askable 0 db := by
    intro fact hfact
    obtain ⟨clause, hclause, hmem⟩ := Clause.mem_factsOfAll.mp hfact
    exact (h clause hclause).asks fact hmem
  have hbinds : ∀ l ∈ c.literals (some target), l.Binds := by
    intro l hl
    simp only [literals, Option.toList_some, List.mem_append, List.mem_filterMap] at hl
    rcases hl with (hl | hl) | ⟨fact, hfact, hl⟩
    · split at hl
      case isTrue => exact List.mem_singleton.mp hl ▸ htarget
      case isFalse => simp at hl
    · obtain ⟨clause, hclause, hmem⟩ := Clause.mem_literalsOfAll.mp hl
      exact (h clause hclause).binds l hmem
    · exact (hasks fact hfact).filter l hl
  exact {
    named := Clause.nameFault_ofAll_eq_none_iff.mpr fun clause hclause => (h clause hclause).named
    parameterless := by
      rw [hasParameters, List.any_eq_false]
      intro fact hfact
      simp [(hasks fact hfact).parameterless]
    binds := bindFault?_eq_none hbinds
    runs := List.all_eq_true.mpr fun fact hfact => (hasks fact hfact).runs
    fits := allFit_of_binds hbinds }

end Condition

namespace LocalEvaluator

variable {e : LocalEvaluator} {config : Config} {s : Subject} {type action : String}

/-- A condition's clauses ask queries of the book, for the subject and for roles. -/
theorem makes_of_condition {c : Condition} (hdeclared : e.policy.declares type action = true)
    (hc : e.condition config s (.text action) (.text type) = .ok c) :
    ∀ clause ∈ c, e.facts.Makes e.policy s clause := by
  rw [condition_of_declares hdeclared, Policy.condition, bind_eq_ok_iff] at hc
  obtain ⟨ways, hways, hc⟩ := hc
  obtain rfl := Except.ok.inj hc
  rw [Policy.ways, Name.requireKeys_string, ok_bind] at hways
  intro clause hclause
  obtain ⟨w, hw, rfl⟩ := List.mem_map.mp hclause
  exact Policy.makes_of_waysTo hways w hw

/-- Where relations do not lead back to a type, the condition for an action can be tested wherever the book's
queries run, and holds of exactly the resources on which the subject holds the action. -/
theorem exists_testable (hvalid : e.policy.validate none = .ok ()) (hacyclic : e.policy.Acyclic)
    (hfacts : e.facts.Supplies e.policy) (hactor : e.policy.isActor s = true)
    (hdeclared : e.policy.declares type action = true) :
    ∃ c, e.condition config s (.text action) (.text type) = .ok c ∧
      (∀ db target, e.facts.Askable e.policy db → (e.facts.actorLiteral e.policy s).Binds → target.Binds →
        Testable c target db) ∧
      ∀ db value x, Condition.holds db value x c = true ↔
        e.policy.Holds (e.facts.evidence e.policy s db value) type x action := by
  obtain ⟨c, hc, hholds⟩ := exists_condition hvalid hfacts hactor hdeclared
  refine ⟨c, hc, ?_, ?_⟩
  · intro db target hask hsubject htarget
    exact Condition.testable (fun clause hclause =>
      (makes_of_condition hdeclared hc clause hclause).testable hask hsubject) htarget
  · intro db value x
    rw [hholds, Policy.holds_iff_exists_trail]
    -- no trail repeats a goal
    exact exists_congr fun gs => and_iff_left_of_imp fun htrail =>
      Policy.freshFrom_nil_iff.mpr (htrail.fresh_of_acyclic hacyclic)

/-- The condition for an action that a role on the resource gives compares with the subject. -/
theorem actorLiteral_mem_literalsOfAll {c : Condition} {b : Block} {n : String}
    (hdeclared : e.policy.declares type action = true)
    (hc : e.condition config s (.text action) (.text type) = .ok c) (hb : e.policy.block? type = some b)
    (htype : type ≠ globalType) (hn : n ∈ b.roles) (hreached : b.Reaches [action] n) :
    e.facts.actorLiteral e.policy s ∈ Clause.literalsOfAll c := by
  rw [condition_of_declares hdeclared, Policy.condition, bind_eq_ok_iff] at hc
  obtain ⟨ways, hways, hc⟩ := hc
  obtain rfl := Except.ok.inj hc
  rw [Policy.ways, Name.requireKeys_string, ok_bind] at hways
  have hpath : ([] : List Goal).any (Goal.mk type [action].eraseDups).same = false := rfl
  obtain ⟨locals, globals, rels, related, attributes, attributeWays, hlocals, _, _, _, _, _, rfl⟩ :=
    (Policy.waysTo_eq_ok_iff hpath hb).mp hways
  have hroles : (b.derive [action].eraseDups).localRoles ≠ [] :=
    List.ne_nil_of_mem ((b.mem_derive_localRoles _).mpr ⟨hn, hreached⟩)
  obtain ⟨w, hw, fact, names, hclause⟩ := Policy.exists_role_of_localWays hroles htype hlocals
  have hmem : w.clause ∈ Condition.ofWays (locals ++ globals ++ related.flatten ++ attributeWays) := by
    refine List.mem_map_of_mem ?_
    simp [hw]
  refine Clause.mem_literalsOfAll.mpr ⟨_, hmem, ?_⟩
  rw [hclause]
  exact List.mem_cons_self

end LocalEvaluator

end RowGuard
