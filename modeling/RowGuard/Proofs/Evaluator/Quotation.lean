import RowGuard.Proofs.Access.Supply
import RowGuard.Proofs.Access.Transfer
import RowGuard.Proofs.Batch.Compilation
import RowGuard.Proofs.Condition.Quotation
import RowGuard.Proofs.Evaluator.Local

/-!
# Quotation in compiled conditions

A subject of the same type obtains grants in the same ways, so that the condition for another subject is the same but
for the subject (`LocalEvaluator.condition_of_forms`). The text of a compiled condition therefore says the
subject and the roles in literals of their own, whatever they contain (`LocalEvaluator.compile_quotes`).
-/

namespace RowGuard

open Outcome Sql

/-! ## Books of closed queries -/

namespace FactQuery

/-- The query's role column, the second one, holds texts; that of SQL text always does. -/
def HasTextRoles : FactQuery → Prop
  | selection s => ∀ c, s.columns[1]? = some c → c.resultType.sort = .texts
  | sql _ _ => True

theorem IsClosed.toSubquery {q : FactQuery} (h : q.IsClosed) (types : List (Option ColumnType)) :
    (q.toSubquery types).IsClosed := by
  cases q with
  | selection s =>
    have hs : s.IsClosed := h
    refine ⟨h, ?_⟩
    intro i
    simp only [FactQuery.toSubquery, Subquery.nameAt, List.getElem?_map]
    cases hc : s.columns[i]? with
    | none => exact (by decide : QuoteFree "")
    | some c => exact hs.columns c (List.mem_of_getElem? hc)
  | sql text columns =>
    refine ⟨h, ?_⟩
    intro i
    simp only [FactQuery.toSubquery, Subquery.nameAt, List.getElem?_map, List.getElem?_zipIdx]
    cases hc : columns[i]? with
    | none => exact (by decide : QuoteFree "")
    | some c => exact h.1 c (List.mem_of_getElem? hc)

theorem HasTextRoles.toSubquery {q : FactQuery} (h : q.HasTextRoles) (actor : Option ColumnType)
    (rest : List (Option ColumnType)) : (q.toSubquery (actor :: some .string :: rest)).HasTextRoles := by
  intro t ht
  cases q with
  | selection s =>
    simp only [FactQuery.toSubquery, Subquery.typeAt, List.getElem?_map] at ht
    cases hc : s.columns[1]? with
    | none => simp [hc] at ht
    | some c =>
      obtain rfl : c.resultType = t := by simpa [hc] using ht
      exact h c hc
  | sql text columns =>
    simp only [FactQuery.toSubquery, Subquery.typeAt, List.getElem?_map, List.getElem?_zipIdx] at ht
    cases hc : columns[1]? with
    | none => simp [hc] at ht
    | some c =>
      obtain rfl : ColumnType.string = t := by simpa [hc] using ht
      rfl

end FactQuery

namespace FactBook

/-- No name that the book's queries give has a quote, each literal of their texts ends, and their role columns
hold texts. -/
structure Legible (facts : FactBook) : Prop where
  roles : ∀ entry ∈ facts.roles, entry.2.IsClosed ∧ entry.2.HasTextRoles
  globalRoles : ∀ q, facts.globalRoles = some q → q.IsClosed ∧ q.HasTextRoles
  relations : ∀ entry ∈ facts.relations, entry.2.IsClosed
  attributes : ∀ entry ∈ facts.attributes, entry.2.IsClosed

theorem checked_eq_ok {signature : String} {types : List (Option ColumnType)} {q : FactQuery} {fact : Subquery}
    (h : checked signature types q = .ok fact) : fact = q.toSubquery types := by
  unfold checked at h
  split at h
  · exact nomatch h
  · split at h
    · exact (Except.ok.inj h).symm
    · exact nomatch h

section Lookups

variable {facts : FactBook} {fact : Subquery}

theorem Legible.role (h : facts.Legible) {actor type : Data} (hfact : facts.role actor type = .ok fact) :
    fact.IsClosed ∧ fact.HasTextRoles := by
  obtain ⟨q, hq, hfact⟩ := bind_eq_ok_iff.mp hfact
  obtain ⟨_, _, hfact⟩ := bind_eq_ok_iff.mp hfact
  obtain ⟨_, hmem⟩ := lookup_mem (exists_of_found hq)
  obtain ⟨hclosed, htexts⟩ := h.roles _ hmem
  rw [checked_eq_ok hfact]
  exact ⟨hclosed.toSubquery _, htexts.toSubquery _ _⟩

theorem Legible.globalRole (h : facts.Legible) {actor : Data} (hfact : facts.globalRole actor = .ok fact) :
    fact.IsClosed ∧ fact.HasTextRoles := by
  obtain ⟨q, hq, hfact⟩ := bind_eq_ok_iff.mp hfact
  obtain ⟨_, _, hfact⟩ := bind_eq_ok_iff.mp hfact
  obtain ⟨hclosed, htexts⟩ := h.globalRoles q (exists_of_found hq)
  rw [checked_eq_ok hfact]
  exact ⟨hclosed.toSubquery _, htexts.toSubquery _ _⟩

theorem Legible.relation (h : facts.Legible) {type relation other : Data}
    (hfact : facts.relation type relation other = .ok fact) : fact.IsClosed := by
  obtain ⟨q, hq, hfact⟩ := bind_eq_ok_iff.mp hfact
  obtain ⟨_, hmem⟩ := lookup_mem (exists_of_found hq)
  rw [checked_eq_ok hfact]
  exact FactQuery.IsClosed.toSubquery (h.relations _ hmem) _

theorem Legible.attr (h : facts.Legible) {name type : Data} (hfact : facts.attr name type = .ok fact) :
    fact.IsClosed := by
  obtain ⟨q, hq, hfact⟩ := bind_eq_ok_iff.mp hfact
  obtain ⟨_, hmem⟩ := lookup_mem (exists_of_found hq)
  rw [checked_eq_ok hfact]
  exact FactQuery.IsClosed.toSubquery (h.attributes _ hmem) _

end Lookups

/-- The clauses that are made of the book's queries, asked about any subject for roles in order, all have a
property. -/
structure Forms (facts : FactBook) (P : Clause → Prop) : Prop where
  role : ∀ {actor type : Data} {fact : Subquery}, facts.role actor type = .ok fact →
    ∀ (subject : Literal) {roles : List String}, roles.Pairwise (· ≤ ·) → P (.role fact subject roles)
  globalRole : ∀ {actor : Data} {fact : Subquery}, facts.globalRole actor = .ok fact →
    ∀ (subject : Literal) {roles : List String}, roles.Pairwise (· ≤ ·) → P (.globalRole fact subject roles)
  relation : ∀ {type relation other : Data} {fact : Subquery}, facts.relation type relation other = .ok fact →
    ∀ {inner : List Clause}, (∀ c ∈ inner, P c) → P (.related fact inner)
  attr : ∀ {name type : Data} {fact : Subquery}, facts.attr name type = .ok fact → P (.hasAttribute fact)

theorem Legible.forms {facts : FactBook} (h : facts.Legible) : facts.Forms Clause.Legible where
  role hfact _ _ hroles := .role (h.role hfact).1 (h.role hfact).2 hroles
  globalRole hfact _ _ hroles := .globalRole (h.globalRole hfact).1 (h.globalRole hfact).2 hroles
  relation hfact _ hinner := .related (h.relation hfact) hinner
  attr hfact := .hasAttribute (h.attr hfact)

end FactBook

/-! ## The condition of another subject -/

/-- Clauses that are others with another subject put in place, and these have a property. -/
theorem Clause.eq_withSubjectAll_of_forall₂ {P : Clause → Prop} {l : Literal} {cs cs' : List Clause}
    (h : List.Forall₂ (fun c c' => c' = c.withSubject l ∧ P c) cs cs') :
    cs' = withSubject.withSubjectAll l cs ∧ ∀ c ∈ cs, P c := by
  induction h with
  | nil => exact ⟨rfl, by simp⟩
  | cons hc _ ih =>
    obtain ⟨rfl, hP⟩ := hc
    obtain ⟨rfl, hrest⟩ := ih
    exact ⟨rfl, List.forall_mem_cons.mpr ⟨hP, hrest⟩⟩

namespace Policy

variable {ν : Type} {p : Policy ν} {facts : FactBook} {s s' : Subject} {P : Clause → Prop}

theorem subjectLiteral_eq_ok_of_type {l : Literal} (htype : s'.type = s.type)
    (h : p.subjectLiteral facts s = .ok l) :
    p.subjectLiteral facts s' = .ok ⟨s'.id, facts.idType p.actorType⟩ := by
  have hactor : p.isActor s' = p.isActor s := by simp [isActor, htype]
  unfold subjectLiteral at *
  rw [hactor]
  split at h
  · next hs => rw [if_pos hs]
  · exact nomatch h

/-- Another subject of the same type is asked about where the subject was. -/
theorem transfers_of_forms (htype : s'.type = s.type) (hfacts : facts.Forms P) :
    p.Transfers facts facts s s' fun c c' => c' = c.withSubject ⟨s'.id, facts.idType p.actorType⟩ ∧ P c where
  role hfact hl := ⟨_, _, hfact, subjectLiteral_eq_ok_of_type htype hl,
    fun hroles => ⟨rfl, hfacts.role hfact _ hroles⟩⟩
  globalRole hfact hl := ⟨_, _, hfact, subjectLiteral_eq_ok_of_type htype hl,
    fun hroles => ⟨rfl, hfacts.globalRole hfact _ hroles⟩⟩
  relation hfact := ⟨_, hfact, fun hinner => by
    obtain ⟨rfl, hclauses⟩ := Clause.eq_withSubjectAll_of_forall₂ hinner
    exact ⟨rfl, hfacts.relation hfact hclauses⟩⟩
  attr hfact := ⟨_, hfact, rfl, hfacts.attr hfact⟩

end Policy

/-! ## The text of a fragment -/

namespace LocalEvaluator

variable {ν : Type} [BEq ν] [ReflBEq ν] [Name ν] {e : LocalEvaluator ν} {s s' : Subject} {sys sys' : System}
  {action type columnRef : Data} {id : FragmentId}

/-- The condition for another subject of the same type is the one for the subject with that one in its place. -/
theorem condition_of_forms {config : Config} {c : Condition} {P : Clause → Prop} (htype : s'.type = s.type)
    (hfacts : e.facts.Forms P) (h : e.condition config s action type = .ok c) :
    e.condition config s' action type =
        .ok (Clause.withSubject.withSubjectAll ⟨s'.id, e.facts.idType e.policy.actorType⟩ c) ∧
      ∀ clause ∈ c, P clause := by
  obtain ⟨c', hc', hrelated⟩ := condition_of_transfers (Policy.transfers_of_forms htype hfacts) h
  obtain ⟨rfl, hclauses⟩ := Clause.eq_withSubjectAll_of_forall₂ hrelated
  exact ⟨hc', hclauses⟩

theorem condition_of_same_type {config : Config} {c : Condition} (htype : s'.type = s.type)
    (hfacts : e.facts.Legible) (h : e.condition config s action type = .ok c) :
    e.condition config s' action type =
        .ok (Clause.withSubject.withSubjectAll ⟨s'.id, e.facts.idType e.policy.actorType⟩ c) ∧
      ∀ clause ∈ c, clause.Legible :=
  condition_of_forms htype hfacts.forms h

/-- The text of a compiled condition keeps values apart from what is around them. Its literals are those that the
fact queries bring along, and clause by clause the subject and the roles in order, each of them read as it was
given; the text between them is the same for every subject. -/
theorem compile_quotes {kind : Data} {name : String} (hdialect : e.dialect = .sqlite) (hfacts : e.facts.Legible)
    (hactor : ∀ t, e.facts.idType e.policy.actorType = some t → t = .text ∨ t = .string)
    (href : QuoteFree columnRef.plain) (h : e.compile ⟨kind, .text name⟩ action type columnRef sys = (.ok id, sys')) :
    ∃ c between, e.condition (e.configIn sys) ⟨kind, .text name⟩ action type = .ok c ∧
      (∀ clause ∈ c, clause.Legible) ∧
      ∀ other, ∃ sys'' f sql, e.compile ⟨kind, .text other⟩ action type columnRef sys = (.ok id, sys'') ∧
        sys''.fragments.get? id = some f ∧ f.sql = .text sql ∧
        Reads sql between (Clause.quoted.quotedAll other c) := by
  obtain ⟨c, sql, hc, hsql⟩ := condition_of_compile h
  have hcondition := fun other : String =>
    have htype : (⟨kind, .text other⟩ : Subject).type = (⟨kind, .text name⟩ : Subject).type := rfl
    condition_of_same_type htype hfacts hc
  have hlegible := (hcondition name).2
  have htexts : ∀ t, e.facts.idType e.policy.actorType = some t → t.sort = .texts := by
    intro t ht
    rcases hactor t ht with rfl | rfl <;> rfl
  rw [hdialect] at hsql
  obtain ⟨texts, htext, between, hreads⟩ := Condition.exists_forColumn hlegible htexts href hsql
  refine ⟨c, between, hc, hlegible, ?_⟩
  intro other
  obtain ⟨sys'', hcompile, _, hall⟩ := compile_apply (hcondition other).1 (hdialect ▸ htext other)
  obtain ⟨first, hfirst, _, _⟩ := compile_apply (hcondition name).1 (hdialect ▸ htext name)
  obtain rfl : id = sys.fragments.all.size := Except.ok.inj (Prod.mk.inj (h.symm.trans hfirst)).1
  have hget := (congrArg (·[sys.fragments.all.size]?) hall).trans Array.getElem?_push_size
  exact ⟨sys'', _, texts other, hcompile, hget, rfl, hreads other⟩

end LocalEvaluator

/-! ### On an archive -/

namespace Archive

/-- Who reads what, by grants that are in force. The condition on the state is a literal of the query's own. -/
def readers : FactQuery :=
  .sql "SELECT who, role, doc FROM grants WHERE state = 'it''s on'" [.text "who", .text "role", .text "doc"]

def policy : Policy where
  blocks := [
    { name := "Doc"
      roles := ["reader"]
      permissions := ["read"]
      rules := [⟨"read", .role "reader"⟩] }]

/-- The archive's facts, with the given query for who reads what. -/
def facts (readers : FactQuery) : FactBook where
  roles := [(.text "Doc", readers)]
  sqlTypes := [(.text "User", .text)]

def evaluator (readers : FactQuery) : LocalEvaluator := ⟨policy, facts readers, .sqlite, false, none⟩

def system : System := { disk := ⟨[]⟩ }

/-- The text that reading is compiled to for a subject. -/
def readSql (readers : FactQuery) (columnRef name : String) : Option String :=
  ((evaluator readers).compile ⟨.text "User", .text name⟩ (.text "read") (.text "Doc") (.text columnRef)
    system).2.fragments.all[0]?.map (·.sql.plain)

/-- A name made of what could end a literal and begin something else. -/
def intruder : String := "'' OR '1'='1' --"

theorem legible_facts : (facts readers).Legible where
  roles := by
    intro entry hentry
    obtain rfl := List.mem_singleton.mp hentry
    exact ⟨⟨by decide, by decide +kernel⟩, trivial⟩
  globalRoles := by simp [facts]
  relations := by simp [facts]
  attributes := by simp [facts]

/-- The intruder is one literal wherever the text speaks of the subject. -/
theorem compile_quotes_intruder :
    (facts readers).Legible ∧ (facts readers).idType policy.actorType = some .text ∧
      QuoteFree (Data.text "doc.id").plain ∧
      ∃ sys', (evaluator readers).compile ⟨.text "User", .text intruder⟩ (.text "read") (.text "Doc")
          (.text "doc.id") system = (.ok 0, sys') ∧
        ∃ c between, (evaluator readers).condition {} ⟨.text "User", .text intruder⟩ (.text "read")
            (.text "Doc") = .ok c ∧
          (∀ clause ∈ c, clause.Legible) ∧
          ∀ other, ∃ sys'' f sql, (evaluator readers).compile ⟨.text "User", .text other⟩ (.text "read")
              (.text "Doc") (.text "doc.id") system = (.ok 0, sys'') ∧
            sys''.fragments.get? 0 = some f ∧ f.sql = .text sql ∧
            Reads sql between (Clause.quoted.quotedAll other c) := by
  have htype : (facts readers).idType policy.actorType = some .text := by decide +kernel
  have href : QuoteFree (Data.text "doc.id").plain := by decide
  have hcompile : ((evaluator readers).compile ⟨.text "User", .text intruder⟩ (.text "read") (.text "Doc")
      (.text "doc.id") system).1 = .ok 0 := by decide +kernel
  refine ⟨legible_facts, htype, href, _, Prod.ext hcompile rfl, ?_⟩
  refine LocalEvaluator.compile_quotes rfl legible_facts ?_ href (Prod.ext hcompile rfl)
  intro t ht
  exact .inl (Option.some.inj (ht.symm.trans htype))

example : (readSql readers "doc.id" intruder).map quoted = some ["it's on", intruder, "reader"] := by
  decide +kernel

/-- Grants whose role column is named by a word with a quote. -/
def spelled : FactQuery := .sql "SELECT a, \"b's\", c FROM g" [.text "a", .text "b's", .text "c"]

/-- Grants with a remark that has a quote. -/
def remarked : FactQuery := .sql "SELECT a, b, c FROM g /* bob's */" [.text "a", .text "b", .text "c"]

/-- Grants in plain words. -/
def unremarkable : FactQuery := .sql "SELECT a, b, c FROM g" [.text "a", .text "b", .text "c"]

/-- A quote that begins no literal misleads a reader who knows of literals only: it stands in the name of a
column, in a remark of a query, or in the column that the condition is about. -/
theorem other_quotes_mislead :
    let said := fun sql : String => decide (["bob", "reader"] <:+ quoted sql)
    (readSql spelled "d" "bob").map said = some false ∧ (readSql remarked "d" "bob").map said = some false ∧
      (readSql unremarkable "\"d's\"" "bob").map said = some false := by
  decide +kernel

end Archive

end RowGuard
