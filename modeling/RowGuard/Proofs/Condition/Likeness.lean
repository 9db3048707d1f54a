import RowGuard.Proofs.Condition.Matching
import RowGuard.Proofs.Condition.Unbroken
import RowGuard.Proofs.Evaluator.Testing
import RowGuard.Proofs.Evaluator.Verdict

/-!
# Queries with the same rows

A test of a clause looks at the rows of its fact queries and at nothing else of them: neither at their order, nor at
how often one comes, nor at the query. Two conditions of the same shape whose queries answer with the same rows
(`Subquery.AnswersAlike`) are therefore tested with the same outcome (`LocalEvaluator.verdict_congr`). In a statement
the queries themselves are written out: there it matters that their texts can be read to the end as well.
-/

namespace RowGuard

/-- Two literals that are bound, written and read alike. -/
structure Literal.SameAs (l l' : Literal) : Prop where
  bind : Value.bind l.type l.value = Value.bind l'.type l'.value
  written : l.written = l'.written
  readable : l.isReadable = l'.isReadable
  render : ∀ d, l.render d = l'.render d

namespace Literal.SameAs

variable {l l' : Literal}

theorem refl (l : Literal) : SameAs l l := ⟨rfl, rfl, rfl, fun _ => rfl⟩

theorem bound (h : SameAs l l') : l.bound = l'.bound := by
  unfold Literal.bound
  rw [h.bind]

theorem unbroken_iff (h : SameAs l l') (d : Dialect) : l.Unbroken d ↔ l'.Unbroken d := by
  unfold Literal.Unbroken
  rw [h.render d]

/-- A text is the same literal without a type and with any type of texts. -/
theorem text {s : String} {type type' : Option ColumnType} (h : ∀ t, type = some t → t.sort = .texts)
    (h' : ∀ t, type' = some t → t.sort = .texts) : SameAs ⟨.text s, type⟩ ⟨.text s, type'⟩ := by
  have huntyped : ∀ {type : Option ColumnType}, (∀ t, type = some t → t.sort = .texts) →
      SameAs ⟨.text s, type⟩ ⟨.text s, none⟩ := by
    intro type h
    cases type with
    | none => exact refl _
    | some t =>
      cases t with
      | text | string | enumeration => exact ⟨rfl, rfl, rfl, fun _ => rfl⟩
      | integer | bigInteger | numeric | uuid | boolean => simpa [ColumnType.sort] using h _ rfl
  obtain ⟨hbind, hwritten, hreadable, hrender⟩ := huntyped h
  obtain ⟨hbind', hwritten', hreadable', hrender'⟩ := huntyped h'
  exact ⟨hbind.trans hbind'.symm, hwritten.trans hwritten'.symm, hreadable.trans hreadable'.symm,
    fun d => (hrender d).trans (hrender' d).symm⟩

end Literal.SameAs

/-- Both queries can be asked on the database, under as many names, and answer with the same rows, of which the second
column, that of role names, holds identifiers in both or in neither. -/
structure Subquery.AnswersAlike (db : Database) (q q' : Subquery) : Prop where
  asks : q.Askable q.columns.length db
  asks' : q'.Askable q'.columns.length db
  columns : q'.columns.length = q.columns.length
  rows : ∀ row, row ∈ q.rows db ↔ row ∈ q'.rows db
  uuid : q.typeAt 1 = some .uuid ↔ q'.typeAt 1 = some .uuid

namespace Subquery.AnswersAlike

variable {db : Database} {q q' : Subquery}

theorem symm (h : q.AnswersAlike db q') : q'.AnswersAlike db q :=
  ⟨h.asks', h.asks, h.columns.symm, fun row => (h.rows row).symm, h.uuid.symm⟩

/-- The names of roles are compared with the role columns of both in the same way. -/
theorem sameAs_compared (h : q.AnswersAlike db q') (r : String) :
    Literal.SameAs ⟨.text r, q.comparedTypeAt 1 (.text r)⟩ ⟨.text r, q'.comparedTypeAt 1 (.text r)⟩ := by
  by_cases huuid : q.typeAt 1 = some .uuid
  · have hsame : q'.comparedTypeAt 1 (.text r) = q.comparedTypeAt 1 (.text r) := by
      unfold comparedTypeAt
      rw [huuid, h.uuid.mp huuid]
    rw [hsame]
    exact .refl _
  · have htexts : ∀ {p : Subquery}, p.typeAt 1 ≠ some .uuid →
        ∀ t, p.comparedTypeAt 1 (.text r) = some t → t.sort = .texts := by
      intro p hp t ht
      unfold comparedTypeAt at ht
      obtain ⟨column, hcolumn, rfl⟩ := Option.map_eq_some_iff.mp ht
      exact Sql.sort_comparisonType_text (fun hcol => hp (hcolumn.trans (congrArg some hcol))) r
    exact .text (htexts huuid) (htexts fun h' => huuid (h.uuid.mpr h'))

theorem includedIn (h : q.AnswersAlike db q') {value : Literal → Value}
    (hvalue : ∀ l l', Literal.SameAs l l' → value l = value l') : q.IncludedIn value db db q' :=
  ⟨fun row hrow => (h.rows row).mp hrow, fun r => hvalue _ _ (h.sameAs_compared r)⟩

/-- Both have names for the same places. -/
theorem nameFault?_eq (h : q.AnswersAlike db q') (i : Nat) :
    Subquery.nameFault? (q.nameAt i) = Subquery.nameFault? (q'.nameAt i) := by
  by_cases hi : i < q.columns.length
  · rw [h.asks.named i hi, h.asks'.named i (h.columns ▸ hi)]
  · have hnone : ∀ {p : Subquery}, p.columns.length = q.columns.length → p.nameAt i = .text "" := by
      intro p hp
      rw [nameAt, List.getElem?_eq_none (by omega)]
      rfl
    rw [hnone rfl, hnone h.columns]

end Subquery.AnswersAlike

/-! ## Clauses -/

namespace Clause

variable {R S : Subquery → Subquery → Prop} {c c' : Clause} {cs cs' : List Clause}

theorem Matches.forall₂ {inner inner' : List Clause} {P : Clause → Clause → Prop} (hlength : inner.length = inner'.length)
    (h : ∀ c c', (c, c') ∈ inner.zip inner' → P c c') : List.Forall₂ P inner inner' :=
  List.forall₂_iff_zip.mpr ⟨hlength, h _ _⟩

theorem Matches.imp (hRS : ∀ q q', R q q' → S q q') (h : Matches R c c') : Matches S c c' := by
  induction h with
  | role h => exact .role (hRS _ _ h)
  | globalRole h => exact .globalRole (hRS _ _ h)
  | related h hlength _ ih => exact .related (hRS _ _ h) hlength ih
  | hasAttribute h => exact .hasAttribute (hRS _ _ h)

theorem Matches.flip (hRS : ∀ q q', R q q' → S q' q) (h : Matches R c c') : Matches S c' c := by
  induction h with
  | role h => exact .role (hRS _ _ h)
  | globalRole h => exact .globalRole (hRS _ _ h)
  | related h hlength _ ih => exact .of_forall₂ (hRS _ _ h) (Matches.forall₂ hlength ih).flip
  | hasAttribute h => exact .hasAttribute (hRS _ _ h)

theorem Matches.mentionsTarget_eq (h : Matches R c c') : c.mentionsTarget = c'.mentionsTarget := by
  cases h <;> rfl

theorem any_mentionsTarget_eq {P : Clause → Clause → Prop} (hP : ∀ c c', P c c' → c.mentionsTarget = c'.mentionsTarget)
    (h : List.Forall₂ P cs cs') : cs.any mentionsTarget = cs'.any mentionsTarget := by
  induction h with
  | nil => rfl
  | cons h _ ih => rw [List.any_cons, List.any_cons, hP _ _ h, ih]

theorem nameFault?_ofAll_eq (h : List.Forall₂ (fun c c' => nameFault? c = nameFault? c') cs cs') :
    nameFault?.ofAll cs = nameFault?.ofAll cs' := by
  induction h with
  | nil => rfl
  | cons h _ ih => rw [nameFault?.ofAll, nameFault?.ofAll, h, ih]

theorem Matches.nameFault?_eq (hR : ∀ q q', R q q' → ∀ i, Subquery.nameFault? (q.nameAt i) =
    Subquery.nameFault? (q'.nameAt i)) (h : Matches R c c') : nameFault? c = nameFault? c' := by
  induction h with
  | role h => simp only [nameFault?, hR _ _ h]
  | globalRole h => simp only [nameFault?, hR _ _ h]
  | related h hlength hinner ih =>
    simp only [nameFault?, hR _ _ h, nameFault?_ofAll_eq (Matches.forall₂ hlength ih),
      any_mentionsTarget_eq (fun _ _ h => Matches.mentionsTarget_eq h) (Matches.forall₂ hlength hinner)]
  | hasAttribute h => simp only [nameFault?, hR _ _ h]

theorem forall₂_factsOfAll (h : List.Forall₂ (fun c c' => List.Forall₂ R c.facts c'.facts) cs cs') :
    List.Forall₂ R (factsOfAll cs) (factsOfAll cs') := by
  induction h with
  | nil => exact .nil
  | cons h _ ih => exact List.rel_append h ih

/-- The queries of clauses that match stand in the relation one by one. -/
theorem Matches.facts (h : Matches R c c') : List.Forall₂ R c.facts c'.facts := by
  induction h with
  | role h => exact .cons h .nil
  | globalRole h => exact .cons h .nil
  | related h hlength _ ih => exact .cons h (forall₂_factsOfAll (Matches.forall₂ hlength ih))
  | hasAttribute h => exact .cons h .nil

theorem forall₂_literalsOfAll
    (h : List.Forall₂ (fun c c' => List.Forall₂ Literal.SameAs c.literals c'.literals) cs cs') :
    List.Forall₂ Literal.SameAs (literalsOfAll cs) (literalsOfAll cs') := by
  induction h with
  | nil => exact .nil
  | cons h _ ih => exact List.rel_append h ih

/-- Clauses that match compare with the same literals. -/
theorem Matches.literals (hR : ∀ q q', R q q' → ∀ r, Literal.SameAs ⟨.text r, q.comparedTypeAt 1 (.text r)⟩
    ⟨.text r, q'.comparedTypeAt 1 (.text r)⟩) (h : Matches R c c') :
    List.Forall₂ Literal.SameAs c.literals c'.literals := by
  have hactor : ∀ {q q' : Subquery} {subject : Literal} {roles : List String}, R q q' →
      List.Forall₂ Literal.SameAs (subject :: roleLiterals q roles) (subject :: roleLiterals q' roles) := by
    intro q q' subject roles h
    refine .cons (.refl subject) ?_
    rw [roleLiterals, roleLiterals, List.forall₂_map_left_iff, List.forall₂_map_right_iff, List.forall₂_same]
    exact fun r _ => hR _ _ h r
  induction h with
  | role h => exact hactor h
  | globalRole h => exact hactor h
  | related h hlength _ ih => exact forall₂_literalsOfAll (Matches.forall₂ hlength ih)
  | hasAttribute h => exact .nil

end Clause

/-! ## Conditions -/

namespace Condition

variable {db : Database} {c c' : Condition}

/-- The conditions have the same shape, and their queries answer with the same rows. -/
def AnswersAlike (db : Database) (c c' : Condition) : Prop :=
  List.Forall₂ (Clause.Matches (Subquery.AnswersAlike db)) c c'

theorem bindFault?_congr {ls ls' : List Literal} (h : List.Forall₂ Literal.SameAs ls ls') :
    bindFault? ls = bindFault? ls' := by
  induction h with
  | nil => rfl
  | cons h _ ih =>
    unfold bindFault? at *
    rw [List.findSome?_cons, List.findSome?_cons, h.bind, ih]

namespace AnswersAlike

variable (h : c.AnswersAlike db c')

include h

theorem symm : Condition.AnswersAlike db c' c :=
  (List.Forall₂.imp (fun _ _ hc => hc.flip fun _ _ hq => hq.symm) h).flip

theorem mentionsTarget_eq : c.mentionsTarget = c'.mentionsTarget :=
  Clause.any_mentionsTarget_eq (fun _ _ hc => hc.mentionsTarget_eq) h

theorem nameFault?_eq : Clause.nameFault?.ofAll c = Clause.nameFault?.ofAll c' :=
  Clause.nameFault?_ofAll_eq (h.imp fun _ _ hc => hc.nameFault?_eq fun _ _ hq => hq.nameFault?_eq)

theorem facts : List.Forall₂ (Subquery.AnswersAlike db) (Clause.factsOfAll c) (Clause.factsOfAll c') :=
  Clause.forall₂_factsOfAll (h.imp fun _ _ hc => hc.facts)

theorem literals : List.Forall₂ Literal.SameAs (Clause.literalsOfAll c) (Clause.literalsOfAll c') :=
  Clause.forall₂_literalsOfAll (h.imp fun _ _ hc => hc.literals fun _ _ hq => hq.sameAs_compared)

/-- Each query of the condition can be asked. -/
theorem asks : ∀ q ∈ Clause.factsOfAll c, q.Askable q.columns.length db := by
  intro q hq
  obtain ⟨q', _, hsame⟩ := Outcome.exists_of_mem_right h.facts.flip hq
  exact hsame.asks

theorem holds_imp {value : Literal → Value} (hvalue : ∀ l l', Literal.SameAs l l' → value l = value l') {x : Operand}
    (hx : c.holds db value x = true) : Condition.holds db value x c' = true :=
  Condition.holds_of_matches (h.imp fun _ _ hc => hc.imp fun _ _ hq => hq.includedIn hvalue) hx

theorem holds_eq {value : Literal → Value} (hvalue : ∀ l l', Literal.SameAs l l' → value l = value l') (x : Operand) :
    c.holds db value x = Condition.holds db value x c' :=
  Bool.eq_iff_iff.mpr ⟨h.holds_imp hvalue, h.symm.holds_imp hvalue⟩

theorem hasParameters_eq_false : c.hasParameters = false := by
  rw [hasParameters, List.any_eq_false]
  intro q hq
  simp [(h.asks q hq).parameterless]

theorem runs_eq_true : c.runs db = true :=
  List.all_eq_true.mpr fun q hq => (h.asks q hq).runs

/-- What the filters of the queries compare with can be bound. -/
theorem filters_bind : ∀ l ∈ (Clause.factsOfAll c).filterMap filterLiteral?, l.Binds := by
  intro l hl
  obtain ⟨q, hq, hl⟩ := List.mem_filterMap.mp hl
  exact (h.asks q hq).filter l hl

/-- Apart from what the filters compare with, the literals are the same. -/
theorem own_literals (target : Option Literal) :
    List.Forall₂ Literal.SameAs ((if c.mentionsTarget then target.toList else []) ++ Clause.literalsOfAll c)
      ((if Condition.mentionsTarget c' then target.toList else []) ++ Clause.literalsOfAll c') := by
  rw [h.mentionsTarget_eq]
  exact List.rel_append (List.forall₂_same.mpr fun l _ => .refl l) h.literals

theorem bindFault?_eq (target : Option Literal) :
    bindFault? (c.literals target) = bindFault? (Condition.literals c' target) := by
  have hsplit : ∀ {c c' : Condition}, c.AnswersAlike db c' → bindFault? (c.literals target) =
      bindFault? ((if c.mentionsTarget then target.toList else []) ++ Clause.literalsOfAll c) := by
    intro c c' h
    have hfilters := bindFault?_eq_none h.filters_bind
    unfold bindFault? Condition.literals at *
    rw [List.findSome?_append, hfilters, Option.or_none]
  rw [hsplit h, hsplit h.symm, bindFault?_congr (h.own_literals target)]

theorem allFit_eq (target : Option Literal) :
    allFit (c.literals target) = allFit (Condition.literals c' target) := by
  have hsplit : ∀ {c c' : Condition}, c.AnswersAlike db c' → allFit (c.literals target) =
      allFit ((if c.mentionsTarget then target.toList else []) ++ Clause.literalsOfAll c) := by
    intro c c' h
    have hfilters := allFit_of_binds h.filters_bind
    unfold allFit Condition.literals at *
    rw [List.all_append, hfilters, Bool.and_true]
  exact (hsplit h).trans ((Outcome.all_eq_of_forall₂ (h.own_literals target) fun _ _ hl => by rw [hl.bound]).trans
    (hsplit h.symm).symm)

/-- Where the filters' literals can be read, a database can read all literals of the one if it can those of the
other. -/
theorem isReadable_eq (hfilters : ∀ l ∈ (Clause.factsOfAll c).filterMap filterLiteral?, l.isReadable = true)
    (hfilters' : ∀ l ∈ (Clause.factsOfAll c').filterMap filterLiteral?, l.isReadable = true) :
    c.isReadable = Condition.isReadable c' := by
  have hsplit : ∀ {c : Condition}, (∀ l ∈ (Clause.factsOfAll c).filterMap filterLiteral?, l.isReadable = true) →
      c.isReadable = ((if c.mentionsTarget then Option.toList none else []) ++ Clause.literalsOfAll c).all
        Literal.isReadable := by
    intro c hc
    rw [isReadable, Condition.literals, List.all_append, List.all_eq_true.mpr hc, Bool.and_true]
  exact (hsplit hfilters).trans ((Outcome.all_eq_of_forall₂ (h.own_literals none) fun _ _ hl => hl.readable).trans
    (hsplit hfilters').symm)

end AnswersAlike

end Condition

/-- The tests of conditions of the same shape, whose queries answer with the same rows, come to the same. -/
theorem LocalEvaluator.verdict_congr {db : Database} {c c' : Condition} (h : c.AnswersAlike db c') (target : Literal) :
    verdict c target db = verdict c' target db := by
  unfold verdict Link.Statement.outcomeOn test
  simp only [h.nameFault?_eq, h.hasParameters_eq_false, h.symm.hasParameters_eq_false, h.bindFault?_eq,
    h.runs_eq_true, h.symm.runs_eq_true, h.allFit_eq, h.holds_eq fun _ _ hl => hl.bound]

end RowGuard
