import RowGuard.Proofs.Evaluator.RowSets
import RowGuard.Proofs.Listing.Agreement

/-!
# Decisions depend on the rows of facts

Which queries give the facts makes no difference, as long as the rows are the same: a point check comes to the same,
and so does a listing if its statement can be read with the queries in it (`Listing.decisions_of_alike`). A value with
a null character can be bound but not written: a selection that compares with one can be checked with, and not listed
with (`Shelf.null_filter_is_not_listed`).
-/

namespace RowGuard

open Outcome

/-! ## Plans whose fragments do the same -/

/-- As a filter and as a permission, the fragments do the same to the rows of a table. -/
structure Fragment.ActsAlike (db : Database) (s : Schema) (i : Nat) (f f' : Fragment) : Prop where
  runs : f.runs db s = f'.runs db s
  value : ∀ row, f.valueOn db s i row = f'.valueOn db s i row

namespace Fragment.ActsAlike

variable {db : Database} {s : Schema} {i : Nat} {f f' : Fragment}

theorem admits (h : ActsAlike db s i f f') : f.admits db s i = f'.admits db s i := by
  funext row
  unfold Fragment.admits
  rw [h.value]

theorem grants (h : ActsAlike db s i f f') (row : Row) : f.grants db s i row = f'.grants db s i row := by
  unfold Fragment.grants
  rw [h.value]

end Fragment.ActsAlike

namespace Listing

namespace Plan

variable {p p' : Plan} {db : Database}

/-- The plans are for one subject and the same rows in the same order, and their fragments do the same. -/
structure ActsAlike (db : Database) (p p' : Plan) : Prop where
  subject : p.subject = p'.subject
  extractSelf : p.extractSelf = p'.extractSelf
  mapping : p.mapping = p'.mapping
  order : p.order = p'.order
  read : Fragment.ActsAlike db p'.mapping.table p'.identityPosition p.read p'.read
  extras : List.Forall₂ (fun extra extra' => extra.1 = extra'.1 ∧
    Fragment.ActsAlike db p'.mapping.table p'.identityPosition extra.2 extra'.2) p.extras p'.extras

theorem identityPosition_of_mapping (h : p.mapping = p'.mapping) : p.identityPosition = p'.identityPosition := by
  rw [identityPosition, identityPosition, h]

theorem rowLe_of_mapping (h : p.mapping = p'.mapping) (a b : Row) (keys : List SortKey) :
    p.rowLe a b keys = p'.rowLe a b keys := by
  have hkey : ∀ column descending a b, p.keyLe column descending a b = p'.keyLe column descending a b := by
    intro column descending a b
    rw [keyLe, keyLe, h]
  induction keys with
  | nil => rfl
  | cons key rest ih => rw [rowLe, rowLe, hkey, hkey, ih]

theorem sorted_of_mapping (h : p.mapping = p'.mapping) (horder : p.order = p'.order) (rows : List Row) :
    p.sorted rows = p'.sorted rows := by
  have hrow : (fun a b => p.rowLe a b p.order) = fun a b => p'.rowLe a b p'.order := by
    funext a b
    rw [horder, rowLe_of_mapping h]
  have hkey : p.keyLe p.mapping.identity.name false = p'.keyLe p'.mapping.identity.name false := by
    funext a b
    rw [keyLe, keyLe, h]
  rw [sorted, sorted, hrow, hkey, horder]

namespace ActsAlike

variable (h : p.ActsAlike db p')

include h

theorem runs_eq : p.runs db = p'.runs db := by
  have hfragments : (p.fragments.all fun f => f.runs db p'.mapping.table) =
      p'.fragments.all fun f => f.runs db p'.mapping.table := by
    have hextras := all_eq_of_forall₂ (f := fun extra => extra.2.runs db p'.mapping.table)
      (g := fun extra => extra.2.runs db p'.mapping.table) h.extras fun _ _ hextra => hextra.2.runs
    rw [fragments, fragments, List.all_cons, List.all_cons, h.read.runs, List.all_map, List.all_map]
    exact congrArg _ hextras
  have hsorts : p.sorts = p'.sorts := by
    funext key
    rw [sorts, sorts, h.mapping]
  rw [runs, runs, h.mapping, h.order, hsorts, hfragments]

theorem readable_eq : p.readable db = p'.readable db := by
  unfold readable
  rw [h.mapping, identityPosition_of_mapping h.mapping, h.read.admits]
  cases db.table? p'.mapping.table.name with
  | none => rfl
  | some t => exact sorted_of_mapping h.mapping h.order _

theorem vector_eq : p.vector db = p'.vector db := by
  funext row
  have hgrants : (p.extras.map fun extra =>
        (extra.1, Data.bool (extra.2.grants db p'.mapping.table p'.identityPosition row))) =
      p'.extras.map fun extra =>
        (extra.1, Data.bool (extra.2.grants db p'.mapping.table p'.identityPosition row)) :=
    (map_eq_of_forall₂ h.extras fun _ _ hextra => by rw [hextra.1, hextra.2.grants]).symm
  unfold vector
  rw [h.mapping, identityPosition_of_mapping h.mapping, hgrants]

/-- Plans for the same rows with fragments that do the same select the same. -/
theorem select_eq : p.select db = p'.select db := by
  rw [select, select, h.runs_eq, h.readable_eq, h.vector_eq]

theorem listing_eq (rows : List PermissionVector) : p.listing rows = p'.listing rows := by
  rw [listing, listing, h.extractSelf, h.subject, h.mapping]

end ActsAlike

end Plan

/-! ## Listings of books with the same rows -/

open LocalEvaluator

variable {ν : Type} [BEq ν] [ReflBEq ν] [Name ν] {e : LocalEvaluator ν} {facts' : FactBook} {config : Config}
  {sys : System} {bind : Bind} {db : Database} {s : Subject} {type : Data} {m : Mapping} {i : Nat}

/-- The texts of conditions with the same rows have a null character both or neither. -/
theorem unbroken_iff_of_alike {c c' : Condition} {columnRef : Data} {d : Dialect} {sql sql' : String}
    (halike : c.AnswersAlike db c') (hqueries : ∀ q ∈ Clause.factsOfAll c, q.Unbroken)
    (hqueries' : ∀ q ∈ Clause.factsOfAll c', q.Unbroken) (h : c.forColumn d columnRef = .ok sql)
    (h' : Condition.forColumn d columnRef c' = .ok sql') : Sql.Unbroken sql ↔ Sql.Unbroken sql' := by
  obtain ⟨_, _, htext⟩ := Condition.forColumn_eq_ok_iff.mp h
  obtain ⟨_, _, htext'⟩ := Condition.forColumn_eq_ok_iff.mp h'
  have hliterals : (∀ l ∈ Clause.literalsOfAll c, l.Unbroken d) ↔ ∀ l ∈ Clause.literalsOfAll c', l.Unbroken d :=
    forall_mem_iff_of_forall₂ halike.literals fun _ _ hl => hl.unbroken_iff d
  rw [Condition.unbroken_render_iff hqueries htext, Condition.unbroken_render_iff hqueries' htext',
    halike.mentionsTarget_eq, hliterals]

theorem filters_readable {action : Data} {c : Condition} (hc : e.condition config s action type = .ok c)
    (hinlines : e.facts.Inlines) :
    ∀ l ∈ (Clause.factsOfAll c).filterMap Condition.filterLiteral?, l.isReadable = true := by
  have hqueries := forall_of_queries (Q := fun q => ∀ l, Condition.filterLiteral? q = some l → l.isReadable = true) hc
    fun q hq types => (hinlines q hq).toSubquery_readable types
  intro l hl
  obtain ⟨q, hq, hl⟩ := List.mem_filterMap.mp hl
  exact hqueries q hq l hl

/-- What an action compiles to does the same with both books. -/
theorem actsAlike_placed {action : String} {c c' : Condition} {sql sql' : String}
    (halike : e.facts.AnswersAlike db facts') (hinlines : e.facts.Inlines) (hinlines' : facts'.Inlines)
    (hc : Compiles e config s type m action c sql) (hc' : Compiles (e.withFacts facts') config s type m action c' sql') :
    Fragment.ActsAlike db m.table i (placed type m action c sql) (placed type m action c' sql') := by
  obtain ⟨c'', hcondition, hsame⟩ := condition_of_alike halike hc.condition
  obtain rfl : c' = c'' := Except.ok.inj (hc'.condition.symm.trans hcondition)
  have hqueries := forall_of_queries hc.condition fun q hq types => (hinlines q hq).toSubquery_unbroken types
  have hqueries' := forall_of_queries hc'.condition fun q hq types => (hinlines' q hq).toSubquery_unbroken types
  have hreadable := filters_readable hc.condition hinlines
  have hreadable' := filters_readable hc'.condition hinlines'
  have hnull : sql.toList.contains '\x00' = sql'.toList.contains '\x00' := by
    rw [Bool.eq_iff_iff, List.contains_iff_mem, List.contains_iff_mem]
    exact not_iff_not.mp (unbroken_iff_of_alike hsame hqueries hqueries' hc.text hc'.text)
  constructor
  · rw [runs_placed, runs_placed, hnull, hsame.isReadable_eq hreadable hreadable',
      hsame.runs_eq_true, hsame.symm.runs_eq_true, hsame.mentionsTarget_eq]
  · intro row
    show Value.int (if c.holds db Literal.written (m.table.operand row i) then 1 else 0) =
      Value.int (if c'.holds db Literal.written (m.table.operand row i) then 1 else 0)
    rw [hsame.holds_eq fun _ _ hl => hl.written]

/-- An action compiles with the book, and with the other one in its place. -/
structure CompilesWithBoth (e : LocalEvaluator ν) (facts' : FactBook) (config : Config) (s : Subject) (type : Data)
    (m : Mapping) (action : String) : Prop where
  first : ∃ c sql, Compiles e config s type m action c sql
  second : ∃ c sql, Compiles (e.withFacts facts') config s type m action c sql

theorem exists_fragments_of_alike (i : Nat) {action : String} (halike : e.facts.AnswersAlike db facts')
    (hinlines : e.facts.Inlines) (hinlines' : facts'.Inlines) (h : CompilesWithBoth e facts' config s type m action) :
    ∃ f f', fragment e config s type m action = .ok f ∧
      fragment (e.withFacts facts') config s type m action = .ok f' ∧ Fragment.ActsAlike db m.table i f f' := by
  obtain ⟨c, sql, hc⟩ := h.first
  obtain ⟨c', sql', hc'⟩ := h.second
  exact ⟨_, _, fragment_eq_ok_iff.mpr ⟨c, sql, hc, rfl⟩, fragment_eq_ok_iff.mpr ⟨c', sql', hc', rfl⟩,
    actsAlike_placed halike hinlines hinlines' hc hc'⟩

theorem exists_furtherFragments_of_alike (i : Nat) {actions : List String} (halike : e.facts.AnswersAlike db facts')
    (hinlines : e.facts.Inlines) (hinlines' : facts'.Inlines)
    (h : ∀ a ∈ actions, CompilesWithBoth e facts' config s type m a) :
    ∃ extras extras', furtherFragments e config s type m actions = .ok extras ∧
      furtherFragments (e.withFacts facts') config s type m actions = .ok extras' ∧
      List.Forall₂ (fun extra extra' => extra.1 = extra'.1 ∧ Fragment.ActsAlike db m.table i extra.2 extra'.2)
        extras extras' := by
  have hfragments := fun a ha => exists_fragments_of_alike i halike hinlines hinlines' (h a ha)
  obtain ⟨extras, hextras⟩ : ∃ extras, furtherFragments e config s type m actions = .ok extras := by
    refine exists_mapM_eq_ok fun a ha => ?_
    obtain ⟨f, _, hf, _, _⟩ := hfragments a ha
    exact ⟨_, congrArg (Except.map (Prod.mk (Data.text a))) hf⟩
  refine ⟨extras, ?_⟩
  have hrelated := exists_mapM_related (R := fun extra extra' : Data × Fragment => extra.1 = extra'.1 ∧
    Fragment.ActsAlike db m.table i extra.2 extra'.2) (g := fun a =>
      (fragment (e.withFacts facts') config s type m a).map (Prod.mk (Data.text a))) ?_ hextras
  · obtain ⟨extras', hextras', hall⟩ := hrelated
    exact ⟨extras', hextras, hextras', hall⟩
  · intro a ha extra hextra
    obtain ⟨f, f', hf, hf', hacts⟩ := hfragments a ha
    obtain rfl : (Data.text a, f) = extra := by
      rw [hf] at hextra
      exact Except.ok.inj hextra
    exact ⟨(.text a, f'), congrArg (Except.map (Prod.mk (Data.text a))) hf', rfl, hacts⟩

/-- With both books planning fails for one reason, or gives plans that do the same. -/
theorem planned_bind_of_alike {registry : Registry} {extras : List String} {extractSelf : Bool} {β : Type}
    {k : Plan → Except Fault β} (halike : e.facts.AnswersAlike db facts') (hinlines : e.facts.Inlines)
    (hinlines' : facts'.Inlines)
    (hcompiles : ∀ m, registry.lookup type = .ok m → ∀ a ∈ readPermission :: extras,
      CompilesWithBoth e facts' config s type m a)
    (hk : ∀ p p' : Plan, p.ActsAlike db p' → k p = k p') :
    (planned e config registry s type extras extractSelf >>= k) =
      (planned (e.withFacts facts') config registry s type extras extractSelf >>= k) := by
  unfold planned
  cases hlookup : registry.lookup type with
  | error f => simp only [error_bind]
  | ok m =>
    have hboth := hcompiles m hlookup
    simp only [ok_bind]
    cases hcheck : Request.check { type, extras := extras.map Data.text, extractSelf } s with
    | error f => simp only [error_bind]
    | ok _ =>
      let i := (m.table.position? m.identity.name).getD 0
      obtain ⟨read, read', hread, hread', hreads⟩ := exists_fragments_of_alike i halike hinlines hinlines'
        (hboth readPermission List.mem_cons_self)
      obtain ⟨further, further', hfurther, hfurther', hacts⟩ := exists_furtherFragments_of_alike i halike hinlines
        hinlines' fun a ha => hboth a (List.mem_cons_of_mem _ ha)
      simp only [hread, hread', hfurther, hfurther', ok_bind, pure_eq_ok]
      exact hk _ _ ⟨rfl, rfl, rfl, rfl, hreads, hacts⟩

/-- A listing comes to the same with facts that have the same rows, where their queries can stand in a statement. -/
theorem list_of_alike (given : Option Config) {extras : List String} {extractSelf : Bool} {order : List SortKey}
    (hsees : bind.Sees sys db) (halike : e.facts.AnswersAlike db facts') (hinlines : e.facts.Inlines)
    (hinlines' : facts'.Inlines)
    (hcompiles : ∀ m, sys.globals.registry.lookup type = .ok m → ∀ a ∈ readPermission :: extras,
      CompilesWithBoth e facts' (e.configIn sys) s type m a) :
    (list (e.withFacts facts').toEvaluator bind given s
        { type, extras := extras.map Data.text, extractSelf, order } sys).1 =
      (list e.toEvaluator bind given s { type, extras := extras.map Data.text, extractSelf, order } sys).1 := by
  have hconfig : (e.withFacts facts').configIn sys = e.configIn sys := rfl
  have hordered : ∀ (outcome : Except Fault Plan) (k : Plan → Except Fault Listing),
      (ordered order outcome >>= k) = outcome >>= fun p => k { p with order } := by
    intro outcome k
    cases outcome <;> rfl
  rw [list_outcome_of_order given hsees, list_outcome_of_order given hsees, hconfig, hordered, hordered]
  refine (planned_bind_of_alike halike hinlines hinlines' hcompiles ?_).symm
  intro p p' hp
  have hp' : ({ p with order } : Plan).ActsAlike db { p' with order } :=
    ⟨hp.subject, hp.extractSelf, hp.mapping, rfl, hp.read, hp.extras⟩
  simp only [hp'.select_eq, hp'.listing_eq]
  rw [hp.mapping]

/-- Decisions depend on the rows of facts alone. With facts that have the same rows a point check comes to the same
wherever the action compiles, and a listing where it compiles with both and no query breaks its statement. -/
theorem decisions_of_alike (hsees : bind.Sees sys db) (halike : e.facts.AnswersAlike db facts') :
    (∀ s action r, (∃ c, e.condition (e.configIn sys) s action r.type = .ok c) →
      (e.withFacts facts').answer bind sys s action r = e.answer bind sys s action r) ∧
    (e.facts.Inlines → facts'.Inlines → ∀ given s type extras extractSelf order,
      (∀ m, sys.globals.registry.lookup type = .ok m → ∀ a ∈ readPermission :: extras,
        CompilesWithBoth e facts' (e.configIn sys) s type m a) →
      (list (e.withFacts facts').toEvaluator bind given s
          { type, extras := extras.map Data.text, extractSelf, order } sys).1 =
        (list e.toEvaluator bind given s { type, extras := extras.map Data.text, extractSelf, order } sys).1) := by
  constructor
  · rintro s action r ⟨c, hc⟩
    exact answer_of_alike halike hsees hc
  · intro hinlines hinlines' given s type extras extractSelf order hcompiles
    exact list_of_alike given hsees halike hinlines hinlines' hcompiles

end Listing

end RowGuard

namespace RowGuard.Shelf

open Listing Outcome

/-- Facts that take the roles of documents from a query. -/
def withRoles (q : FactQuery) : FactBook := { facts .text with roles := [(.text "Doc", q)] }

theorem role_withRoles {q : FactQuery} (hq : q.Sized 3) {actor : Data} (hactor : actor.isKey = true) :
    (withRoles q).role actor (.text "Doc") =
      .ok (q.toSubquery [(withRoles q).idType actor, some .string, some .text]) := by
  have hdoc : (withRoles q).idType (.text "Doc") = some .text := by
    simp [FactBook.idType, withRoles, facts, List.lookup_cons]
  rw [FactBook.role_of_lookup hactor (by simp [withRoles]) hq, hdoc]

/-- The facts have the same rows if the queries have. -/
theorem withRoles_alike {q q' : FactQuery} {db : Database} (hq : q.Sized 3) (hq' : q'.Sized 3)
    (h : ∀ t, (q.toSubquery [t, some .string, some .text]).AnswersAlike db
      (q'.toSubquery [t, some .string, some .text])) :
    (withRoles q).AnswersAlike db (withRoles q') where
  idType _ := rfl
  role {actor type fact} hfact := by
    obtain ⟨r, hfound, hfact'⟩ := bind_eq_ok_iff.mp hfact
    obtain ⟨_, hkey, _⟩ := bind_eq_ok_iff.mp hfact'
    have hactor : actor.isKey = true := by
      unfold Data.requireKey at hkey
      split at hkey
      case isTrue hactor => exact hactor
      case isFalse => cases hkey
    obtain ⟨entry, hentry, hsame⟩ := FactBook.exists_mem_of_lookup (FactBook.exists_of_found hfound)
    obtain rfl : type = .text "Doc" := by
      obtain rfl := List.mem_singleton.mp hentry
      simpa [Data.beq_text] using hsame
    rw [role_withRoles hq hactor] at hfact
    obtain rfl := Except.ok.inj hfact
    exact ⟨_, role_withRoles hq' hactor, h _⟩
  globalRole {actor fact} hfact := by
    obtain ⟨r, hfound, _⟩ := bind_eq_ok_iff.mp hfact
    simpa [withRoles, facts] using FactBook.exists_of_found hfound
  relation {type relation other fact} hfact := by
    obtain ⟨r, hfound, _⟩ := bind_eq_ok_iff.mp hfact
    simpa [withRoles, facts] using FactBook.exists_of_found hfound
  attr {name type fact} hfact := by
    obtain ⟨r, hfound, _⟩ := bind_eq_ok_iff.mp hfact
    simpa [withRoles, facts] using FactBook.exists_of_found hfound

/-- The query for roles as a text, which gives other names to its columns. -/
def roleText : FactQuery :=
  .sql "SELECT DISTINCT actor AS who, role AS what, doc AS which FROM doc_roles"
    [.text "who", .text "what", .text "which"]

theorem sized_roleText : roleText.Sized 3 where
  arity := rfl
  keys _ := rfl

/-- The roles that the text gives, for actors whose identities have a type. -/
def textFact (t : Option ColumnType) : Subquery := roleText.toSubquery [t, some .string, some .text]

/-- What the text selects. -/
def roleScan : Scan :=
  ⟨"doc_roles", [("actor", "who", false), ("role", "what", false), ("doc", "which", false)], none⟩

/-- The reader's role on the document, as facts give it. -/
def readerRow : List Operand := [⟨.text "07", .text⟩, ⟨.text "reader", .text⟩, ⟨.text "d", .text⟩]

theorem scan_roleText : Scan.ofQuery roleText = .ok roleScan ∧ roleText.hasParameters = false := by
  decide +kernel

/-- The rows of the text are those of its selection. -/
theorem rows_textFact {db : Database} {rows : List (List Operand)} (t : Option ColumnType)
    (h : Scan.rows? db roleScan ["who", "what", "which"] = some rows) : (textFact t).rows? db = .ok rows := by
  have hscan : Scan.ofQuery (textFact t).query = .ok roleScan := scan_roleText.1
  have hrows : Scan.rows? db roleScan ((textFact t).columns.map (·.1.plain)) = some rows := h
  rw [Subquery.rows?, hscan, ok_bind, hrows]

/-- A query for three columns of texts is like the text if it has the same rows. -/
theorem textFact_alike {q : Subquery} {db : Database} {t : Option ColumnType}
    (hlength : q.columns.length = 3) (hasks : q.Askable 3 db) (htype : q.typeAt 1 ≠ some .uuid)
    (hrows : (textFact none).rows? db = .ok (q.rows db)) : q.AnswersAlike db (textFact t) where
  asks := hlength ▸ hasks
  asks' := {
    named := by
      intro i hi
      have hcases : i = 0 ∨ i = 1 ∨ i = 2 := by
        have hi : i < 3 := hi
        omega
      rcases hcases with rfl | rfl | rfl <;> rfl
    parameterless := by
      exact scan_roleText.2
    runs := congrArg Except.toBool hrows
    filter := by
      intro l hl
      cases hl }
  columns := hlength.symm
  rows row := by
    have hrows' : (textFact t).rows? db = .ok (q.rows db) := hrows
    have hsame : (textFact t).rows db = q.rows db := by
      rw [Subquery.rows, hrows']
    rw [hsame]
  uuid := by
    have htext : (textFact t).typeAt 1 = some .string := rfl
    simp [htype, htext]

theorem roleText_alike : (withRoles (.selection roleQuery)).AnswersAlike database (withRoles roleText) := by
  refine withRoles_alike (FactQuery.sized_selection rfl) sized_roleText fun t => ?_
  have hasks : roleFact.Askable 3 database := by
    refine ⟨by decide, by decide, by decide, ?_⟩
    intro l hl
    cases hl
  have hrows : roleFact.rows database = [readerRow] := by rfl
  have hscanned : Scan.rows? database roleScan ["who", "what", "which"] = some [readerRow] := by rfl
  have hlike : roleFact.AnswersAlike database (textFact t) :=
    textFact_alike rfl hasks (by decide) (hrows ▸ rows_textFact none hscanned)
  exact hlike

theorem unbroken_roleText : roleText.Unbroken :=
  ⟨by decide, by decide⟩

theorem inlines_roleText : (withRoles roleText).Inlines := by
  intro q hq
  obtain rfl : q = roleText := by simpa [FactBook.queries, withRoles, facts] using hq
  refine ⟨unbroken_roleText, ?_⟩
  intro s column type value hs
  cases hs

theorem inlines_roleQuery : (withRoles (.selection roleQuery)).Inlines := by
  intro q hq
  obtain rfl : q = .selection roleQuery := by simpa [FactBook.queries, withRoles, facts] using hq
  constructor
  · refine ⟨by decide, by decide, ?_⟩
    intro f hf
    cases hf
  · intro s column type value hs hfilter
    obtain rfl := FactQuery.selection.inj hs
    cases hfilter

/-- The evaluator with the roles of documents from a query. -/
def evaluatorOf (q : FactQuery) : LocalEvaluator := { policy, facts := withRoles q }

/-- The condition for reading a document, with roles from a query. -/
def readableBy (q : FactQuery) : Condition :=
  [.role (q.toSubquery [some .text, some .string, some .text]) ⟨.text "07", some .text⟩ ["reader"]]

/-- The condition as it stands in a listing. -/
def placedBy (q : FactQuery) (sql : String) : Fragment :=
  placed (.text "Doc") mapping readPermission (readableBy q) sql

theorem condition_withRoles {q : FactQuery} (hq : q.Sized 3) :
    (evaluatorOf q).condition {} reader (.text "read") (.text "Doc") = .ok (readableBy q) := by
  have hid : (withRoles q).idType policy.actorType = some .text := by
    simp [FactBook.idType, withRoles, facts, policy]
  have hfact := role_withRoles hq (rfl : policy.actorType.isKey = true)
  rw [hid] at hfact
  have hliteral : (withRoles q).actorLiteral policy reader = ⟨.text "07", some .text⟩ := by
    rw [FactBook.actorLiteral, hid]
    rfl
  exact (condition_of_fact hfact).trans (congrArg (fun l => Except.ok [Clause.role _ l ["reader"]]) hliteral)

/-- Reading compiles with the text, to a condition whose own text is read to its end. -/
theorem compiles_roleText :
    ∃ sql, Compiles (evaluatorOf roleText) {} reader (.text "Doc") mapping readPermission (readableBy roleText) sql ∧
      Sql.Unbroken sql := by
  obtain ⟨sql, hsql⟩ : ∃ sql, (readableBy roleText).forColumn .sqlite (.text "docs.id") = .ok sql := ⟨_, rfl⟩
  obtain ⟨_, _, hrender⟩ := Condition.forColumn_eq_ok_iff.mp hsql
  have hfacts : ∀ q ∈ Clause.factsOfAll (readableBy roleText), q.Unbroken := by
    intro q hq
    obtain rfl := List.mem_singleton.mp hq
    exact ⟨unbroken_roleText, by decide⟩
  have hliterals : ∀ l ∈ Clause.literalsOfAll (readableBy roleText), l.Unbroken .sqlite := by
    show ∀ l ∈ [(⟨.text "07", some .text⟩ : Literal), ⟨.text "reader", some .string⟩], l.Unbroken .sqlite
    simp +decide [Literal.unbroken_text_iff]
  have htarget : Sql.Unbroken (Sql.verbatim .sqlite (Data.text "docs.id").plain) := by
    rw [Sql.verbatim_sqlite]
    decide
  exact ⟨sql, ⟨condition_withRoles sized_roleText, hsql⟩,
    (Condition.unbroken_render_iff hfacts hrender).mpr ⟨fun _ => htarget, hliterals⟩⟩

/-- Decisions about documents are the same with the text as with the query. -/
theorem decisions_of_roleText :
    (Bind.engine true).Sees system database ∧
      (withRoles (.selection roleQuery)).AnswersAlike database (withRoles roleText) ∧
      (∃ c, (evaluatorOf (.selection roleQuery)).condition {} reader (.text "read") (.text "Doc") = .ok c) ∧
      (withRoles (.selection roleQuery)).Inlines ∧ (withRoles roleText).Inlines ∧
      (∀ a ∈ readPermission :: ["read"], CompilesWithBoth (evaluatorOf (.selection roleQuery)) (withRoles roleText)
        {} reader (.text "Doc") mapping a) ∧
      (evaluatorOf roleText).answer (.engine true) system reader (.text "read") ⟨.text "Doc", .text "d"⟩ =
        (evaluatorOf (.selection roleQuery)).answer (.engine true) system reader (.text "read")
          ⟨.text "Doc", .text "d"⟩ ∧
      (list (evaluatorOf roleText).toEvaluator (.engine true) none reader
          { type := .text "Doc", extras := ["read"].map Data.text } system).1 =
        (list (evaluatorOf (.selection roleQuery)).toEvaluator (.engine true) none reader
          { type := .text "Doc", extras := ["read"].map Data.text } system).1 := by
  have hcondition := condition_withRoles (FactQuery.sized_selection rfl : (FactQuery.selection roleQuery).Sized 3)
  have hcompiles : ∀ a ∈ readPermission :: ["read"], CompilesWithBoth (evaluatorOf (.selection roleQuery))
      (withRoles roleText) {} reader (.text "Doc") mapping a := by
    intro a ha
    obtain rfl : a = readPermission := by simpa [readPermission] using ha
    obtain ⟨sql, hc, _⟩ := compiles_roleText
    exact ⟨⟨_, _, hcondition, compiles_text⟩, _, sql, hc⟩
  obtain ⟨hanswer, hlist⟩ := decisions_of_alike (e := evaluatorOf (.selection roleQuery)) sees_database roleText_alike
  refine ⟨sees_database, roleText_alike, ⟨_, hcondition⟩, inlines_roleQuery, inlines_roleText, hcompiles,
    hanswer reader (.text "read") ⟨.text "Doc", .text "d"⟩ ⟨_, hcondition⟩,
    hlist inlines_roleQuery inlines_roleText none reader (.text "Doc") ["read"] false [] ?_⟩
  intro m hm
  obtain rfl := Except.ok.inj (hm.symm.trans lookup_doc)
  exact hcompiles

/-! ### A value that cannot be written -/

/-- Roles with the shelf of the document. -/
def shelvedRoles : Schema := { documentRoles with columns := documentRoles.columns ++ [{ name := "shelf", type := .text }] }

/-- The only document stands on a shelf whose name has a null character. -/
def shelved : Database :=
  ⟨[⟨documents, [[.text "d"]]⟩,
    ⟨shelvedRoles, [[.text "07", .text "reader", .text "d", .text "a\x00b"]]⟩]⟩

def shelvedSystem : System := { system with disk := shelved }

/-- The query for the roles of the documents on that shelf. -/
def shelfQuery : FactQuery := .selection { roleQuery with filter := some (.equals "shelf" (some .text) (.text "a\x00b")) }

theorem sized_shelfQuery : shelfQuery.Sized 3 := FactQuery.sized_selection rfl

theorem scanned_shelved : Scan.rows? shelved roleScan ["who", "what", "which"] = some [readerRow] := by
  rfl

theorem shelfQuery_alike : (withRoles shelfQuery).AnswersAlike shelved (withRoles roleText) := by
  refine withRoles_alike sized_shelfQuery sized_roleText fun t => ?_
  have hasks : (shelfQuery.toSubquery []).Askable 3 shelved := by
    refine ⟨by decide, by decide, by decide, ?_⟩
    intro l hl
    obtain rfl := Option.some.inj hl
    exact ⟨rfl, rfl⟩
  have hrows : (shelfQuery.toSubquery []).rows shelved = [readerRow] := by rfl
  have hlike : (shelfQuery.toSubquery []).AnswersAlike shelved (textFact t) :=
    textFact_alike rfl hasks (by decide) (hrows ▸ rows_textFact none scanned_shelved)
  exact hlike

/-- What the filter of the query compares with breaks the text of the condition. -/
theorem compiles_shelfQuery :
    ∃ sql, Compiles (evaluatorOf shelfQuery) {} reader (.text "Doc") mapping readPermission
      (readableBy shelfQuery) sql ∧ ¬ Sql.Unbroken sql := by
  have hliteral : ¬ Sql.Unbroken (Sql.textLiteral .sqlite "a\x00b") := by decide
  obtain ⟨sql, hsql, hbroken⟩ : ∃ sql, (readableBy shelfQuery).forColumn .sqlite (.text "docs.id") = .ok sql ∧
      ¬ Sql.Unbroken sql := by
    refine ⟨_, rfl, ?_⟩
    -- the value that the filter compares with is one piece of the text
    simp only [joinAlternatives, readableBy, List.isEmpty_cons, Bool.false_eq_true, if_false, List.length_singleton,
      ne_eq, not_true, decide_false, Bool.false_and, String.intercalate_singleton, Sql.unbroken_append, hliteral,
      and_false, false_and, not_false_eq_true]
  exact ⟨sql, ⟨condition_withRoles sized_shelfQuery, hsql⟩, hbroken⟩

/-- The document as a listing shows it. -/
def listed : PermissionVector := ⟨.text "d", [("id", .text "d")], []⟩

theorem select_shelved (f : Fragment) :
    (Plan.mk reader mapping f [] [] false).select shelved =
      if f.runs shelved documents then .ok (if f.admits shelved documents 0 [.text "d"] then [listed] else [])
      else .error (.sql .operational) := by
  have hruns : (Plan.mk reader mapping f [] [] false).runs shelved = f.runs shelved documents := by
    show (true && true && (f.runs shelved documents && true)) = _
    rw [Bool.and_self, Bool.true_and, Bool.and_true]
  have htable : shelved.table? mapping.table.name = some ⟨documents, [[.text "d"]]⟩ := rfl
  have hplace : mapping.table.position? mapping.identity.name = some 0 := by decide
  obtain ⟨hperm, _⟩ := readable_of_table (p := ⟨reader, mapping, f, [], [], false⟩) rfl htable hplace
    (by simp [Value.IsOrdered])
  have hfilter : [[Value.text "d"]].filter (f.admits shelved documents 0) =
      bif f.admits shelved documents 0 [.text "d"] then [[.text "d"]] else [] := List.filter_singleton
  rw [Plan.select, hruns]
  congr 1
  cases hadmits : f.admits shelved documents 0 [.text "d"] with
  | false =>
    have hnone : (Plan.mk reader mapping f [] [] false).readable shelved = [] := by
      rw [hadmits] at hfilter
      exact List.perm_nil.mp (hperm.trans (.of_eq hfilter))
    rw [hnone]
    rfl
  | true =>
    have hone : (Plan.mk reader mapping f [] [] false).readable shelved = [[.text "d"]] := by
      rw [hadmits] at hfilter
      exact List.perm_singleton.mp (hperm.trans (.of_eq hfilter))
    rw [hone]
    rfl

/-- What a listing of documents comes to, with roles from a query. -/
theorem list_withRoles {q : FactQuery} {sql : String}
    (hc : Compiles (evaluatorOf q) {} reader (.text "Doc") mapping readPermission (readableBy q) sql) :
    (list (evaluatorOf q).toEvaluator (.engine true) none reader { type := .text "Doc" } shelvedSystem).1 =
      (do
        let vs ← Scope.report (operation (.text "Doc"))
          ((Plan.mk reader mapping (placedBy q sql) [] [] false).select shelved)
        return ⟨vs, none⟩) := by
  have hsees : (Bind.engine true).Sees shelvedSystem shelved := ⟨rfl, rfl⟩
  have hplanned : planned (evaluatorOf q) {} shelvedSystem.globals.registry reader (.text "Doc") [] false =
      .ok ⟨reader, mapping, placedBy q sql, [], [], false⟩ := by
    have hlookup : shelvedSystem.globals.registry.lookup (.text "Doc") = .ok mapping := lookup_doc
    unfold planned
    rw [hlookup, ok_bind, fragment_eq_ok_iff.mpr ⟨_, sql, hc, rfl⟩]
    rfl
  refine (list_outcome none hsees [] false).trans ?_
  show (planned (evaluatorOf q) {} shelvedSystem.globals.registry reader (.text "Doc") [] false >>= _) = _
  rw [hplanned]
  rfl

/-- With the query a listing fails, for its statement ends at the null character; with the text, which gives the same
rows, it has the document. -/
theorem null_filter_is_not_listed :
    (withRoles shelfQuery).AnswersAlike shelved (withRoles roleText) ∧
      CompilesWithBoth (evaluatorOf shelfQuery) (withRoles roleText) {} reader (.text "Doc") mapping readPermission ∧
      (list (evaluatorOf shelfQuery).toEvaluator (.engine true) none reader { type := .text "Doc" } shelvedSystem).1 =
        .error (.dataAccess (operation (.text "Doc"))) ∧
      (list (evaluatorOf roleText).toEvaluator (.engine true) none reader { type := .text "Doc" } shelvedSystem).1 =
        .ok ⟨[listed], none⟩ := by
  obtain ⟨sql, hc, hbroken⟩ := compiles_shelfQuery
  obtain ⟨sql', hc', hunbroken⟩ := compiles_roleText
  refine ⟨shelfQuery_alike, ⟨⟨_, sql, hc⟩, _, sql', hc'⟩, ?_, ?_⟩
  · have hruns : (placedBy shelfQuery sql).runs shelved documents = false :=
      (runs_placed (m := mapping) readPermission _ sql).trans (by simp [not_not.mp hbroken])
    rw [list_withRoles hc, select_shelved, hruns]
    rfl
  · have hrows : (textFact (some .text)).rows? shelved = .ok [readerRow] := rows_textFact _ scanned_shelved
    have hwhole : (!sql'.toList.contains '\x00') = true := by simpa [Sql.Unbroken] using hunbroken
    have hfacts : (readableBy roleText).runs shelved = true := by
      show ((textFact (some .text)).rows? shelved).toBool && true = true
      rw [hrows]
      rfl
    have husable : isUsableRef mapping.table mapping.columnRef = true := settled_read.usable rfl
    have hruns : (placedBy roleText sql').runs shelved documents = true :=
      (runs_placed (m := mapping) readPermission _ sql').trans (by rw [hwhole, hfacts, husable]; rfl)
    have hadmits : (placedBy roleText sql').admits shelved documents 0 [.text "d"] =
        (readableBy roleText).holds shelved Literal.written (documents.operand [.text "d"] 0) :=
      admits_placed (m := mapping)
    have hholds : (readableBy roleText).holds shelved Literal.written (documents.operand [.text "d"] 0) = true := by
      have hrows' : (textFact (some .text)).rows shelved = [readerRow] := by rw [Subquery.rows, hrows]
      show (((textFact (some .text)).rows shelved).any _ || _) = true
      rw [hrows']
      rfl
    rw [list_withRoles hc', select_shelved, hruns, hadmits, hholds]
    rfl

end RowGuard.Shelf
