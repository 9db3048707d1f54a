import RowGuard.Proofs.Access.Exactness
import RowGuard.Proofs.Condition.Writing
import RowGuard.Proofs.Database.Order
import RowGuard.Proofs.Listing.Plan
import RowGuard.Proofs.Outcome

/-!
# Listings and point checks

A listing of the local evaluator has exactly the rows that a point check would allow to read, and shows on
each of them the permissions that point checks would allow.
-/

namespace RowGuard

open Outcome

/-- The identity of a row as a listing shows it. -/
def Mapping.identityOf (m : Mapping) (row : Row) : Data :=
  match m.table.read row with
  | .ok fields =>
    ((fields.map fun field => (field.1, Data.scalar field.2)).lookup m.identity.name).getD .null
  | .error _ => .null

/-- A listed row shows what is stored in a row of the table. -/
structure PermissionVector.Shows (v : PermissionVector) (m : Mapping) (row : Row) : Prop where
  fields : ∃ fields, m.table.read row = .ok fields ∧
    v.fields = fields.map fun field => (field.1, Data.scalar field.2)
  identity : v.identity = m.identityOf row

/-- A permission that is found on a row is answered as it was found. -/
theorem PermissionVector.allows_of_lookup (v : PermissionVector) {a : String} {b : Bool}
    (h : v.permissions.lookup (.text a) = some (.bool b)) : v.allows (.text a) = .ok (.bool b) := by
  show Except.ok ((v.permissions.lookup (.text a)).getD (.bool false)) = _
  rw [h]
  rfl

namespace Listing

open LocalEvaluator

variable {ν : Type} [BEq ν] [ReflBEq ν] [Name ν] {e : LocalEvaluator ν} {sys : System}
  {s : Subject} {type : Data} {m : Mapping} {db : Database} {bind : Bind} {i : Nat}

/-- The affinity of the column at a place. -/
def affinityAt (s : Schema) (i : Nat) : Affinity := (s.columns[i]?.map (·.type.affinity)).getD .none

/-- A condition that runs, reads as it is written and compares identities with those of their own type. -/
structure Settled (m : Mapping) (i : Nat) (db : Database) (c : Condition) (sql : String) : Prop where
  parameterless : c.hasParameters = false
  runs : c.runs db = true
  whole : '\x00' ∉ sql.toList
  faithful : ∀ l ∈ c.literals none, l.Faithful
  sameType : ∀ z ∈ c.targets db, z.affinity = affinityAt m.table i
  usable : c.mentionsTarget = true → isUsableRef m.table m.columnRef = true

/-- A row that is stored and read as its columns do, and whose identity denotes itself when it is bound. -/
structure Identified (e : LocalEvaluator ν) (type : Data) (m : Mapping) (i : Nat) (row : Row) : Prop where
  stored : (affinityAt m.table i).apply (row[i]?.getD .null) = row[i]?.getD .null
  readable : ∃ fields, m.table.read row = .ok fields
  binds : Value.bind (e.facts.idType type) (m.identityOf row) = .ok (row[i]?.getD .null)
  fits : (row[i]?.getD .null).fits = true

/-! ## One permission on one row -/

theorem bindFault?_eq_none {ls : List Literal} (h : ∀ l ∈ ls, ∃ v, Value.bind l.type l.value = .ok v) :
    Condition.bindFault? ls = none := by
  unfold Condition.bindFault?
  rw [List.findSome?_eq_none_iff]
  intro l hl
  obtain ⟨v, hv⟩ := h l hl
  rw [hv]

theorem mem_literals {c : Condition} {target l : Literal} (h : l ∈ c.literals (some target)) :
    l = target ∨ l ∈ c.literals none := by
  unfold Condition.literals at *
  simp only [List.mem_append] at *
  rcases h with (h | h) | h
  · split at h
    · exact .inl (by simpa using h)
    · simp at h
  · exact .inr (.inl (.inr h))
  · exact .inr (.inr h)

/-- A point check on a listed row answers what the condition says of the row. -/
theorem answer_of_settled {action : String} {c : Condition} {sql : String} {row : Row}
    (hsees : bind.Sees sys db) (hengine : bind = .connection ∨ e.hasEngine = true)
    (hc : Compiles e (e.configIn sys) s type m action c sql) (hsettled : Settled m i db c sql)
    (hrow : Identified e type m i row) :
    e.answer bind sys s (.text action) ⟨type, m.identityOf row⟩ =
      .ok (c.holds db Literal.written (m.table.operand row i)) := by
  have hbound : (e.target ⟨type, m.identityOf row⟩).bound = row[i]?.getD .null := by
    unfold Literal.bound target
    rw [hrow.binds]
  have htest : Testable c (e.target ⟨type, m.identityOf row⟩) db := by
    refine ⟨(Condition.forColumn_eq_ok_iff.mp hc.text).2.1, hsettled.parameterless, ?_, hsettled.runs, ?_⟩
    · refine bindFault?_eq_none fun l hl => ?_
      rcases mem_literals hl with rfl | hl
      · exact ⟨_, hrow.binds⟩
      · exact ⟨_, (hsettled.faithful l hl).binds⟩
    · unfold Condition.allFit
      rw [List.all_eq_true]
      intro l hl
      rcases mem_literals hl with rfl | hl
      · rw [hbound]
        exact hrow.fits
      · exact (hsettled.faithful l hl).fits
  rw [answer_eq hsees hengine hc.condition htest, hbound]
  congr 1
  refine Condition.holds_congr (fun l hl => (hsettled.faithful l hl).bound_eq) fun z hz => ?_
  exact (Operand.eq_bare_of_stored hrow.stored (hsettled.sameType z hz)).symm

/-- A placed fragment runs if its text has no null character and its condition runs as it is written. -/
theorem runs_placed (action : String) (c : Condition) (sql : String) :
    (placed type m action c sql).runs db m.table = (!sql.toList.contains '\x00' && c.isReadable && c.runs db &&
      (!c.mentionsTarget || isUsableRef m.table m.columnRef)) := rfl

theorem runs_of_settled {action : String} {c : Condition} {sql : String}
    (hsettled : Settled m i db c sql) : (placed type m action c sql).runs db m.table = true := by
  have hwhole : (!sql.toList.contains '\x00') = true := by
    simpa using hsettled.whole
  have hreadable : c.isReadable = true := by
    unfold Condition.isReadable
    rw [List.all_eq_true]
    exact fun l hl => (hsettled.faithful l hl).readable
  have husable : (!c.mentionsTarget || isUsableRef m.table m.columnRef) = true := by
    cases hmentions : c.mentionsTarget with
    | false => rfl
    | true => rw [hsettled.usable hmentions]; rfl
  rw [runs_placed, hwhole, hreadable, hsettled.runs, husable]
  rfl

/-- As a filter and as a permission a placed fragment says what the condition does. -/
theorem admits_placed {action : String} {c : Condition} {sql : String} {row : Row} :
    (placed type m action c sql).admits db m.table i row =
      c.holds db Literal.written (m.table.operand row i) := by
  show (Value.int (if c.holds db Literal.written (m.table.operand row i) then 1 else 0)).toNumeric.eq
    (.int 1) = _
  cases c.holds db Literal.written (m.table.operand row i) <;> rfl

theorem grants_placed {action : String} {c : Condition} {sql : String} {row : Row} :
    (placed type m action c sql).grants db m.table i row =
      c.holds db Literal.written (m.table.operand row i) := by
  show ((if c.holds db Literal.written (m.table.operand row i) then (1 : Int) else 0) != 0) = _
  cases c.holds db Literal.written (m.table.operand row i) <;> rfl

/-- A fragment runs and says of every row what point checks answer about an action. -/
structure Answers (e : LocalEvaluator ν) (bind : Bind) (sys : System) (s : Subject) (type : Data)
    (m : Mapping) (i : Nat) (db : Database) (t : Table) (action : String) (f : Fragment) : Prop where
  runs : f.runs db m.table = true
  answer : ∀ row ∈ t.rows, e.answer bind sys s (.text action) ⟨type, m.identityOf row⟩ =
    .ok (f.grants db m.table i row)
  admits : ∀ row, f.admits db m.table i row = f.grants db m.table i row

theorem answers_placed {t : Table} {action : String} {c : Condition} {sql : String}
    (hsees : bind.Sees sys db) (hengine : bind = .connection ∨ e.hasEngine = true)
    (hc : Compiles e (e.configIn sys) s type m action c sql) (hsettled : Settled m i db c sql)
    (hrows : ∀ row ∈ t.rows, Identified e type m i row) :
    Answers e bind sys s type m i db t action (placed type m action c sql) where
  runs := runs_of_settled hsettled
  answer row hrow := by
    rw [answer_of_settled hsees hengine hc hsettled (hrows row hrow), grants_placed]
  admits row := by rw [admits_placed, grants_placed]

/-! ## The rows of a planned listing -/

section Planned

variable {p : Plan} {t : Table}

theorem identityPosition_eq (hplace : p.mapping.table.position? p.mapping.identity.name = some i) :
    p.identityPosition = i := by
  unfold Plan.identityPosition
  rw [hplace]
  rfl

/-- A planned listing runs when its fragments do. -/
theorem runs_of_fragments (horder : p.order = []) (htable : db.table? p.mapping.table.name = some t)
    (hfragments : ∀ f ∈ p.fragments, f.runs db p.mapping.table = true) : p.runs db = true := by
  have hall : (p.fragments.all fun f => f.runs db p.mapping.table) = true :=
    List.all_eq_true.mpr hfragments
  unfold Plan.runs
  rw [htable, horder, hall]
  rfl

/-- Without an order of its own a listing has each row that passes once, in the order of identities. -/
theorem readable_of_table (horder : p.order = []) (htable : db.table? p.mapping.table.name = some t)
    (hplace : p.mapping.table.position? p.mapping.identity.name = some i)
    (hordered : ∀ row ∈ t.rows, (row[i]?.getD .null).IsOrdered) :
    (p.readable db).Perm (t.rows.filter (p.read.admits db p.mapping.table i)) ∧
      (p.readable db).Pairwise fun a b => (b[i]?.getD .null).lt (a[i]?.getD .null) = false := by
  have hreadable : p.readable db =
      (t.scanned.filter (p.read.admits db p.mapping.table i)).mergeSort fun a b =>
        !(b[i]?.getD .null).lt (a[i]?.getD .null) := by
    unfold Plan.readable Plan.sorted
    simp only [htable, identityPosition_eq hplace, horder, List.isEmpty_nil, if_true]
    congr 1
    funext a b
    unfold Plan.keyLe
    simp [hplace]
  rw [hreadable]
  constructor
  · exact (List.mergeSort_perm _ _).trans (t.scanned_perm.filter _)
  · refine pairwise_mergeSort (fun row : Row => row[i]?.getD .null) ?_
    intro row hrow
    exact hordered row (t.scanned_perm.mem_iff.mp (List.mem_filter.mp hrow).1)

variable (db) in
/-- A row that can be read is shown with what every fragment grants on it. -/
theorem vector_of_readable {row : Row} {fields : List (String × Scalar)}
    (hfields : p.mapping.table.read row = .ok fields)
    (hplace : p.mapping.table.position? p.mapping.identity.name = some i) :
    ∃ v, p.vector db row = .ok v ∧ v.Shows p.mapping row ∧
      v.permissions = p.extras.map fun extra =>
        (extra.1, .bool (extra.2.grants db p.mapping.table i row)) := by
  have hvector : p.vector db row = .ok {
      identity := p.mapping.identityOf row
      fields := fields.map fun field => (field.1, Data.scalar field.2)
      permissions := p.extras.map fun extra =>
        (extra.1, .bool (extra.2.grants db p.mapping.table i row)) } := by
    unfold Plan.vector Mapping.identityOf
    rw [hfields, identityPosition_eq hplace]
    rfl
  exact ⟨_, hvector, ⟨⟨fields, hfields, rfl⟩, rfl⟩, rfl⟩

end Planned

/-! ## The listing -/

/-- The permissions of a row are found under their names. -/
theorem lookup_permissions {R : String → Fragment → Prop} {extras : List String}
    {fs : List (Data × Fragment)}
    (h : List.Forall₂ (fun a extra => ∃ f, R a f ∧ extra = (Data.text a, f)) extras fs)
    (grant : Fragment → Bool) {a : String} (ha : a ∈ extras) :
    ∃ f, R a f ∧ (fs.map fun extra => (extra.1, Data.bool (grant extra.2))).lookup (.text a) =
      some (.bool (grant f)) := by
  induction h with
  | nil => simp at ha
  | @cons a' extra extras fs hextra _ ih =>
    obtain ⟨f, hf, rfl⟩ := hextra
    rw [List.map_cons, List.lookup_cons, Data.text_beq_text]
    by_cases heq : a = a'
    · subst heq
      exact ⟨f, hf, by simp⟩
    · simp only [heq, decide_false]
      exact ih ((List.mem_cons.mp ha).resolve_left heq)

/-- A listing is planned as soon as its permissions compile, and is then what its plan selects. -/
theorem list_apply {extras : List String} (given : Option Config) (hsees : bind.Sees sys db)
    (hlookup : sys.globals.registry.lookup type = .ok m) (hextras : extras.Nodup)
    (hcompiles : ∀ a ∈ readPermission :: extras, ∃ c sql,
      Compiles e (e.configIn sys) s type m a c sql) :
    ∃ p : Plan, PlannedFor e (e.configIn sys) s type m extras p ∧
      ∀ vs, p.select db = .ok vs →
        (list e.toEvaluator bind given s { type, extras := extras.map Data.text } sys).1 =
          .ok ⟨vs, none⟩ := by
  have hcheck : Request.check { type, extras := extras.map Data.text } s = .ok () := check_of_nodup hextras (by simp)
  obtain ⟨p, hplanned⟩ := exists_planned hlookup hcheck hcompiles
  obtain ⟨hfor, hself⟩ := plannedFor_of_planned hlookup hplanned
  refine ⟨p, hfor, ?_⟩
  intro vs hselect
  rw [list_outcome given hsees extras false, hplanned, ok_bind, hselect]
  unfold Plan.listing
  rw [hself]
  rfl

/-- A planned listing whose fragments run selects every row that passes, once and in the order of identities, and
shows it with what every fragment grants on it. -/
theorem exists_select {p : Plan} {t : Table} (hmapping : p.mapping = m) (horder : p.order = [])
    (htable : db.table? m.table.name = some t) (hplace : m.table.position? m.identity.name = some i)
    (hfragments : ∀ f ∈ p.fragments, f.runs db m.table = true)
    (hordered : ∀ row ∈ t.rows, (row[i]?.getD .null).IsOrdered)
    (hreadable : ∀ row ∈ t.rows, ∃ fields, m.table.read row = .ok fields) :
    ∃ vs rows, p.select db = .ok vs ∧
      rows.Perm (t.rows.filter (p.read.admits db m.table i)) ∧
      (rows.Pairwise fun a b => (b[i]?.getD .null).lt (a[i]?.getD .null) = false) ∧
      List.Forall₂ (fun row v => v.Shows m row ∧
        v.permissions = p.extras.map fun extra => (extra.1, .bool (extra.2.grants db m.table i row))) rows vs := by
  subst hmapping
  have hruns := runs_of_fragments horder htable hfragments
  obtain ⟨hperm, hsorted⟩ := readable_of_table horder htable hplace hordered
  have hvectors : ∀ row ∈ p.readable db, ∃ v, p.vector db row = .ok v ∧ v.Shows p.mapping row ∧
      v.permissions = p.extras.map fun extra =>
        (extra.1, .bool (extra.2.grants db p.mapping.table i row)) := by
    intro row hrow
    obtain ⟨fields, hfields⟩ := hreadable row (List.mem_filter.mp (hperm.mem_iff.mp hrow)).1
    exact vector_of_readable db hfields hplace
  obtain ⟨vs, hvs⟩ := exists_forall₂ hvectors
  refine ⟨vs, p.readable db, ?_, hperm, hsorted, hvs.imp fun _ _ h => h.2⟩
  unfold Plan.select
  rw [hruns]
  exact mapM_eq_ok_iff.mpr (hvs.imp fun _ _ h => h.1)

/-- What a listing selects whose fragments say what point checks answer. -/
theorem select_of_answers {p : Plan} {t : Table} {extras : List String} (hmapping : p.mapping = m)
    (horder : p.order = []) (htable : db.table? m.table.name = some t)
    (hplace : m.table.position? m.identity.name = some i)
    (hrows : ∀ row ∈ t.rows, Identified e type m i row)
    (hread : Answers e bind sys s type m i db t readPermission p.read)
    (hgrants : List.Forall₂ (fun a extra => ∃ f, Answers e bind sys s type m i db t a f ∧
      extra = (Data.text a, f)) extras p.extras) :
    ∃ vs rows, p.select db = .ok vs ∧
      rows.Perm (t.rows.filter fun row =>
        e.answer bind sys s (.text readPermission) ⟨type, m.identityOf row⟩ = .ok true) ∧
      (rows.Pairwise fun a b => (b[i]?.getD .null).lt (a[i]?.getD .null) = false) ∧
      List.Forall₂ (fun row v => v.Shows m row ∧ ∀ a ∈ extras, ∃ b,
        v.allows (.text a) = .ok (.bool b) ∧
          e.answer bind sys s (.text a) ⟨type, v.identity⟩ = .ok b) rows vs := by
  subst hmapping
  have hfragments : ∀ f ∈ p.fragments, f.runs db p.mapping.table = true := by
    intro f hf
    rcases List.mem_cons.mp hf with rfl | hf
    · exact hread.runs
    · obtain ⟨extra, hextra, rfl⟩ := List.mem_map.mp hf
      obtain ⟨a, _, g, hg, rfl⟩ := exists_of_mem_right hgrants hextra
      exact hg.runs
  obtain ⟨vs, rows, hselect, hperm, hsorted, hshown⟩ := exists_select rfl horder htable hplace hfragments
    (fun row hrow => Value.isOrdered_of_bind (hrows row hrow).binds) fun row hrow => (hrows row hrow).readable
  have hfilter : (t.rows.filter fun row =>
        e.answer bind sys s (.text readPermission) ⟨type, p.mapping.identityOf row⟩ = .ok true) =
      t.rows.filter (p.read.admits db p.mapping.table i) := by
    refine List.filter_congr ?_
    intro row hrow
    rw [hread.answer row hrow, hread.admits]
    simp
  -- the rows found are rows of the table, on which every permission can be looked up
  have hmem := (List.forall₂_and_left _ _).mpr
    ⟨fun row hrow => (List.mem_filter.mp (hperm.mem_iff.mp hrow)).1, hshown⟩
  refine ⟨vs, rows, hselect, hfilter ▸ hperm, hsorted, hmem.imp ?_⟩
  rintro row v ⟨hrow, hshows, hpermissions⟩
  refine ⟨hshows, fun a ha => ?_⟩
  obtain ⟨f, hf, hlookup⟩ := lookup_permissions hgrants (fun f => f.grants db p.mapping.table i row) ha
  refine ⟨f.grants db p.mapping.table i row, ?_, ?_⟩
  · exact v.allows_of_lookup (hpermissions ▸ hlookup)
  · rw [hshows.identity]
    exact hf.answer row hrow

/-- A listing has exactly the rows that point checks allow to read, each once and in the order of
identities, and shows on each what point checks answer about the further permissions. -/
theorem list_agrees_with_checks {t : Table} {extras : List String} (given : Option Config)
    (hsees : bind.Sees sys db) (hengine : bind = .connection ∨ e.hasEngine = true)
    (hlookup : sys.globals.registry.lookup type = .ok m)
    (htable : db.table? m.table.name = some t)
    (hplace : m.table.position? m.identity.name = some i) (hextras : extras.Nodup)
    (hcompiles : ∀ a ∈ readPermission :: extras, ∃ c sql,
      Compiles e (e.configIn sys) s type m a c sql ∧ Settled m i db c sql)
    (hrows : ∀ row ∈ t.rows, Identified e type m i row) :
    (∀ a ∈ readPermission :: extras, ∀ row ∈ t.rows, ∃ b,
        e.answer bind sys s (.text a) ⟨type, m.identityOf row⟩ = .ok b) ∧
      ∃ l rows, (list e.toEvaluator bind given s { type, extras := extras.map Data.text } sys).1 =
          .ok l ∧
        l.thisSubject = none ∧
        rows.Perm (t.rows.filter fun row =>
          e.answer bind sys s (.text readPermission) ⟨type, m.identityOf row⟩ = .ok true) ∧
        (rows.Pairwise fun a b => (b[i]?.getD .null).lt (a[i]?.getD .null) = false) ∧
        List.Forall₂ (fun row v => v.Shows m row ∧ ∀ a ∈ extras, ∃ b,
          v.allows (.text a) = .ok (.bool b) ∧
            e.answer bind sys s (.text a) ⟨type, v.identity⟩ = .ok b) rows l.rows := by
  -- whatever an action compiles to, its fragment and its checks agree row by row
  have hanswers : ∀ a ∈ readPermission :: extras, ∀ c sql,
      Compiles e (e.configIn sys) s type m a c sql →
        Answers e bind sys s type m i db t a (placed type m a c sql) := by
    intro a ha c sql hc
    obtain ⟨c', sql', hc', hsettled⟩ := hcompiles a ha
    obtain ⟨rfl, rfl⟩ := hc.unique hc'
    exact answers_placed hsees hengine hc hsettled hrows
  have hplanned : ∀ a ∈ readPermission :: extras, ∃ c sql,
      Compiles e (e.configIn sys) s type m a c sql := by
    intro a ha
    obtain ⟨c, sql, hc, _⟩ := hcompiles a ha
    exact ⟨c, sql, hc⟩
  refine ⟨fun a ha row hrow => ?_, ?_⟩
  · obtain ⟨c, sql, hc⟩ := hplanned a ha
    exact ⟨_, (hanswers a ha c sql hc).answer row hrow⟩
  · obtain ⟨p, hfor, hlist⟩ := list_apply given hsees hlookup hextras hplanned
    obtain ⟨c, sql, hc, hread⟩ := hfor.read
    have hreads : Answers e bind sys s type m i db t readPermission p.read :=
      hread ▸ hanswers readPermission List.mem_cons_self c sql hc
    have hgrants : List.Forall₂ (fun a extra => ∃ f, Answers e bind sys s type m i db t a f ∧
        extra = (Data.text a, f)) extras p.extras := by
      have hmem := (List.forall₂_and_left _ _).mpr ⟨fun a ha => ha, hfor.extras⟩
      refine hmem.imp ?_
      intro a extra hpair
      obtain ⟨ha, c, sql, hc, rfl⟩ := hpair
      exact ⟨_, hanswers a (List.mem_cons_of_mem _ ha) c sql hc, rfl⟩
    obtain ⟨vs, rows, hselect, hperm, hsorted, hshown⟩ :=
      select_of_answers hfor.mapping hfor.order htable hplace hrows hreads hgrants
    exact ⟨⟨vs, none⟩, rows, hlist vs hselect, rfl, hperm, hsorted, hshown⟩

end Listing

end RowGuard

namespace RowGuard.Shelf

open Listing

/-- The readers of a document may read it. -/
def documentBlock : Block where
  name := "Doc"
  roles := ["reader"]
  permissions := ["read"]
  rules := [⟨"read", .role "reader"⟩]

def policy : Policy := ⟨[documentBlock], .text "User"⟩

def documents : Schema := ⟨"docs", [{ name := "id", type := .text, isKey := true }]⟩

def documentRoles : Schema :=
  ⟨"doc_roles", [{ name := "actor", type := .text }, { name := "role", type := .text },
    { name := "doc", type := .text }]⟩

/-- The query that gives a document's roles. -/
def roleQuery : Selection :=
  ⟨"doc_roles", [⟨"actor", .text, false⟩, ⟨"role", .text, false⟩, ⟨"doc", .text, false⟩], none,
    false⟩

/-- Facts whose actors are said to have identities of the given type. -/
def facts (userType : ColumnType) : FactBook where
  roles := [(.text "Doc", .selection roleQuery)]
  sqlTypes := [(.text "User", userType), (.text "Doc", .text)]

def evaluator (userType : ColumnType) : LocalEvaluator := { policy, facts := facts userType }

/-- A reader of the only document. -/
def reader : Subject := ⟨.text "User", .text "07"⟩

def database : Database :=
  ⟨[⟨documents, [[.text "d"]]⟩, ⟨documentRoles, [[.text "07", .text "reader", .text "d"]]⟩]⟩

def mapping : Mapping := ⟨.text "Doc", documents, { name := "id", type := .text, isKey := true }⟩

def system : System := { disk := database, globals := { registry := ⟨[mapping]⟩ } }

/-- The document's roles as a condition sees them. -/
def roleFact : Subquery := (FactQuery.selection roleQuery).toSubquery []

/-- The condition for reading a document. -/
def readable (userType : ColumnType) : Condition :=
  [.role roleFact ⟨.text "07", some userType⟩ ["reader"]]

theorem close_read :
    Derivation.close documentBlock.rules ["read"] = (["read", "reader"], documentBlock.rules) := by
  simp [documentBlock, Derivation.close, Derivation.granting, Derivation.grantingOthers,
    Derivation.requiredHere, Derivation.impliedBy]

/-- With any facts, the readers of a document are those that its role fact gives. -/
theorem condition_of_fact {book : FactBook} {fact : Subquery}
    (hfact : book.role policy.actorType (.text "Doc") = .ok fact) :
    LocalEvaluator.condition { policy, facts := book } {} reader (.text "read") (.text "Doc") =
      .ok [.role fact (book.actorLiteral policy reader) ["reader"]] := by
  have hlocal : (documentBlock.derive ["read"]).localRoles = ["reader"] := by
    show ((Derivation.close documentBlock.rules ["read"]).1.filter _).eraseDups = _
    rw [close_read]
    decide
  have hrelated : (documentBlock.derive ["read"]).related = [] := by
    show Derivation.relatedOf (Derivation.close documentBlock.rules ["read"]).2 = _
    rw [close_read]
    rfl
  have hglobal : (documentBlock.derive ["read"]).globalRoles = [] := by
    show Derivation.globalRolesOf (Derivation.close documentBlock.rules ["read"]).2 = _
    rw [close_read]
    rfl
  have hattributes : (documentBlock.derive ["read"]).attributes = [] := by
    show Derivation.attributesOf (Derivation.close documentBlock.rules ["read"]).2 = _
    rw [close_read]
    rfl
  have hactor : policy.isActor reader = true := by
    simp [Policy.isActor, policy, reader]
  have hdeclared : policy.declares "Doc" "read" = true := by decide
  exact LocalEvaluator.condition_of_role (b := documentBlock) hactor hdeclared (by decide) rfl hlocal hrelated hglobal
    hattributes hfact

theorem condition_read (userType : ColumnType) :
    (evaluator userType).condition {} reader (.text "read") (.text "Doc") =
      .ok (readable userType) := by
  have hlookup : (facts userType).roles.lookup (.text "Doc") = some (.selection roleQuery) := by
    simp [facts]
  have hfact : (facts userType).role policy.actorType (.text "Doc") = .ok roleFact :=
    FactBook.role_of_lookup rfl hlookup (FactQuery.sized_selection rfl)
  have hliteral : (facts userType).actorLiteral policy reader = ⟨.text "07", some userType⟩ := by
    simp [FactBook.actorLiteral, FactBook.idType, facts, policy, reader]
  exact (condition_of_fact hfact).trans (congrArg (fun l => Except.ok [Clause.role roleFact l ["reader"]]) hliteral)

/-- The text of the condition when the subject is written as the given text. -/
def readSql (subject : String) : String :=
  "docs.id IN (SELECT anon_1.doc \nFROM (SELECT doc_roles.actor AS actor, doc_roles.role AS role, " ++
    "doc_roles.doc AS doc \nFROM doc_roles) AS anon_1 \nWHERE anon_1.actor = " ++ subject ++
    " AND anon_1.role IN ('reader'))"

theorem compiles_text : (readable .text).forColumn .sqlite (.text "docs.id") = .ok (readSql "'07'") := by
  decide +kernel

theorem compiles_integer : (readable .integer).forColumn .sqlite (.text "docs.id") = .ok (readSql "7") := by
  decide +kernel

theorem sees_database : (Bind.engine true).Sees system database := ⟨rfl, rfl⟩

theorem lookup_doc : system.globals.registry.lookup (.text "Doc") = .ok mapping := by
  simp [Registry.lookup, Registry.get?, system, mapping, Data.requireKey]
  rfl

theorem settled_read : Settled mapping 0 database (readable .text) (readSql "'07'") where
  parameterless := by decide
  runs := by decide
  whole := by decide +kernel
  faithful := by
    have hliterals : (readable .text).literals none =
        [⟨.text "07", some .text⟩, ⟨.text "reader", some .text⟩] := by decide
    rw [hliterals]
    intro l hl
    rcases List.mem_cons.mp hl with rfl | hl
    · exact Literal.faithful_text (by simp [ColumnType.affinity])
    · obtain rfl := List.mem_singleton.mp hl
      exact Literal.faithful_text (by simp [ColumnType.affinity])
  sameType := by
    have htargets : (readable .text).targets database = [⟨.text "d", .text⟩] := by decide
    rw [htargets]
    intro z hz
    obtain rfl := List.mem_singleton.mp hz
    rfl
  usable _ := by decide +kernel

theorem target_document (userType : ColumnType) :
    (evaluator userType).target ⟨.text "Doc", .text "d"⟩ = ⟨.text "d", some .text⟩ := by
  have htype : (facts userType).idType (.text "Doc") = some .text := by
    simp [FactBook.idType, facts, List.lookup_cons]
  exact congrArg (Literal.mk (.text "d")) htype

theorem identified_document (userType : ColumnType) :
    Identified (evaluator userType) (.text "Doc") mapping 0 [.text "d"] where
  stored := rfl
  readable := ⟨[("id", .text "d")], rfl⟩
  binds := by
    have htype := congrArg Literal.type (target_document userType)
    show Value.bind ((evaluator userType).target ⟨.text "Doc", .text "d"⟩).type (.text "d") = _
    rw [htype]
    rfl
  fits := rfl

/-- A listing of documents agrees with point checks where the identities of users are texts. -/
theorem list_agrees_with_checks_of_reader :
    (Bind.engine true).Sees system database ∧
      system.globals.registry.lookup (.text "Doc") = .ok mapping ∧
      (∀ a ∈ readPermission :: ["read"], ∃ c sql,
        Compiles (evaluator .text) {} reader (.text "Doc") mapping a c sql ∧
          Settled mapping 0 database c sql) ∧
      (∀ row ∈ [[Value.text "d"]], Identified (evaluator .text) (.text "Doc") mapping 0 row) ∧
      ∃ l rows, (list (evaluator .text).toEvaluator (.engine true) none reader
          { type := .text "Doc", extras := ["read"].map Data.text } system).1 = .ok l ∧
        l.thisSubject = none ∧
        rows.Perm ([[Value.text "d"]].filter fun row =>
          (evaluator .text).answer (.engine true) system reader (.text readPermission)
            ⟨.text "Doc", mapping.identityOf row⟩ = .ok true) ∧
        (rows.Pairwise fun a b => (b[0]?.getD Value.null).lt (a[0]?.getD .null) = false) ∧
        List.Forall₂ (fun row v => v.Shows mapping row ∧ ∀ a ∈ ["read"], ∃ b,
          v.allows (.text a) = .ok (.bool b) ∧
            (evaluator .text).answer (.engine true) system reader (.text a)
              ⟨.text "Doc", v.identity⟩ = .ok b) rows l.rows := by
  have hcompiles : ∀ a ∈ readPermission :: ["read"], ∃ c sql,
      Compiles (evaluator .text) {} reader (.text "Doc") mapping a c sql ∧
        Settled mapping 0 database c sql := by
    intro a ha
    obtain rfl : a = "read" := by simpa [readPermission] using ha
    exact ⟨readable .text, readSql "'07'", ⟨condition_read .text, compiles_text⟩, settled_read⟩
  have hrows : ∀ row ∈ [[Value.text "d"]], Identified (evaluator .text) (.text "Doc") mapping 0 row := by
    intro row hrow
    obtain rfl := List.mem_singleton.mp hrow
    exact identified_document .text
  have hplace : mapping.table.position? mapping.identity.name = some 0 := by decide
  exact ⟨sees_database, lookup_doc, hcompiles, hrows,
    (list_agrees_with_checks none sees_database (.inr rfl) lookup_doc rfl hplace (by simp) hcompiles
      hrows).2⟩

/-- A user whose identity is a text of digits may read a document, but a listing does not have it where
the identities of users are said to be numbers: a point check binds the text, a listing writes a number. -/
theorem reader_is_not_listed :
    (∀ t ∈ database.tables, ∀ row ∈ t.rows, ∀ v ∈ row, ∃ s, v = .text s) ∧
      (∃ c sql, Compiles (evaluator .integer) {} reader (.text "Doc") mapping readPermission c sql) ∧
      (evaluator .integer).answer (.engine true) system reader (.text readPermission)
        ⟨.text "Doc", .text "d"⟩ = .ok true ∧
      (list (evaluator .integer).toEvaluator (.engine true) none reader { type := .text "Doc" }
        system).1 = .ok ⟨[], none⟩ := by
  have hc : Compiles (evaluator .integer) {} reader (.text "Doc") mapping readPermission
      (readable .integer) (readSql "7") := ⟨condition_read .integer, compiles_integer⟩
  refine ⟨?_, ⟨_, _, hc⟩, ?_, ?_⟩
  · simp [database]
  · have htest : LocalEvaluator.Testable (readable .integer)
        ((evaluator .integer).target ⟨.text "Doc", .text "d"⟩) database := by
      rw [target_document]
      exact ⟨by decide, by decide, by decide, by decide, by decide⟩
    have hanswer : (evaluator .integer).answer (.engine true) system reader (.text readPermission)
        ⟨.text "Doc", .text "d"⟩ = _ :=
      LocalEvaluator.answer_eq sees_database (.inr rfl) (condition_read .integer) htest
    rw [hanswer, target_document]
    decide
  · have hcompiles : ∀ a ∈ readPermission :: [], ∃ c sql,
        Compiles (evaluator .integer) {} reader (.text "Doc") mapping a c sql := by
      intro a ha
      obtain rfl := List.mem_singleton.mp ha
      exact ⟨_, _, hc⟩
    obtain ⟨p, ⟨_, hmapping, horder, ⟨c, sql, hc', hread⟩, hextra⟩, hlist⟩ :=
      list_apply none sees_database lookup_doc List.nodup_nil hcompiles
    obtain ⟨rfl, rfl⟩ := hc.unique hc'
    have hextras : p.extras = [] := List.forall₂_nil_left_iff.mp hextra
    have hplace : mapping.table.position? mapping.identity.name = some 0 := by decide
    have htable : database.table? p.mapping.table.name = some ⟨documents, [[.text "d"]]⟩ := by
      rw [hmapping]
      rfl
    have hruns : p.runs database = true := by
      refine runs_of_fragments horder htable ?_
      intro f hf
      obtain rfl : f = p.read := by simpa [Plan.fragments, hextras] using hf
      rw [hread, hmapping]
      decide +kernel
    -- the only document does not pass
    have hreadable : p.readable database = [] := by
      obtain ⟨hperm, _⟩ := readable_of_table horder htable (hmapping ▸ hplace) (by
        simp [Value.IsOrdered])
      have hnone : [[Value.text "d"]].filter (p.read.admits database p.mapping.table 0) = [] := by
        rw [hread, hmapping]
        decide
      exact List.perm_nil.mp (hnone ▸ hperm)
    refine hlist [] ?_
    unfold Plan.select
    rw [hruns, hreadable]
    rfl

end RowGuard.Shelf
