import RowGuard.Proofs.Access.Selection
import RowGuard.Proofs.Evaluator.Testing
import RowGuard.Proofs.Records.Contents
import RowGuard.Proofs.Records.Policy

/-!
# The facts of the records application

On a database that meets the application's schemas, the queries of its fact book run and answer what the tables
say about users, documents and roles.
-/

namespace RowGuard

/-- A text from a column. -/
abbrev Operand.text (s : String) : Operand := ⟨.text s, .text⟩

/-- A whole number from a column. -/
abbrev Operand.int (n : Int) : Operand := ⟨.int n, .numeric⟩

namespace Records

variable {db : Database} {row : List Operand}

/-- The query can be asked, and its rows are those that are told. -/
structure Answers (q : Subquery) (columns : Nat) (db : Database) (rows : List Operand → Prop) : Prop where
  askable : q.Askable columns db
  mem_rows : ∀ row, row ∈ q.rows db ↔ rows row

theorem Answers.congr {q : Subquery} {columns : Nat} {rows rows' : List Operand → Prop}
    (h : Answers q columns db rows) (hrows : ∀ row, rows row ↔ rows' row) : Answers q columns db rows' :=
  ⟨h.askable, fun row => (h.mem_rows row).trans (hrows row)⟩

section Selections

variable {s : Selection} {types : List (Option ColumnType)} {columns : Nat} {scan : Scan} {schema : Schema}
  {places : List (Nat × Bool)}

theorem answers_of_selection {takes : Row → Bool} (h : db.Meets schemas) (hschema : schema ∈ schemas)
    (hscan : Scan.ofSelection s = .ok scan) (htable : scan.table = schema.name)
    (hplaces : scan.places? schema (((FactQuery.selection s).toSubquery types).columns.map (·.1.plain)) =
      some places)
    (htakes : scan.takes? schema = some takes)
    (hnames : ∀ i < columns, Subquery.nameFault? (((FactQuery.selection s).toSubquery types).nameAt i) = none)
    (hfilter : ∀ l, Condition.filterLiteral? ((FactQuery.selection s).toSubquery types) = some l → l.Binds) :
    Answers ((FactQuery.selection s).toSubquery types) columns db fun row =>
      ∃ stored ∈ db.rows schema.name, takes stored = true ∧ row = Scan.readAt schema places stored := by
  have hfound : db.tables.find? (fun t => Scan.sameName t.schema.name scan.table) =
      some ⟨schema, db.rows schema.name⟩ := by
    rw [htable, h.find?_sameName names_apart hschema, h.table?_eq names_nodup hschema]
  have hrun := Subquery.rows?_eq_ok (q := (FactQuery.selection s).toSubquery types) hscan hfound hplaces htakes
  refine ⟨⟨hnames, rfl, by rw [hrun]; rfl, hfilter⟩, ?_⟩
  intro row
  unfold Subquery.rows
  rw [hrun]
  constructor
  · intro hrow
    obtain ⟨stored, hstored, rfl⟩ := List.mem_map.mp hrow
    obtain ⟨hmem, htaken⟩ := List.mem_filter.mp hstored
    exact ⟨stored, hmem, htaken, rfl⟩
  · rintro ⟨stored, hmem, htaken, rfl⟩
    exact List.mem_map_of_mem (List.mem_filter.mpr ⟨hmem, htaken⟩)

theorem answers_of_columns (h : db.Meets schemas) (hschema : schema ∈ schemas) (hunfiltered : s.filter = none)
    (hscan : Scan.ofSelection s = .ok scan) (htable : scan.table = schema.name)
    (hplaces : scan.places? schema (((FactQuery.selection s).toSubquery types).columns.map (·.1.plain)) =
      some places)
    (htakes : scan.takes? schema = some fun _ => true)
    (hnames : ∀ i < columns, Subquery.nameFault? (((FactQuery.selection s).toSubquery types).nameAt i) = none) :
    Answers ((FactQuery.selection s).toSubquery types) columns db fun row =>
      ∃ stored ∈ db.rows schema.name, row = Scan.readAt schema places stored := by
  have hnone : Condition.filterLiteral? ((FactQuery.selection s).toSubquery types) = none := by
    obtain ⟨table, selected, filter, distinct⟩ := s
    obtain rfl : filter = none := hunfiltered
    rfl
  have hanswers := answers_of_selection h hschema hscan htable hplaces htakes hnames (by simp [hnone])
  simpa using hanswers

end Selections

section Books

variable (h : db.Meets schemas)

include h

theorem exists_organizationRoles :
    ∃ fact, facts.role policy.actorType (.text "Organization") = .ok fact ∧ fact.typeAt 1 = some .string ∧
      Answers fact 3 db fun row =>
        ∃ user org role, HasUser db user org role ∧ row = [.text user, .text role, .text org] := by
  have hlookup : facts.roles.lookup (.text "Organization") = some (.selection ⟨users.name,
      [select Columns.username, selectRole Columns.userRole, select Columns.org], none, false⟩) := by
    simp only [facts, List.lookup_cons, Data.text_beq_text]
    rfl
  refine ⟨_, FactBook.role_of_lookup rfl hlookup (FactQuery.sized_selection rfl), rfl, ?_⟩
  exact (answers_of_columns h (by decide : users ∈ schemas) rfl rfl rfl
    (by decide : _ = some [(0, false), (2, true), (1, false)]) rfl (by decide)).congr
    fun _ => exists_mem_users_iff h

theorem exists_documentRoles :
    ∃ fact, facts.role policy.actorType (.text "Document") = .ok fact ∧ fact.typeAt 1 = some .string ∧
      Answers fact 3 db fun row =>
        ∃ document user role, HasGrant db document user role ∧ row = [.text user, .text role, .int document] := by
  have hlookup : facts.roles.lookup (.text "Document") = some (.selection ⟨documentUserRoles.name,
      [select Columns.grantUser, selectRole Columns.grantRole, select Columns.grantDocument],
      none, false⟩) := by
    simp only [facts, List.lookup_cons, Data.text_beq_text]
    rfl
  refine ⟨_, FactBook.role_of_lookup rfl hlookup (FactQuery.sized_selection rfl), rfl, ?_⟩
  exact (answers_of_columns h (by decide : documentUserRoles ∈ schemas) rfl rfl rfl
    (by decide : _ = some [(1, false), (2, true), (0, false)]) rfl (by decide)).congr
    fun _ => exists_mem_documentUserRoles_iff h

theorem exists_globalRoles :
    ∃ fact, facts.globalRole policy.actorType = .ok fact ∧ fact.typeAt 1 = some .string ∧
      Answers fact 2 db fun row =>
        ∃ user role, HasUser db user globalOrg role ∧ row = [.text user, .text role] := by
  refine ⟨_, FactBook.globalRole_of_some rfl rfl (FactQuery.sized_selection rfl), rfl, ?_⟩
  refine (answers_of_selection h (by decide : users ∈ schemas) rfl rfl
    (by decide : _ = some [(0, false), (2, true)]) rfl (by decide)
    (by rintro l ⟨⟩; exact ⟨rfl, rfl⟩)).congr fun _ => (exists_mem_users_iff h).trans ?_
  constructor
  · rintro ⟨user, org, role, hu, htakes, rfl⟩
    obtain rfl : org = globalOrg := of_decide_eq_true htakes
    exact ⟨user, role, hu, rfl⟩
  · rintro ⟨user, role, hu, rfl⟩
    exact ⟨user, globalOrg, role, hu, rfl, rfl⟩

theorem exists_parents :
    ∃ fact, facts.relation (.text "User") (.text "parent") (.text "Organization") = .ok fact ∧
      Answers fact 2 db fun row => ∃ user org role, HasUser db user org role ∧ row = [.text user, .text org] := by
  have hlookup : facts.relations.lookup (.text "User", .text "parent", .text "Organization") =
      some (.selection ⟨users.name, [select Columns.username, select Columns.org], none, false⟩) := by
    simp only [facts, List.lookup_cons, prod_beq, Data.text_beq_text]
    rfl
  refine ⟨_, FactBook.relation_of_lookup hlookup (FactQuery.sized_selection rfl), ?_⟩
  exact (answers_of_columns h (by decide : users ∈ schemas) rfl rfl rfl
    (by decide : _ = some [(0, false), (1, false)]) rfl (by decide)).congr
    fun _ => exists_mem_users_iff h

theorem exists_owningOrganizations :
    ∃ fact, facts.relation (.text "Document") (.text "belongs_to") (.text "Organization") = .ok fact ∧
      Answers fact 2 db fun row => ∃ document org title isPublic, HasDocument db document org title isPublic ∧
        row = [.int document, .text org] := by
  have hlookup : facts.relations.lookup (.text "Document", .text "belongs_to", .text "Organization") =
      some (.selection ⟨documents.name, [select Columns.documentId, select Columns.org], none, false⟩) := by
    simp only [facts, List.lookup_cons, prod_beq, Data.text_beq_text]
    rfl
  refine ⟨_, FactBook.relation_of_lookup hlookup (FactQuery.sized_selection rfl), ?_⟩
  exact (answers_of_columns h (by decide : documents ∈ schemas) rfl rfl rfl
    (by decide : _ = some [(0, false), (1, false)]) rfl (by decide)).congr
    fun _ => exists_mem_documents_iff h

theorem exists_publicDocuments :
    ∃ fact, facts.attr (.text "public") (.text "Document") = .ok fact ∧
      Answers fact 1 db fun row => ∃ document org title, HasDocument db document org title true ∧
        row = [.int document] := by
  have hlookup : facts.attributes.lookup (.text "public", .text "Document") =
      some (.selection ⟨documents.name, [select Columns.documentId], some (.isTrue Columns.isPublic.name),
        false⟩) := by
    simp only [facts, List.lookup_cons, prod_beq, Data.text_beq_text]
    rfl
  refine ⟨_, FactBook.attr_of_lookup hlookup (FactQuery.sized_selection rfl), ?_⟩
  refine (answers_of_selection h (by decide : documents ∈ schemas) rfl rfl
    (by decide : _ = some [(0, false)]) rfl (by decide)
    (by rintro l ⟨⟩)).congr fun _ => (exists_mem_documents_iff h).trans ?_
  constructor
  · rintro ⟨document, org, title, isPublic, hd, htakes, rfl⟩
    cases isPublic with
    | true => exact ⟨document, org, title, hd, rfl⟩
    | false => exact absurd (show decide ((0 : Int) = 1) = true from htakes) (by decide)
  · rintro ⟨document, org, title, hd, rfl⟩
    exact ⟨document, org, title, true, hd, rfl, rfl⟩

/-- The book's queries run on the database. -/
theorem facts_askable : facts.Askable policy db where
  role type fact hfact := by
    obtain ⟨q, hq⟩ := FactBook.exists_lookup_of_role hfact
    obtain ⟨entry, hentry, hname⟩ := FactBook.exists_mem_of_lookup hq
    simp only [facts, List.mem_cons, List.not_mem_nil, or_false] at hentry
    rcases hentry with rfl | rfl
    · obtain rfl : type = "Organization" := by simpa using hname
      obtain ⟨fact', hfact', htexts, hanswers⟩ := exists_organizationRoles h
      obtain rfl := Except.ok.inj (hfact.symm.trans hfact')
      exact ⟨hanswers.askable, Subquery.binds_compared (by simp [htexts])⟩
    · obtain rfl : type = "Document" := by simpa using hname
      obtain ⟨fact', hfact', htexts, hanswers⟩ := exists_documentRoles h
      obtain rfl := Except.ok.inj (hfact.symm.trans hfact')
      exact ⟨hanswers.askable, Subquery.binds_compared (by simp [htexts])⟩
  globalRole fact hfact := by
    obtain ⟨fact', hfact', htexts, hanswers⟩ := exists_globalRoles h
    obtain rfl := Except.ok.inj (hfact.symm.trans hfact')
    exact ⟨hanswers.askable, Subquery.binds_compared (by simp [htexts])⟩
  relation type relation other fact hfact := by
    obtain ⟨q, hq⟩ := FactBook.exists_lookup_of_relation hfact
    obtain ⟨entry, hentry, hname⟩ := FactBook.exists_mem_of_lookup hq
    simp only [facts, List.mem_cons, List.not_mem_nil, or_false] at hentry
    rcases hentry with rfl | rfl
    · obtain ⟨rfl, rfl, rfl⟩ : type = "User" ∧ relation = "parent" ∧ other = "Organization" := by
        simpa [prod_beq] using hname
      obtain ⟨fact', hfact', hanswers⟩ := exists_parents h
      obtain rfl := Except.ok.inj (hfact.symm.trans hfact')
      exact hanswers.askable
    · obtain ⟨rfl, rfl, rfl⟩ : type = "Document" ∧ relation = "belongs_to" ∧ other = "Organization" := by
        simpa [prod_beq] using hname
      obtain ⟨fact', hfact', hanswers⟩ := exists_owningOrganizations h
      obtain rfl := Except.ok.inj (hfact.symm.trans hfact')
      exact hanswers.askable
  hasAttribute attr type fact hfact := by
    obtain ⟨q, hq⟩ := FactBook.exists_lookup_of_attr hfact
    obtain ⟨entry, hentry, hname⟩ := FactBook.exists_mem_of_lookup hq
    simp only [facts, List.mem_cons, List.not_mem_nil, or_false] at hentry
    subst hentry
    obtain ⟨rfl, rfl⟩ : attr = "public" ∧ type = "Document" := by simpa [prod_beq] using hname
    obtain ⟨fact', hfact', hanswers⟩ := exists_publicDocuments h
    obtain rfl := Except.ok.inj (hfact.symm.trans hfact')
    exact hanswers.askable

end Books

end Records

end RowGuard
